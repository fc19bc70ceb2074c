import Mathlib.Data.Int.Range
import Mathlib.Tactic
import SheetAudit.Rectangle

/-!
# Rectangles in row-major order

The cells of a rectangle are computed from their places, a quotient and a remainder for each.  This
file shows the order in which that lists them: row by row from the smallest to the largest, and
column by column inside a row.  A cut between two rows cuts the list in two, which is why a sheet
can be checked window by window.
-/

namespace SheetAudit

/-- Two ranges of integers that meet are one range. -/
theorem range_append_range {a b c : Int} (hab : a ≤ b) (hbc : b ≤ c) :
    Int.range a b ++ Int.range b c = Int.range a c := by
  obtain ⟨m, rfl⟩ := Int.le.dest hab
  obtain ⟨n, rfl⟩ := Int.le.dest hbc
  have hfirst : (a + m - a).toNat = m := by omega
  have hsecond : (a + m + n - (a + m)).toNat = n := by omega
  have hboth : (a + m + n - a).toNat = m + n := by omega
  unfold Int.range
  rw [hfirst, hsecond, hboth, List.range_add, List.map_append, List.map_map]
  congr 1
  apply List.map_congr_left
  intro place _
  simp only [Function.comp_apply, Nat.cast_add]
  ring

theorem range_eq_nil {a b : Int} (hba : b ≤ a) : Int.range a b = [] := by
  have hlength : (b - a).toNat = 0 := by omega
  unfold Int.range
  rw [hlength]
  rfl

/-- The places of a grid, counted row by row. -/
theorem range_mul (height width : Nat) :
    List.range (height * width) =
      (List.range height).flatMap fun row =>
        (List.range width).map fun col => row * width + col := by
  induction height with
  | zero => simp
  | succ height ih =>
      rw [Nat.succ_mul, List.range_add, ih, List.range_succ, List.flatMap_append]
      simp

namespace Rectangle

/-- The cells of a rectangle with the rows in ascending order and, inside each row, the columns. -/
def rowMajor (r : Rectangle) : List Address :=
  (Int.range r.firstRow (r.lastRow + 1)).flatMap fun row =>
    (Int.range r.firstCol (r.lastCol + 1)).map fun col => ⟨row, col⟩

theorem cellAt_mul_add (r : Rectangle) {row col : Nat} (hcol : col < r.width) :
    r.cellAt (row * r.width + col) = ⟨r.firstRow + row, r.firstCol + col⟩ := by
  have hwidth : 0 < r.width := by omega
  have hquotient : (row * r.width + col) / r.width = row := by
    rw [Nat.mul_comm, Nat.mul_add_div hwidth, Nat.div_eq_of_lt hcol, Nat.add_zero]
  have hremainder : (row * r.width + col) % r.width = col := by
    rw [Nat.mul_comm, Nat.mul_add_mod, Nat.mod_eq_of_lt hcol]
  unfold cellAt
  rw [hquotient, hremainder]

theorem cells_eq_rowMajor (r : Rectangle) : r.cells = r.rowMajor := by
  have hheight : (r.lastRow + 1 - r.firstRow).toNat = r.height := by
    unfold height
    omega
  have hwidth : (r.lastCol + 1 - r.firstCol).toNat = r.width := by
    unfold width
    omega
  unfold cells count rowMajor Int.range
  rw [hheight, hwidth, range_mul, List.map_flatMap, List.flatMap_map]
  simp only [List.map_map]
  congr 1
  funext row
  apply List.map_congr_left
  intro col hcol
  exact r.cellAt_mul_add (List.mem_range.mp hcol)

theorem length_rowMajor (r : Rectangle) : r.rowMajor.length = r.count := by
  rw [← cells_eq_rowMajor, cells, List.length_map, List.length_range]

theorem mem_rowMajor {r : Rectangle} {address : Address} :
    address ∈ r.rowMajor ↔
      (r.firstRow ≤ address.row ∧ address.row ≤ r.lastRow) ∧
        r.firstCol ≤ address.col ∧ address.col ≤ r.lastCol := by
  obtain ⟨row, col⟩ := address
  simp only [rowMajor, List.mem_flatMap, List.mem_map, Int.mem_range_iff, Address.mk.injEq,
    Int.lt_add_one_iff]
  constructor
  · rintro ⟨_, hrow, _, hcol, rfl, rfl⟩
    exact ⟨hrow, hcol⟩
  · rintro ⟨hrow, hcol⟩
    exact ⟨row, hrow, col, hcol, rfl, rfl⟩

/-! ## Cuts between rows -/

theorem rowMajor_eq_nil {r : Rectangle} (hrows : r.lastRow < r.firstRow) : r.rowMajor = [] := by
  have hnone : Int.range r.firstRow (r.lastRow + 1) = [] := range_eq_nil (by omega)
  unfold rowMajor
  rw [hnone]
  rfl

/-- A cut at a row splits the cells from an earlier row on into those above and those below. -/
theorem rowMajor_clip_append (r : Rectangle) {first stop : Int} (hfirst : first ≤ stop) :
    (r.clip (.span first stop)).rowMajor ++ (r.clip ⟨stop, none⟩).rowMajor =
      (r.clip ⟨first, none⟩).rowMajor := by
  obtain hbelow | hstop := lt_or_ge r.lastRow stop
  · have hnone : (r.clip ⟨stop, none⟩).rowMajor = [] := by
      apply rowMajor_eq_nil
      simp only [clip]
      omega
    have hall : r.clip (.span first stop) = r.clip ⟨first, none⟩ := by
      simp only [clip, RowWindow.span, Rectangle.mk.injEq, true_and, and_true]
      omega
    rw [hnone, hall, List.append_nil]
  · obtain habove | hstart := lt_or_ge stop r.firstRow
    · have hnone : (r.clip (.span first stop)).rowMajor = [] := by
        apply rowMajor_eq_nil
        simp only [clip, RowWindow.span]
        omega
      have hall : r.clip ⟨stop, none⟩ = r.clip ⟨first, none⟩ := by
        simp only [clip, Rectangle.mk.injEq, and_true]
        omega
      rw [hnone, hall, List.nil_append]
    · have hlast : min r.lastRow (stop - 1) + 1 = stop := by omega
      have hmiddle : max r.firstRow stop = stop := by omega
      simp only [rowMajor, clip, RowWindow.span]
      rw [hlast, hmiddle, ← List.flatMap_append, range_append_range (by omega) (by omega)]

end Rectangle

end SheetAudit
