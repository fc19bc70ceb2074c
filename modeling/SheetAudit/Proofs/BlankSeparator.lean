import Mathlib.Tactic
import SheetAudit.Proofs.CoercibleRows
import SheetAudit.Proofs.Outcome
import SheetAudit.Proofs.RandomAccess
import SheetAudit.Proofs.ScannerRefinement

/-!
# Blank rows separate tables

No table is headed by a blank row and none reaches one.  So a stretch of a sheet that ends above a
blank row has the tables it would have as a sheet of its own, only further down.  A sheet with a
blank row in it is two such stretches: the rows above, and the rows below.
-/

namespace SheetAudit

open Outcome

def Table.shiftDown (count : Nat) (table : Table) : Table :=
  { table with startRow := table.startRow + count, endRow := table.endRow + count }

@[simp] theorem Table.shiftDown_zero : Table.shiftDown 0 = id := rfl

@[simp] theorem Table.endRow_shiftDown (count : Nat) (table : Table) :
    (table.shiftDown count).endRow = table.endRow + count := rfl

/-- A stretch of a sheet, from a row on, that ends above a blank row or at the end of the sheet. -/
structure Stretch (offset : Nat) (part whole : List Row) : Prop where
  length_le : offset + part.length ≤ whole.length
  rowAt_eq : ∀ i < part.length, Table.rowAt whole (offset + i) = Table.rowAt part i
  blank_below : Table.isBlankRow (Table.rowAt whole (offset + part.length)) = true

namespace Table

/-! ## Blank rows -/

variable {row header below : Row}

theorem isText_of_isBlank {cell : Cell} (hblank : cell.isBlank = true) : cell.isText = false := by
  cases cell <;> simp [Cell.isText, hblank]

theorem isBlankRow_iff : isBlankRow row = true ↔ ∀ cell ∈ row, cell.isBlank = true := by
  rw [isBlankRow, List.all_eq_true]

theorem normalized_normalized (cell : Cell) : cell.normalized.normalized = cell.normalized := by
  cases cell with
  | double value => cases value <;> rfl
  | text value =>
      by_cases hempty : value.isEmpty = true
      · rw [Cell.normalized, if_pos hempty]
        rfl
      · rw [Cell.normalized, if_neg hempty, Cell.normalized, if_neg hempty]
  | _ => rfl

theorem isBlankRow_normalized (hblank : ∀ cell ∈ row, cell.isBlank = true) :
    isBlankRow (row.map Cell.normalized) = true := by
  rw [isBlankRow_iff]
  intro cell hcell
  obtain ⟨given, hgiven, rfl⟩ := List.mem_map.mp hcell
  rw [Cell.isBlank, normalized_normalized]
  exact hblank given hgiven

theorem isLabelRow_of_blank (hblank : isBlankRow row = true) : isLabelRow row = false := by
  cases row with
  | nil => rfl
  | cons cell cells => exact isText_of_isBlank (isBlankRow_iff.mp hblank cell (by simp))

theorem isVerticalHeader_of_blank (hblank : isBlankRow row = true) :
    isVerticalHeader row = false := by
  have hcols : textColumns row = [] := by
    rw [List.eq_nil_iff_forall_not_mem]
    intro col hcol
    obtain ⟨cell, hcell, htext⟩ := mem_textColumns.mp hcol
    rw [isText_of_isBlank (isBlankRow_iff.mp hblank cell (List.mem_of_getElem? hcell))] at htext
    cases htext
  rw [isVerticalHeader, hcols]
  rfl

theorem isMatrixHeader_of_blank (hblank : isBlankRow row = true) : isMatrixHeader row = false := by
  cases row with
  | nil => rfl
  | cons corner cells =>
      have hshown : cells.filter (!·.isBlank) = [] := by
        rw [List.filter_eq_nil_iff]
        intro cell hcell
        simp [isBlankRow_iff.mp hblank cell (by simp [hcell])]
      simp [isMatrixHeader, hshown]

theorem startsMatrix_of_blank (hblank : isBlankRow header = true ∨ isBlankRow below = true) :
    startsMatrix header below = .ok false := by
  rw [startsMatrix, if_neg]
  · rfl
  · rcases hblank with hheader | hbelow
    · simp [isMatrixHeader_of_blank hheader]
    · simp [isLabelRow_of_blank hbelow]

theorem tableAt?_of_blank {options : ScanOptions} {rows : List Row} {start : Nat}
    (hblank : isBlankRow (rowAt rows start) = true) : tableAt? options rows start = .ok none := by
  rw [tableAt?_of_not_matrix options (startsMatrix_of_blank (.inl hblank)),
    isVerticalHeader_of_blank hblank, if_neg]
  intro hboth
  cases hboth.1

end Table

/-! ## Tables of a stretch -/

namespace Stretch

open Table

variable {options : ScanOptions} {fits : Row → Bool} {limit : Int} {offset start last : Nat}
variable {part whole : List Row}

theorem reaches_iff (hstretch : Stretch offset part whole)
    (hfits : ∀ row, isBlankRow row = true → fits row = false) (hstart : start < part.length)
    (hlast : start ≤ last) :
    Reaches fits (limit + offset) whole (offset + start) (offset + last) ↔
      Reaches fits limit part start last := by
  induction last, hlast using Nat.le_induction with
  | base => exact iff_of_true reaches_self reaches_self
  | succ last hlast ih =>
      rw [← Nat.add_assoc, reaches_succ_iff (by omega), reaches_succ_iff hlast, ih]
      apply and_congr_right
      intro hreach
      have hinside : last < part.length := hreach.lt_length (hfits [] rfl) hstart
      have hrow : fits (rowAt whole (offset + last + 1)) = fits (rowAt part (last + 1)) := by
        by_cases hnext : last + 1 < part.length
        · rw [Nat.add_assoc, hstretch.rowAt_eq (last + 1) hnext]
        · have hend : last + 1 = part.length := by omega
          rw [Nat.add_assoc, hend, hfits _ hstretch.blank_below,
            rowAt_of_length_le (le_refl part.length), hfits [] rfl]
      rw [hrow]
      apply and_congr_left
      intro _
      omega

theorem lastReached_eq (hstretch : Stretch offset part whole)
    (hfits : ∀ row, isBlankRow row = true → fits row = false) (hstart : start < part.length) :
    lastReached fits (limit + offset) whole (offset + start) =
      offset + lastReached fits limit part start := by
  have hle : start ≤ lastReached fits limit part start := le_lastReached hstart.le
  have hgreatest := isGreatest_lastReached limit (hfits [] rfl) hstart
  have hlength := hstretch.length_le
  apply Table.lastReached_eq (hfits [] rfl) (by omega) (by omega)
  · rw [hstretch.reaches_iff hfits hstart hle]
    exact hgreatest.1
  · rw [Nat.add_assoc, hstretch.reaches_iff hfits hstart (by omega)]
    intro hnext
    have hbound := hgreatest.2 hnext
    omega

theorem lastShown_eq (hstretch : Stretch offset part whole) (hlast : start ≤ last)
    (hinside : last < part.length) :
    lastShown whole (offset + start) (offset + last) = lastShown part start last := by
  induction last, hlast using Nat.le_induction with
  | base => rw [lastShown_self, lastShown_self, hstretch.rowAt_eq start hinside]
  | succ last hlast ih =>
      rw [← Nat.add_assoc, lastShown_succ (by omega), lastShown_succ hlast, ih (by omega),
        Nat.add_assoc, hstretch.rowAt_eq (last + 1) hinside]

theorem dataRows_eq (hstretch : Stretch offset part whole) (hlast : start ≤ last)
    (hinside : last < part.length) :
    dataRows whole (offset + start) (offset + last) = dataRows part start last := by
  induction last, hlast using Nat.le_induction with
  | base => rw [dataRows_self, dataRows_self]
  | succ last hlast ih =>
      rw [← Nat.add_assoc, dataRows_succ (by omega), dataRows_succ hlast, ih (by omega),
        Nat.add_assoc, hstretch.rowAt_eq (last + 1) hinside, hstretch.rowAt_eq start (by omega)]

theorem startsMatrix_eq (hstretch : Stretch offset part whole) (hstart : start < part.length) :
    startsMatrix (rowAt whole (offset + start)) (rowAt whole (offset + start + 1)) =
      startsMatrix (rowAt part start) (rowAt part (start + 1)) := by
  rw [hstretch.rowAt_eq start hstart]
  by_cases hnext : start + 1 < part.length
  · rw [Nat.add_assoc, hstretch.rowAt_eq (start + 1) hnext]
  · have hend : start + 1 = part.length := by omega
    rw [Nat.add_assoc, hend, startsMatrix_of_blank (.inr hstretch.blank_below),
      rowAt_of_length_le (le_refl part.length), startsMatrix_of_blank (.inr rfl)]

theorem matrixEnd_eq (hstretch : Stretch offset part whole) (hstart : start < part.length) :
    matrixEnd options whole (offset + start) = offset + matrixEnd options part start := by
  have hlimit : matrixLimit options (offset + start) = matrixLimit options start + offset := by
    unfold matrixLimit
    omega
  rw [matrixEnd, hlimit]
  exact hstretch.lastReached_eq (fun _ => isLabelRow_of_blank) hstart

theorem verticalEnd_eq (hstretch : Stretch offset part whole) (hstart : start < part.length) :
    verticalEnd options whole (offset + start) = offset + verticalEnd options part start := by
  have hlimit : verticalLimit options (offset + start) =
      verticalLimit options start + offset := by
    unfold verticalLimit
    omega
  rw [verticalEnd, hlimit]
  exact hstretch.lastReached_eq (by simp) hstart

theorem matrixAt_eq (hstretch : Stretch offset part whole) (hstart : start < part.length) :
    matrixAt options whole (offset + start) = (matrixAt options part start).shiftDown offset := by
  have hle : start ≤ matrixEnd options part start := le_lastReached hstart.le
  have hinside : matrixEnd options part start < part.length :=
    lastReached_lt rfl hstart
  rw [matrixAt, hstretch.matrixEnd_eq hstart, hstretch.lastShown_eq hle hinside,
    hstretch.rowAt_eq start hstart, matrixAt, shiftDown]
  simp only [Nat.add_comm]

theorem verticalAt_eq (hstretch : Stretch offset part whole) (hstart : start < part.length) :
    verticalAt options whole (offset + start) =
      (verticalAt options part start).shiftDown offset := by
  rw [verticalAt, hstretch.verticalEnd_eq hstart, hstretch.rowAt_eq start hstart, verticalAt,
    shiftDown]
  simp only [Nat.add_comm]

/-- The table at a row of a stretch is the table that the stretch alone has there. -/
theorem tableAt?_eq (options : ScanOptions) (hstretch : Stretch offset part whole)
    (hstart : start < part.length) :
    tableAt? options whole (offset + start) =
      (tableAt? options part start).map fun found => found.map (shiftDown offset) := by
  have hstarts := hstretch.startsMatrix_eq hstart
  cases hpart : startsMatrix (rowAt part start) (rowAt part (start + 1)) with
  | error e =>
      rw [tableAt?_of_error options hpart, tableAt?_of_error options (hstarts.trans hpart)]
      rfl
  | ok isMatrix =>
      cases isMatrix with
      | true =>
          rw [tableAt?_of_matrix options hpart, tableAt?_of_matrix options (hstarts.trans hpart),
            hstretch.matrixAt_eq hstart]
          rfl
      | false =>
          have hle : start ≤ verticalEnd options part start := le_lastReached hstart.le
          have hinside : verticalEnd options part start < part.length :=
            lastReached_lt rfl hstart
          rw [tableAt?_of_not_matrix options hpart,
            tableAt?_of_not_matrix options (hstarts.trans hpart),
            hstretch.rowAt_eq start hstart, hstretch.verticalEnd_eq hstart,
            hstretch.dataRows_eq hle hinside, hstretch.verticalAt_eq hstart]
          split <;> rfl

/-- From a row of a stretch on, a sheet has the tables that the stretch alone has from there on, and
then those below the stretch. -/
theorem tablesFrom_eq (options : ScanOptions) (hstretch : Stretch offset part whole)
    (hstart : start ≤ part.length) :
    tablesFrom options whole (offset + start) = (do
      let first ← tablesFrom options part start
      let rest ← tablesFrom options whole (offset + part.length)
      pure (first.map (shiftDown offset) ++ rest)) := by
  induction start using tablesFrom.induct options part with
  | case1 start hinside e htable =>
      have hlength := hstretch.length_le
      have hwhole := hstretch.tableAt?_eq options hinside
      rw [htable] at hwhole
      rw [tablesFrom_of_error hinside htable, tablesFrom_of_error (by omega) hwhole]
      rfl
  | case2 start hinside htable ih =>
      have hlength := hstretch.length_le
      have hwhole := hstretch.tableAt?_eq options hinside
      rw [htable] at hwhole
      rw [tablesFrom_of_none hinside htable, tablesFrom_of_none (by omega) hwhole, Nat.add_assoc,
        ih hinside]
  | case3 start hinside table htable ih =>
      have hlength := hstretch.length_le
      have hrows := rows_of_tableAt? hinside htable
      have hwhole := hstretch.tableAt?_eq options hinside
      rw [htable] at hwhole
      have hbelow : (shiftDown offset table).endRow + 1 = offset + (table.endRow + 1) := by
        rw [endRow_shiftDown]
        omega
      rw [tablesFrom_of_some hinside htable, tablesFrom_of_some (by omega) hwhole, hbelow,
        ih (by omega)]
      cases tablesFrom options part (table.endRow + 1) with
      | error e => rfl
      | ok first =>
          cases tablesFrom options whole (offset + part.length) with
          | error e => rfl
          | ok rest => rfl
  | case4 start hend =>
      have hlast : start = part.length := by omega
      rw [hlast, tablesFrom_of_length_le (le_refl part.length), ok_bind]
      cases tablesFrom options whole (offset + part.length) with
      | error e => rfl
      | ok rest => rfl

end Stretch

/-! ## The rows from a row on -/

section Below

variable {rows : List Row} {count : Nat}

theorem stretch_drop (hcount : count ≤ rows.length) : Stretch count (rows.drop count) rows := by
  have hlength : count + (rows.drop count).length = rows.length := by
    rw [List.length_drop]
    omega
  refine ⟨hlength.le, ?_, ?_⟩
  · intro i _
    rw [Table.rowAt, Table.rowAt, List.getElem?_drop]
  · rw [hlength, Table.rowAt_of_length_le (le_refl rows.length)]
    rfl

theorem tablesFrom_drop (options : ScanOptions) (hcount : count ≤ rows.length) :
    Table.tablesFrom options rows count =
      (Table.tablesFrom options (rows.drop count) 0).map fun tables =>
        tables.map (Table.shiftDown count) := by
  have hend : rows.length ≤ count + (rows.drop count).length := by
    rw [List.length_drop]
    omega
  rw [← Nat.add_zero count, (stretch_drop hcount).tablesFrom_eq options (Nat.zero_le _),
    Table.tablesFrom_of_length_le hend, Nat.add_zero]
  cases Table.tablesFrom options (rows.drop count) 0 with
  | error e => rfl
  | ok tables => simp [Except.map]

end Below

/-! ## A sheet with a blank row -/

section Separator

variable {options : ScanOptions} {above below : List Row} {blank : Row}

theorem stretch_above (above below : List Row) (hblank : Table.isBlankRow blank = true) :
    Stretch 0 above (above ++ blank :: below) := by
  constructor
  · simp
  · intro i hi
    rw [Nat.zero_add, Table.rowAt_append_left hi]
  · rw [Nat.zero_add, ← Nat.add_zero above.length, Table.rowAt_append_right]
    exact hblank

/-- At a blank row no table starts, and the rows below it are a stretch. -/
theorem tablesFrom_below (hblank : Table.isBlankRow blank = true) :
    Table.tablesFrom options (above ++ blank :: below) above.length =
      (Table.tablesFrom options below 0).map fun tables =>
        tables.map (Table.shiftDown (above.length + 1)) := by
  have hrow : Table.rowAt (above ++ blank :: below) above.length = blank := by
    rw [← Nat.add_zero above.length, Table.rowAt_append_right]
    rfl
  have hnone : Table.tableAt? options (above ++ blank :: below) above.length = .ok none := by
    apply Table.tableAt?_of_blank
    rw [hrow]
    exact hblank
  have hlength : (above ++ blank :: below).length = above.length + 1 + below.length := by
    rw [List.length_append, List.length_cons]
    omega
  have hdrop : (above ++ blank :: below).drop (above.length + 1) = below := by
    rw [← List.drop_drop, List.drop_left, List.drop_succ_cons, List.drop_zero]
  rw [Table.tablesFrom_of_none (by omega) hnone, tablesFrom_drop options (by omega), hdrop]

theorem tablesFrom_separator (hblank : Table.isBlankRow blank = true) :
    Table.tablesFrom options (above ++ blank :: below) 0 = (do
      let first ← Table.tablesFrom options above 0
      let second ← Table.tablesFrom options below 0
      pure (first ++ second.map (Table.shiftDown (above.length + 1)))) := by
  have hstretch := stretch_above above below hblank
  have hsplit := hstretch.tablesFrom_eq options (Nat.zero_le above.length)
  rw [Nat.zero_add, Nat.zero_add, tablesFrom_below hblank] at hsplit
  rw [hsplit]
  cases Table.tablesFrom options above 0 with
  | error e => rfl
  | ok first =>
      cases Table.tablesFrom options below 0 with
      | error e => rfl
      | ok second => simp [Except.map]

end Separator

/-- The tables of a sheet with a blank row are the tables of the rows above it and, further down,
the tables of the rows below it. -/
theorem scanTables_blank_separator (options : ScanOptions) (above below : List Row) (blank : Row)
    (hblank : ∀ cell ∈ blank, cell.isBlank = true) :
    scanTables options (above ++ blank :: below) = (do
        let first ← scanTables options above
        let second ← scanTables options below
        pure (first ++ second.map (Table.shiftDown (above.length + 1)))) ∧
      (Coercible above → Coercible below →
        ∃ tables, scanTables options (above ++ blank :: below) = .ok tables) := by
  have hrows : normalizedRows (above ++ blank :: below) =
      normalizedRows above ++ blank.map Cell.normalized :: normalizedRows below := by
    simp [normalizedRows]
  have hlength : (normalizedRows above).length = above.length := List.length_map _
  have hsplit : scanTables options (above ++ blank :: below) = (do
      let first ← scanTables options above
      let second ← scanTables options below
      pure (first ++ second.map (Table.shiftDown (above.length + 1)))) := by
    rw [scanTables_eq_tablesFrom, scanTables_eq_tablesFrom, scanTables_eq_tablesFrom, hrows,
      tablesFrom_separator (Table.isBlankRow_normalized hblank), hlength]
    cases Table.tablesFrom options (normalizedRows above) 0 with
    | error e => rfl
    | ok first =>
        cases Table.tablesFrom options (normalizedRows below) 0 with
        | error e => rfl
        | ok second => rfl
  refine ⟨hsplit, ?_⟩
  intro habove hbelow
  obtain ⟨first, hfirst⟩ := exists_scanTables options habove
  obtain ⟨second, hsecond⟩ := exists_scanTables options hbelow
  rw [hsplit, hfirst, hsecond]
  exact ⟨_, rfl⟩

def townList : List Row := [[.text "name", .text "town"], [.text "Ann", .text "Bonn"]]

theorem scanTables_townList_twice :
    ∃ tables, scanTables ⟨50, 100, 1⟩ (townList ++ [.text " ", .empty] :: townList) = .ok tables ∧
      tables = [⟨0, 1, 0, 1, ["name", "town"], .vertical⟩,
        ⟨3, 4, 0, 1, ["name", "town"], .vertical⟩] := by
  have hblank : ∀ cell ∈ [Cell.text " ", Cell.empty], cell.isBlank = true := by decide +kernel
  have hrows : Coercible townList := by
    simp [Coercible, CoercibleRow, townList, Cell.number]
  have hlist : scanTables ⟨50, 100, 1⟩ townList =
      .ok [⟨0, 1, 0, 1, ["name", "town"], .vertical⟩] := by
    rw [scanTables_eq_tablesFrom]
    decide +kernel
  obtain ⟨hsplit, htotal⟩ := scanTables_blank_separator ⟨50, 100, 1⟩ townList townList _ hblank
  obtain ⟨tables, htables⟩ := htotal hrows hrows
  refine ⟨tables, htables, ?_⟩
  rw [hsplit, hlist] at htables
  cases htables
  rfl

end SheetAudit
