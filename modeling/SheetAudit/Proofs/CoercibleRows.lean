import Mathlib.Tactic
import SheetAudit.Proofs.CellTexts
import SheetAudit.Proofs.DoubleRounding
import SheetAudit.Proofs.Outcome
import SheetAudit.Proofs.RandomAccess

/-!
# Cells that are asked for their numbers

A cell refuses to give its number if it is a whole number beyond the range of a double, or a
signaling NaN.  The search for tables asks for numbers in one place only: a row with a label, below
a header that could be that of a matrix, is asked from left to right up to its first number.  So
random access fails exactly where it comes to such a row and a cell refuses before there is a
number.  In rows where no cell refuses it always gives its tables.
-/

namespace SheetAudit

open Outcome

/-! ## Cells that refuse -/

namespace Number

/-- The least whole number that is rounded to infinity: half a unit in the last place above the
greatest finite number. -/
def overflowBound : Nat := 2 ^ 1024 - 2 ^ 970

theorem isInfinite_ofInt_iff {n : Int} :
    (ofInt n).isInfinite = true ↔ overflowBound ≤ n.natAbs := by
  have hinfinite : (ofInt n).isInfinite = true ↔ topRank ≤ nearestRank n.natAbs 1 := by
    change (min (nearestRank n.natAbs 1) topRank == topRank) = true ↔ _
    rw [beq_iff_eq, min_eq_right_iff]
  rw [hinfinite]
  constructor
  · intro htop
    by_contra hsmall
    have hlast : nearestRank (overflowBound - 1) 1 < topRank := by decide +kernel
    have hmono : nearestRank n.natAbs 1 ≤ nearestRank (overflowBound - 1) 1 :=
      nearestRank_mono one_pos one_pos (by omega)
    omega
  · intro hlarge
    have hfirst : topRank ≤ nearestRank overflowBound 1 := by decide +kernel
    exact hfirst.trans (nearestRank_mono one_pos one_pos (by omega))

end Number

namespace Cell

/-- A cell that is asked for its number answers with an error. -/
inductive Refuses : Cell → CellError → Prop where
  | tooLarge {n : Int} (hlarge : Number.overflowBound ≤ n.natAbs) : Refuses (.int n) .intTooLarge
  | signaling (negative : Bool) (payload : List Char) :
    Refuses (.decimal (.nan negative true payload)) .signalingNaN

variable {cell : Cell} {e : CellError}

theorem number_int_eq_error_iff {n : Int} :
    (Cell.int n).number = .error e ↔ (Cell.int n).Refuses e := by
  rw [number]
  constructor
  · intro hnumber
    split at hnumber
    · next hinfinite =>
      cases hnumber
      exact .tooLarge (Number.isInfinite_ofInt_iff.mp hinfinite)
    · cases hnumber
  · rintro ⟨hlarge⟩
    rw [if_pos (Number.isInfinite_ofInt_iff.mpr hlarge)]
    rfl

theorem number_decimal_eq_error_iff {value : Decimal} :
    (Cell.decimal value).number = .error e ↔ (Cell.decimal value).Refuses e := by
  constructor
  · intro hnumber
    cases value with
    | finite => cases hnumber
    | infinite => cases hnumber
    | nan negative signaling payload =>
        cases signaling with
        | false => cases hnumber
        | true =>
            cases hnumber
            exact .signaling negative payload
  · rintro ⟨⟩
    rfl

theorem number_eq_error_iff : cell.number = .error e ↔ cell.Refuses e := by
  cases cell with
  | int => exact number_int_eq_error_iff
  | decimal => exact number_decimal_eq_error_iff
  | _ =>
      constructor
      · rintro ⟨⟩
      · rintro ⟨⟩

end Cell

/-! ## Rows that stop the search -/

namespace Table

variable {options : ScanOptions} {rows : List Row} {start : Nat} {e : CellError}

/-- A cell of a row refuses, and no cell before it has a number. -/
inductive RefusesAmong (e : CellError) : Row → Prop where
  | first {cell : Cell} (cells : Row) (hcell : cell.Refuses e) : RefusesAmong e (cell :: cells)
  | later {cell : Cell} {cells : Row} (hcell : cell.number = .ok none)
      (hcells : RefusesAmong e cells) : RefusesAmong e (cell :: cells)

theorem anyNumber_eq_error_iff {cells : Row} :
    anyNumber cells = .error e ↔ RefusesAmong e cells := by
  induction cells with
  | nil =>
      constructor
      · rintro ⟨⟩
      · rintro ⟨⟩
  | cons cell cells ih =>
      rw [anyNumber, Cell.isNumber]
      constructor
      · intro hany
        cases hcell : cell.number with
        | error cause =>
            rw [hcell] at hany
            cases hany
            exact .first cells (Cell.number_eq_error_iff.mp hcell)
        | ok number =>
            rw [hcell] at hany
            cases number with
            | none => exact .later hcell (ih.mp hany)
            | some value => cases hany
      · rintro (⟨_, hcell⟩ | ⟨hcell, hcells⟩)
        · rw [Cell.number_eq_error_iff.mpr hcell]
          rfl
        · rw [hcell]
          exact ih.mpr hcells

theorem RefusesAmong.exists_refuses {cells : Row} (hcells : RefusesAmong e cells) :
    ∃ cell ∈ cells, cell.Refuses e := by
  induction hcells with
  | first cells hcell => exact ⟨_, by simp, hcell⟩
  | later _ _ ih =>
      obtain ⟨cell, hcell, hrefuses⟩ := ih
      exact ⟨cell, by simp [hcell], hrefuses⟩

/-- A row with a label, below a possible header of a matrix, has a cell that refuses and no number
before it. -/
structure Stalls (header below : Row) (e : CellError) : Prop where
  header : isMatrixHeader header = true
  label : isLabelRow below = true
  refusal : RefusesAmong e (below.drop 1)

theorem startsMatrix_eq_error_iff {header below : Row} :
    startsMatrix header below = .error e ↔ Stalls header below e := by
  rw [startsMatrix]
  constructor
  · intro hstarts
    split at hstarts
    · next hboth =>
      rw [Bool.and_eq_true] at hboth
      exact ⟨hboth.1, hboth.2, anyNumber_eq_error_iff.mp hstarts⟩
    · cases hstarts
  · rintro ⟨hheader, hlabel, hrefusal⟩
    rw [hheader, hlabel]
    exact anyNumber_eq_error_iff.mpr hrefusal

theorem tableAt?_eq_error_iff :
    tableAt? options rows start = .error e ↔
      Stalls (rowAt rows start) (rowAt rows (start + 1)) e := by
  rw [← startsMatrix_eq_error_iff]
  cases hstarts : startsMatrix (rowAt rows start) (rowAt rows (start + 1)) with
  | error cause => rw [tableAt?_of_error options hstarts, Except.error.injEq, Except.error.injEq]
  | ok isMatrix =>
      cases isMatrix with
      | true =>
          rw [tableAt?_of_matrix options hstarts]
          simp
      | false =>
          rw [tableAt?_of_not_matrix options hstarts]
          simp

/-! ## Rows that the search comes to -/

/-- A search that starts at a row comes to look for a table at another: it goes on below the tables
it finds, and one row down where there is none. -/
inductive SoughtFrom (options : ScanOptions) (rows : List Row) : Nat → Nat → Prop where
  | here {start : Nat} (hstart : start < rows.length) : SoughtFrom options rows start start
  | belowRow {start row : Nat} (hstart : start < rows.length)
      (htable : tableAt? options rows start = .ok none)
      (hrest : SoughtFrom options rows (start + 1) row) : SoughtFrom options rows start row
  | belowTable {start row : Nat} {table : Table} (hstart : start < rows.length)
      (htable : tableAt? options rows start = .ok (some table))
      (hrest : SoughtFrom options rows (table.endRow + 1) row) : SoughtFrom options rows start row

theorem SoughtFrom.tablesFrom_eq_error {row : Nat} (hrow : SoughtFrom options rows start row)
    (hstalls : Stalls (rowAt rows row) (rowAt rows (row + 1)) e) :
    tablesFrom options rows start = .error e := by
  induction hrow with
  | here hstart => exact tablesFrom_of_error hstart (tableAt?_eq_error_iff.mpr hstalls)
  | belowRow hstart htable _ ih => rw [tablesFrom_of_none hstart htable, ih hstalls]
  | belowTable hstart htable _ ih =>
      rw [tablesFrom_of_some hstart htable, ih hstalls]
      rfl

theorem exists_soughtFrom_of_error (htables : tablesFrom options rows start = .error e) :
    ∃ row, SoughtFrom options rows start row ∧
      Stalls (rowAt rows row) (rowAt rows (row + 1)) e := by
  induction start using tablesFrom.induct options rows with
  | case1 start hstart cause htable =>
      rw [tablesFrom_of_error hstart htable] at htables
      cases htables
      exact ⟨start, .here hstart, tableAt?_eq_error_iff.mp htable⟩
  | case2 start hstart htable ih =>
      rw [tablesFrom_of_none hstart htable] at htables
      obtain ⟨row, hrow, hstalls⟩ := ih htables
      exact ⟨row, .belowRow hstart htable hrow, hstalls⟩
  | case3 start hstart table htable ih =>
      rw [tablesFrom_of_some hstart htable] at htables
      cases hrest : tablesFrom options rows (table.endRow + 1) with
      | ok tables =>
          rw [hrest] at htables
          cases htables
      | error cause =>
          rw [hrest] at htables
          cases htables
          obtain ⟨row, hrow, hstalls⟩ := ih hrest
          exact ⟨row, .belowTable hstart htable hrow, hstalls⟩
  | case4 start hend =>
      rw [tablesFrom_of_length_le (Nat.not_lt.mp hend)] at htables
      cases htables

theorem tablesFrom_eq_error_iff :
    tablesFrom options rows start = .error e ↔
      ∃ row, SoughtFrom options rows start row ∧
        Stalls (rowAt rows row) (rowAt rows (row + 1)) e := by
  constructor
  · exact exists_soughtFrom_of_error
  · rintro ⟨row, hrow, hstalls⟩
    exact hrow.tablesFrom_eq_error hstalls

end Table

/-! ## Rows in which no cell refuses -/

/-- Asking a cell of the row for its number does not fail. -/
def CoercibleRow (row : Row) : Prop := ∀ cell ∈ row, ∃ number, cell.number = .ok number

/-- Asking a cell of the sheet for its number does not fail. -/
def Coercible (rows : List Row) : Prop := ∀ row ∈ rows, CoercibleRow row

variable {row : Row} {rows : List Row}

theorem Coercible.normalizedRows (hrows : Coercible rows) : Coercible (normalizedRows rows) := by
  intro row hrow cell hcell
  obtain ⟨given, hgiven, rfl⟩ := List.mem_map.mp hrow
  obtain ⟨original, horiginal, rfl⟩ := List.mem_map.mp hcell
  rw [Cell.number_normalized]
  exact hrows given hgiven original horiginal

theorem Coercible.rowAt (hrows : Coercible rows) (i : Nat) : CoercibleRow (Table.rowAt rows i) := by
  intro cell hcell
  by_cases hi : i < rows.length
  · rw [Table.rowAt_eq_getElem hi] at hcell
    exact hrows rows[i] (List.getElem_mem hi) cell hcell
  · rw [Table.rowAt_of_length_le (Nat.not_lt.mp hi)] at hcell
    cases hcell

theorem Table.exists_tablesFrom (options : ScanOptions) (hrows : Coercible rows) (start : Nat) :
    ∃ tables, tablesFrom options rows start = .ok tables := by
  cases htables : tablesFrom options rows start with
  | ok tables => exact ⟨tables, rfl⟩
  | error e =>
      obtain ⟨row, -, hstalls⟩ := exists_soughtFrom_of_error htables
      obtain ⟨cell, hcell, hrefuses⟩ := hstalls.refusal.exists_refuses
      obtain ⟨number, hnumber⟩ := hrows.rowAt (row + 1) cell (List.mem_of_mem_drop hcell)
      rw [Cell.number_eq_error_iff.mpr hrefuses] at hnumber
      cases hnumber

end SheetAudit
