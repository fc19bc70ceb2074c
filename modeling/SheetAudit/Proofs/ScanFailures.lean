import Mathlib.Tactic
import SheetAudit.Proofs.CoercibleRows
import SheetAudit.Proofs.Outcome
import SheetAudit.Proofs.ScannerRefinement

/-!
# Sheets whose tables cannot be found

A scanner fails where random access fails: at a row with a label, below a possible header of a
matrix, in which a cell refuses to give its number.  Whatever the options are, one such cell is
enough to lose all tables of its sheet.
-/

namespace SheetAudit

open Outcome Table

/-- The search for tables fails exactly if it comes to a row that stops it, and with the error of
the cell that refuses there. -/
theorem scanTables_eq_error_iff (options : ScanOptions) (rows : List Row) (e : ScanError) :
    scanTables options rows = .error e ↔
      ∃ cause row, e = .cell cause ∧ SoughtFrom options (normalizedRows rows) 0 row ∧
        Stalls (rowAt (normalizedRows rows) row) (rowAt (normalizedRows rows) (row + 1)) cause := by
  rw [scanTables_eq_tablesFrom, mapError_eq_error_iff]
  constructor
  · rintro ⟨cause, htables, rfl⟩
    obtain ⟨row, hrow, hstalls⟩ := tablesFrom_eq_error_iff.mp htables
    exact ⟨cause, row, rfl, hrow, hstalls⟩
  · rintro ⟨cause, row, rfl, hrow, hstalls⟩
    exact ⟨cause, tablesFrom_eq_error_iff.mpr ⟨row, hrow, hstalls⟩, rfl⟩

/-- Where no cell refuses, the tables are found. -/
theorem exists_scanTables_of_not_refuses (options : ScanOptions) {rows : List Row}
    (hrows : ∀ row ∈ rows, ∀ cell ∈ row, ∀ e, ¬ cell.Refuses e) :
    ∃ tables, scanTables options rows = .ok tables := by
  apply exists_scanTables
  intro row hrow cell hcell
  cases hnumber : cell.number with
  | ok number => exact ⟨number, rfl⟩
  | error e => exact absurd (Cell.number_eq_error_iff.mp hnumber) (hrows row hrow cell hcell e)

/-! ## One cell is enough -/

/-- A header with one text, and below it a label and a cell. -/
def labelled (cell : Cell) : List Row := [[.empty, .text "A"], [.text "x", cell]]

variable {cell : Cell} {e : CellError}

theorem Cell.Refuses.normalizedRows_labelled (hcell : cell.Refuses e) :
    normalizedRows (labelled cell) = labelled cell := by
  cases hcell with
  | tooLarge => rfl
  | signaling => rfl

/-- Whatever the options, any cell that refuses makes a sheet whose tables cannot be found. -/
theorem scanTables_labelled_of_refuses (options : ScanOptions) (hcell : cell.Refuses e) :
    scanTables options (labelled cell) = .error (.cell e) := by
  have hstalls : Stalls (rowAt (labelled cell) 0) (rowAt (labelled cell) 1) e := by
    constructor
    · exact (by decide +kernel : isMatrixHeader [.empty, .text "A"] = true)
    · exact (by decide +kernel : (Cell.text "x").isText = true)
    · exact .first [] hcell
  have hrow : SoughtFrom options (labelled cell) 0 0 := .here (Nat.succ_pos 1)
  rw [scanTables_eq_tablesFrom, hcell.normalizedRows_labelled, hrow.tablesFrom_eq_error hstalls]
  rfl

/-- The whole number `10 ^ 309` stops the search, and so does a signaling NaN.  The same number as a
decimal or a text makes a matrix. -/
theorem scanTables_of_large_number :
    scanTables .default (labelled (.int (tenPow 309))) = .error (.cell .intTooLarge) ∧
      scanTables .default (labelled (.decimal (.nan false true []))) =
        .error (.cell .signalingNaN) ∧
      scanTables .default (labelled (.decimal (.finite false 1 309))) =
        .ok [⟨0, 1, 0, 1, ["", "A"], .matrix⟩] ∧
      scanTables .default (labelled (.text "1e309")) =
        .ok [⟨0, 1, 0, 1, ["", "A"], .matrix⟩] := by
  have hlarge : Number.overflowBound ≤ (tenPow 309 : Int).natAbs := by decide +kernel
  refine ⟨scanTables_labelled_of_refuses _ (.tooLarge hlarge),
    scanTables_labelled_of_refuses _ (.signaling false []), ?_⟩
  rw [scanTables_eq_tablesFrom, scanTables_eq_tablesFrom]
  decide +kernel

end SheetAudit
