import SheetAudit.Sheet.Chunk

/-!
# Workbooks

A workbook has named sheets, each a list of rows of cells.  What comes back when it is read depends
on its format.  Both formats give back a grid, padded to one width, in which a floating-point
number without a fraction is a whole number and a date is its midnight.  A sheet of the newer
format reaches down to its last row that has cells, blank or not; one of the older format reaches
down to its last cell that is not blank, and the usual texts for a missing value are blank there.
-/

namespace SheetAudit

inductive WorkbookFormat where
  | zipped
  | binary
  deriving Repr, DecidableEq

structure WorkbookSheet where
  name : String
  rows : List Row
  deriving Repr

namespace Workbook

/-- A value as a workbook gives it back. -/
def stored : Cell → Cell
  | .double (.number x) =>
    match x.toInt? with
    | some n => .int n
    | none => .double (.number x)
  | .date date => .dateTime date.midnight
  | cell => cell.normalized

/-- A row padded to a width or cut at it. -/
def fitted (width : Nat) (row : Row) : Row :=
  row.take width ++ List.replicate (width - row.length) .empty

/-- Rows without those at the end that are refused. -/
def trimRows (refused : Row → Bool) (rows : List Row) : List Row :=
  (rows.reverse.dropWhile refused).reverse

def widest (width : Row → Nat) (rows : List Row) : Nat :=
  rows.foldl (fun widest row => max widest (width row)) 0

def zippedRows (rows : List Row) : List Row :=
  let width := widest List.length rows
  (trimRows List.isEmpty rows).map fun row => (fitted width row).map stored

/-- The texts that stand for a missing value. -/
def missingTexts : List String := [
  "#N/A", "#N/A N/A", "#NA", "-1.#IND", "-1.#QNAN", "-NaN", "-nan", "1.#IND", "1.#QNAN", "<NA>",
  "N/A", "NA", "NULL", "NaN", "None", "n/a", "nan", "null"]

/-- A value as a sheet of the older format gives it back. -/
def storedUnlessMissing : Cell → Cell
  | .text value => if missingTexts.contains value then .empty else (Cell.text value).normalized
  | cell => stored cell

/-- Whether a cell is written to a sheet of the older format. -/
def isWritten : Cell → Bool
  | .empty => false
  | .text value => !value.isEmpty
  | _ => true

/-- The width of a row up to its last cell that is written. -/
def writtenWidth (row : Row) : Nat :=
  (row.reverse.dropWhile (!isWritten ·)).length

def binaryRows (rows : List Row) : List Row :=
  let width := widest writtenWidth rows
  (trimRows (writtenWidth · == 0) rows).map fun row => (fitted width row).map storedUnlessMissing

end Workbook

end SheetAudit
