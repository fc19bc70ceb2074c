import SheetAudit.Cell

/-!
# Layout of tables

A table is a header row with the rows below it.  A vertical table has at least two texts in its
header row; a matrix has texts in the first column too, beside at least one number.  Layout looks
at cells only as blanks, texts and numbers.
-/

namespace SheetAudit

abbrev Row := List Cell

inductive TableKind where
  | vertical
  | matrix
  deriving Repr, DecidableEq

def TableKind.text : TableKind → String
  | .vertical => "vertical"
  | .matrix => "matrix"

structure Table where
  startRow : Nat
  endRow : Nat
  startCol : Nat
  endCol : Nat
  headers : List String
  kind : TableKind
  deriving Repr, DecidableEq

namespace Table

def isBlankRow (row : Row) : Bool := row.all Cell.isBlank

/-- The last column of a row that shows something. -/
def lastFilled? (row : Row) : Option Nat :=
  let filled := (row.reverse.dropWhile Cell.isBlank).length
  if filled == 0 then none else some (filled - 1)

/-- The columns of a row with texts, counted from a column on. -/
def textColumnsFrom (col : Nat) : Row → List Nat
  | [] => []
  | cell :: cells =>
    if cell.isText then col :: textColumnsFrom (col + 1) cells else textColumnsFrom (col + 1) cells

def textColumns (row : Row) : List Nat := textColumnsFrom 0 row

/-- The header that a cell gives: its text. -/
def headerText : Cell → String
  | .text value => value
  | _ => ""

def textHeaders (row : Row) : List String :=
  (row.filter Cell.isText).map headerText

def isVerticalHeader (row : Row) : Bool := 2 ≤ (textColumns row).length

/-- Whether a row shows something in one of some columns. -/
def fillsOneOf (cols : List Nat) (row : Row) : Bool :=
  cols.any fun col => row[col]?.any (!·.isBlank)

/-- Whether the first cell of a row is a text. -/
def isLabelRow : Row → Bool
  | [] => false
  | cell :: _ => cell.isText

/-- Whether some cell counts as a number; cells are tried from left to right. -/
def anyNumber : List Cell → Except CellError Bool
  | [] => pure false
  | cell :: cells => do
    let isNumber ← cell.isNumber
    if isNumber then pure true else anyNumber cells

/-- Whether a row can be the header row of a matrix: a corner that is blank or a text, and after
it nothing but texts and blanks, with at least one text. -/
def isMatrixHeader : Row → Bool
  | [] => false
  | corner :: cells =>
    let shown := cells.filter (!·.isBlank)
    (corner.isBlank || corner.isText) && !shown.isEmpty && shown.all Cell.isText

/-- Whether a row and the row below it start a matrix: the row below has a text in its first cell
and a number after it. -/
def startsMatrix (header below : Row) : Except CellError Bool :=
  if isMatrixHeader header && isLabelRow below then anyNumber (below.drop 1) else pure false

/-- The headers of a matrix: the corner, even if it is blank, and the texts after it. -/
def matrixHeaders : Row → List String
  | [] => []
  | corner :: cells =>
    (if corner.isBlank then "" else headerText corner) ::
      (cells.filter (!·.isBlank)).map headerText

end Table

end SheetAudit
