import SheetAudit.Address

/-!
# Rectangles of cells

A rectangle is given by its first and last row and column, ends included; it has no cells if a
first lies beyond its last.  Its cells are listed row by row.  A rectangle may be far too large
to list, so the first cells are computed from their places in the list.
-/

namespace SheetAudit

structure Rectangle where
  firstRow : Int
  lastRow : Int
  firstCol : Int
  lastCol : Int
  deriving Repr, DecidableEq

/-- Rows from a first one on, up to a last one if there is any. -/
structure RowWindow where
  first : Int
  last : Option Int
  deriving Repr, DecidableEq

def RowWindow.all : RowWindow := ⟨0, none⟩

/-- The rows from a start up to, but not including, a stop. -/
def RowWindow.span (start stop : Int) : RowWindow := ⟨start, some (stop - 1)⟩

namespace Rectangle

/-- The rectangle with two opposite corners, given in any order. -/
def ofCorners (a b : Address) : Rectangle :=
  ⟨min a.row b.row, max a.row b.row, min a.col b.col, max a.col b.col⟩

def height (r : Rectangle) : Nat := (r.lastRow - r.firstRow + 1).toNat

def width (r : Rectangle) : Nat := (r.lastCol - r.firstCol + 1).toNat

def count (r : Rectangle) : Nat := r.height * r.width

/-- The cell at a place in the list of cells. -/
def cellAt (r : Rectangle) (place : Nat) : Address :=
  ⟨r.firstRow + (place / r.width : Nat), r.firstCol + (place % r.width : Nat)⟩

/-- The cells of a rectangle, row by row. -/
def cells (r : Rectangle) : List Address :=
  (List.range r.count).map r.cellAt

def firstCells (r : Rectangle) (limit : Nat) : List Address :=
  (List.range (min limit r.count)).map r.cellAt

theorem firstCells_eq_take (r : Rectangle) (limit : Nat) :
    r.firstCells limit = r.cells.take limit := by
  rw [firstCells, cells, ← List.map_take, List.take_range]

def clip (r : Rectangle) (window : RowWindow) : Rectangle :=
  let last := match window.last with
    | none => r.lastRow
    | some last => min r.lastRow last
  ⟨max r.firstRow window.first, last, r.firstCol, r.lastCol⟩

end Rectangle

end SheetAudit
