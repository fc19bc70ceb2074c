import Mathlib.Data.Sym.Sym2
import Mathlib.Order.Interval.Set.UnorderedInterval
import Mathlib.Tactic
import SheetAudit.Proofs.FieldArea
import SheetAudit.Proofs.Outcome
import SheetAudit.Proofs.RowMajor

/-!
# Fields window by window

A cell or a range is named by two corners, and its cells can be asked for in windows of rows.  The
cells come in row-major order, so windows that follow one another give, put together, what there
is without a window, wherever the cuts between them are.
-/

namespace SheetAudit

open Outcome

/-! ## Corners -/

namespace Address

/-- Row-major order: by rows, and by columns inside a row. -/
def Precedes (a b : Address) : Prop := a.row < b.row ∨ (a.row = b.row ∧ a.col < b.col)

/-- A cell lies between two corners, in whichever order they are named. -/
def Between (a b cell : Address) : Prop :=
  cell.row ∈ Set.uIcc a.row b.row ∧ cell.col ∈ Set.uIcc a.col b.col

/-- Two corners lie on the same two rows and the same two columns as two others. -/
def SameSides (a b c d : Address) : Prop :=
  s(a.row, b.row) = s(c.row, d.row) ∧ s(a.col, b.col) = s(c.col, d.col)

theorem Precedes.ne {a b : Address} (hless : a.Precedes b) : a ≠ b := by
  rintro rfl
  rcases hless with hrow | ⟨-, hcol⟩
  · exact hrow.false
  · exact hcol.false

end Address

/-- A list holds the cells between two corners in row-major order, each of them once. -/
structure ListsCells (a b : Address) (cells : List Address) : Prop where
  ordered : cells.Pairwise Address.Precedes
  nodup : cells.Nodup
  mem_iff : ∀ cell, cell ∈ cells ↔ Address.Between a b cell
  length_eq : cells.length = ((a.row - b.row).natAbs + 1) * ((a.col - b.col).natAbs + 1)

theorem pairwise_range (a b : Int) : (Int.range a b).Pairwise (· < ·) := by
  rw [Int.range, List.pairwise_map]
  apply List.pairwise_lt_range.imp
  intro place later hless
  omega

namespace Rectangle

variable {a b c d : Address}

theorem pairwise_rowMajor (r : Rectangle) : r.rowMajor.Pairwise Address.Precedes := by
  rw [rowMajor, List.pairwise_flatMap]
  constructor
  · intro row _
    rw [List.pairwise_map]
    exact (pairwise_range _ _).imp fun hcol => .inr ⟨rfl, hcol⟩
  · apply (pairwise_range _ _).imp
    intro row later hrow first hfirst second hsecond
    obtain ⟨_, _, rfl⟩ := List.mem_map.mp hfirst
    obtain ⟨_, _, rfl⟩ := List.mem_map.mp hsecond
    exact .inl hrow

theorem count_ofCorners (a b : Address) :
    (ofCorners a b).count = ((a.row - b.row).natAbs + 1) * ((a.col - b.col).natAbs + 1) := by
  have hheight : (ofCorners a b).height = (a.row - b.row).natAbs + 1 := by
    simp only [height, ofCorners]
    omega
  have hwidth : (ofCorners a b).width = (a.col - b.col).natAbs + 1 := by
    simp only [width, ofCorners]
    omega
  rw [count, hheight, hwidth]

theorem listsCells_ofCorners (a b : Address) : ListsCells a b (ofCorners a b).rowMajor := by
  have hordered := (ofCorners a b).pairwise_rowMajor
  constructor
  · exact hordered
  · exact hordered.imp fun hless => hless.ne
  · intro cell
    rw [mem_rowMajor, Address.Between, Set.mem_uIcc, Set.mem_uIcc]
    simp only [ofCorners]
    omega
  · rw [length_rowMajor, count_ofCorners]

theorem ofCorners_eq (hsame : Address.SameSides a b c d) : ofCorners a b = ofCorners c d := by
  obtain ⟨hrows, hcols⟩ := hsame
  rw [Sym2.eq_iff] at hrows hcols
  simp only [ofCorners, Rectangle.mk.injEq]
  omega

theorem clip_all {r : Rectangle} (hfirst : 0 ≤ r.firstRow) : r.clip .all = r := by
  simp only [clip, RowWindow.all, max_eq_left hfirst]

end Rectangle

/-! ## Cuts -/

/-- The windows into which the rows from a first one on are cut.  The last one has no end. -/
def RowWindow.cutAt (first : Int) : List Int → List RowWindow
  | [] => [⟨first, none⟩]
  | cut :: cuts => .span first cut :: cutAt cut cuts

theorem Rectangle.flatMap_cutAt (r : Rectangle) {first : Int} {cuts : List Int}
    (hcuts : (first :: cuts).Pairwise (· < ·)) :
    (RowWindow.cutAt first cuts).flatMap (fun rows => (r.clip rows).rowMajor) =
      (r.clip ⟨first, none⟩).rowMajor := by
  induction cuts generalizing first with
  | nil => simp [RowWindow.cutAt]
  | cons cut cuts ih =>
      obtain ⟨hfirst, hrest⟩ := List.pairwise_cons.mp hcuts
      have hcut : first < cut := hfirst cut (by simp)
      rw [RowWindow.cutAt, List.flatMap_cons, ih hrest, r.rowMajor_clip_append hcut.le]

namespace Field

variable {field : Field} {a b : Address}

/-- The corners by which a cell or a range is named. -/
def corners? : Field → Option (Address × Address)
  | .cell _ address => some (address, address)
  | .range _ start stop => some (start, stop)
  | .column _ => none

theorem rectangle?_of_corners (hcorners : field.corners? = some (a, b)) :
    field.rectangle? = some (.ofCorners a b) := by
  cases field with
  | cell =>
      cases hcorners
      rfl
  | range =>
      cases hcorners
      rfl
  | column => cases hcorners

theorem references_of_corners (hcorners : field.corners? = some (a, b)) (rows : RowWindow) :
    field.references rows = .ok ((Rectangle.ofCorners a b).clip rows).rowMajor := by
  rw [← Rectangle.cells_eq_rowMajor, references, window, rectangle?_of_corners hcorners]
  rfl

theorem mapM_references (hcorners : field.corners? = some (a, b)) (windows : List RowWindow) :
    windows.mapM field.references =
      .ok (windows.map fun rows => ((Rectangle.ofCorners a b).clip rows).rowMajor) := by
  have hpure : field.references =
      fun rows => pure ((Rectangle.ofCorners a b).clip rows).rowMajor := by
    funext rows
    exact references_of_corners hcorners rows
  rw [hpure, List.mapM_pure]
  rfl

/-- A cell or a range that is read from a text has the cells between its corners, in row-major
order.  Wherever its rows are cut, the windows give these cells one after the other, and a field
that names the same rectangle by other corners has the same cells in every window. -/
theorem references_in_windows {text : String} (hread : Field.ofText text = .ok field)
    (hcorners : field.corners? = some (a, b)) :
    ∃ cells, field.references .all = .ok cells ∧
      ListsCells a b cells ∧
      field.count? = some cells.length ∧
      (∀ cuts : List Int, (0 :: cuts).Pairwise (· < ·) →
        ∃ parts, (RowWindow.cutAt 0 cuts).mapM field.references = .ok parts ∧
          parts.flatten = cells) ∧
      ∀ text' field' c d, Field.ofText text' = .ok field' → field'.corners? = some (c, d) →
        Address.SameSides a b c d → ∀ rows, field'.references rows = field.references rows := by
  have harea := rectangle?_of_corners hcorners
  have hstart : 0 ≤ (Rectangle.ofCorners a b).firstRow := (inQuadrant_of_ofText hread harea).1
  refine ⟨(Rectangle.ofCorners a b).rowMajor, ?_, Rectangle.listsCells_ofCorners a b, ?_, ?_, ?_⟩
  · rw [references_of_corners hcorners, Rectangle.clip_all hstart]
  · rw [count?, harea, Rectangle.length_rowMajor]
    rfl
  · intro cuts hcuts
    refine ⟨_, mapM_references hcorners _, ?_⟩
    rw [← List.flatMap_def, Rectangle.flatMap_cutAt _ hcuts]
    exact congrArg Rectangle.rowMajor (Rectangle.clip_all hstart)
  · intro text' field' c d _ hcorners' hsame rows
    rw [references_of_corners hcorners, references_of_corners hcorners',
      Rectangle.ofCorners_eq hsame]

/-- A range of three rows and two columns, named from the lower right corner. -/
theorem references_in_windows_two_cuts :
    Field.ofText " B3:A1" = .ok (.range "B3:A1" ⟨2, 1⟩ ⟨0, 0⟩) ∧
      ∃ cells parts, (Field.range "B3:A1" ⟨2, 1⟩ ⟨0, 0⟩).references .all = .ok cells ∧
        cells = [⟨0, 0⟩, ⟨0, 1⟩, ⟨1, 0⟩, ⟨1, 1⟩, ⟨2, 0⟩, ⟨2, 1⟩] ∧
        (RowWindow.cutAt 0 [1, 5]).mapM (Field.range "B3:A1" ⟨2, 1⟩ ⟨0, 0⟩).references =
          .ok parts ∧
        parts.flatten = cells ∧
        (Field.range "A3:B1" ⟨2, 0⟩ ⟨0, 1⟩).references (.span 1 5) =
          (Field.range "B3:A1" ⟨2, 1⟩ ⟨0, 0⟩).references (.span 1 5) := by
  have hread : Field.ofText " B3:A1" = .ok (.range "B3:A1" ⟨2, 1⟩ ⟨0, 0⟩) := by decide +kernel
  have hother : Field.ofText "A3:B1" = .ok (.range "A3:B1" ⟨2, 0⟩ ⟨0, 1⟩) := by decide +kernel
  obtain ⟨cells, hall, -, -, hcut, hsame⟩ := references_in_windows hread rfl
  obtain ⟨parts, hparts, hflatten⟩ := hcut [1, 5] (by decide)
  have hlisted : (Field.range "B3:A1" ⟨2, 1⟩ ⟨0, 0⟩).references .all =
      .ok [⟨0, 0⟩, ⟨0, 1⟩, ⟨1, 0⟩, ⟨1, 1⟩, ⟨2, 0⟩, ⟨2, 1⟩] := by decide +kernel
  have hsides : Address.SameSides ⟨2, 1⟩ ⟨0, 0⟩ ⟨2, 0⟩ ⟨0, 1⟩ := ⟨rfl, Sym2.eq_swap⟩
  refine ⟨hread, cells, parts, hall, ?_, hparts, hflatten,
    hsame "A3:B1" _ ⟨2, 0⟩ ⟨0, 1⟩ hother rfl hsides (.span 1 5)⟩
  rw [hlisted] at hall
  cases hall
  rfl

end Field

end SheetAudit
