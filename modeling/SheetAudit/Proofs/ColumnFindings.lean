import SheetAudit.Proofs.CellByCell

/-!
# Findings of a column

The header of a column is sought in the first row of a sheet, and the rule is checked on the rows
below it.  Chunks of any size give the same findings: those of the cells below the header, from the
second row of the sheet to its last, with nothing where a row is too short.
-/

namespace SheetAudit

open Outcome

/-- The cells of a column below the header, in a sheet of some height. -/
def columnCells (col height : Nat) : List Address :=
  (List.range' 1 (height - 1)).map fun (row : Nat) => (⟨row, col⟩ : Address)

/-! ## The rectangle below a header -/

theorem rowMajor_column (col below : Nat) :
    (⟨1, below, col, col⟩ : Rectangle).rowMajor = columnCells col (below + 1) := by
  have hcols : Int.range col ((col : Int) + 1) = [(col : Int)] := by
    simp [Int.range]
  have hheight : ((below : Int) + 1 - 1).toNat = below := by omega
  have hrows : Int.range 1 ((below : Int) + 1) =
      (List.range' 1 below).map fun (row : Nat) => (row : Int) := by
    rw [Int.range, hheight, List.range'_eq_map_range, List.map_map]
    apply List.map_congr_left
    intro place _
    simp
  simp only [Rectangle.rowMajor, hcols, hrows, List.map_cons, List.map_nil, List.flatMap_map]
  rw [columnCells, Nat.add_sub_cancel, List.map_eq_flatMap]

theorem areaOn_column_eq_none {name : String} {rows : List Row}
    (hmissing : ∀ header ∈ rows.head?, ∀ col, findColumn header name ≠ .ok (some col)) :
    (Field.column name).areaOn rows = none := by
  cases rows with
  | nil => rfl
  | cons header below =>
      have hheader := hmissing header rfl
      rw [Field.areaOn]
      split
      · next col hcolumn => exact absurd hcolumn (hheader col)
      · rfl

/-- The values of a column are the cells below its header. -/
theorem columnValues_of_findColumn {text name : String} {header : Row} {below : List Row}
    {col : Nat} (hread : Field.ofText text = .ok (.column name))
    (hcolumn : findColumn header name = .ok (some col)) :
    columnValues (some text) (header :: below) =
      .ok ((columnCells col (below.length + 1)).map (cellOf (header :: below))) := by
  have hresolve : (Field.column name).resolve header (.span 0 (header :: below).length) =
      .ok ⟨1, below.length, col, col⟩ := by
    simp [Field.resolve, hcolumn, RowWindow.span]
  unfold columnValues
  rw [Field.ofText?, hread, ok_bind, List.head?_cons, Option.getD_some, hresolve, ok_bind,
    Rectangle.cells_eq_rowMajor, rowMajor_column, pure_eq_ok]
  apply congrArg Except.ok
  apply List.map_congr_left
  intro address haddress
  obtain ⟨row, _, rfl⟩ := List.mem_map.mp haddress
  rw [cellOf, if_neg (Int.not_lt.mpr (Int.natCast_nonneg row))]

/-! ## Main statement -/

/-- A column without a header on the sheet has one failed finding.  Any other column has the
findings of the cells below its header, whatever the size of the chunks, and these cells hold the
values of the column as a whole. -/
theorem Rule.findings_column {rule : Rule} {name : String}
    (hread : Field.ofText rule.field = .ok (.column name)) (submissionId : Option Int)
    (rows : List Row) {size : Nat} (hsize : 0 < size) :
    ((∀ header ∈ rows.head?, ∀ col, findColumn header name ≠ .ok (some col)) →
      rule.findings size submissionId (sheetStream size rows) =
        .ok [rule.failedFinding submissionId]) ∧
    ∀ header ∈ rows.head?, ∀ col, findColumn header name = .ok (some col) →
      rule.findings size submissionId (sheetStream size rows) =
          .ok (rule.findingsAt submissionId rows (columnCells col rows.length)) ∧
        columnValues (some rule.field) rows =
          .ok ((columnCells col rows.length).map (cellOf rows)) := by
  constructor
  · intro hmissing
    exact findings_of_areaOn_eq_none hread (areaOn_column_eq_none hmissing) hsize
  · intro header hheader col hcolumn
    obtain ⟨below, rfl⟩ : ∃ below, rows = header :: below := by
      exact List.head?_eq_some_iff.mp hheader
    refine ⟨?_, columnValues_of_findColumn hread hcolumn⟩
    rw [findings_eq_findingsAt_of_column hread hcolumn hsize, rowMajor_column, List.length_cons]

theorem Rule.findings_column_ragged :
    let rule : Rule := ⟨none, none, none, "range", " SIZE ", "min:1", "", .error⟩
    let header : Row := [.text "name", .text "Size"]
    let rows : List Row := [header, [.text "x", .int 1], [.text "y"], [.text "z", .int 3]]
    Field.ofText rule.field = .ok (.column "SIZE") ∧ 0 < 1 ∧
      findColumn header "SIZE" = .ok (some 1) ∧
      rule.findings 1 none (sheetStream 1 rows) =
        .ok (rule.findingsAt none rows [⟨1, 1⟩, ⟨2, 1⟩, ⟨3, 1⟩]) := by
  intro rule header rows
  have hread : Field.ofText rule.field = .ok (.column "SIZE") := by decide +kernel
  have hcolumn : findColumn header "SIZE" = .ok (some 1) := by decide +kernel
  have hfindings := (findings_column hread none rows (show 0 < 1 by decide)).2 header rfl 1 hcolumn
  exact ⟨hread, by decide, hcolumn, hfindings.1⟩

end SheetAudit
