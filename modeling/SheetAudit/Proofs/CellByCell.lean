import SheetAudit.Audit.RuleFindings
import SheetAudit.Proofs.FieldArea
import SheetAudit.Proofs.RowMajor
import SheetAudit.Proofs.SheetCells

/-!
# Findings cell by cell

A rule is checked on a sheet by one of two paths.  The first collects the cells of its field from
the chunks and checks them afterwards; the second checks chunk by chunk, stops early and adds the
cells below the sheet.  Both come to the same: the checks of the cells of one area of the sheet, in
row-major order.

The induction over the chunks is the same for every kind of field, so it is carried out for a field
that `Covers` an area; a rectangle covers itself, and a column covers the rows below its header.
-/

namespace SheetAudit

open Outcome

/-! ## The reference -/

/-- The area of a sheet that a field looks at, if there is one: the rectangle of a cell or a range,
or the rows below the header of a column. -/
def Field.areaOn (field : Field) (rows : List Row) : Option Rectangle :=
  match field with
  | .column name =>
    match rows with
    | [] => none
    | header :: below =>
      match findColumn header name with
      | .ok (some col) => some ⟨1, below.length, col, col⟩
      | _ => none
  | _ => field.rectangle?

/-- The findings of a rule on some cells of a sheet: those of the checks in order, or one failed
finding if a check goes wrong. -/
def Rule.findingsAt (rule : Rule) (submissionId : Option Int) (rows : List Row)
    (addresses : List Address) : List Finding :=
  match addresses.mapM fun address =>
      rule.check (some address) (cellOf rows address) submissionId with
  | .ok findings => findings
  | .error _ => [rule.failedFinding submissionId]

/-! ## Checks in sequence -/

namespace Rule

variable {rule : Rule} {submissionId : Option Int}

theorem checkEach_eq_mapM (value : Address → Cell) (addresses : List Address) :
    rule.checkEach submissionId value addresses =
      (addresses.mapM fun address =>
        rule.check (some address) (value address) submissionId).mapError .check := by
  induction addresses with
  | nil => rfl
  | cons address addresses ih =>
      rw [checkEach, ih, List.mapM_cons]
      cases rule.check (some address) (value address) submissionId with
      | error e => rfl
      | ok finding =>
          cases addresses.mapM fun address =>
              rule.check (some address) (value address) submissionId with
          | error e => rfl
          | ok findings => rfl

theorem checkEach_congr {value value' : Address → Cell} {addresses : List Address}
    (hvalue : ∀ address ∈ addresses, value address = value' address) :
    rule.checkEach submissionId value addresses =
      rule.checkEach submissionId value' addresses := by
  rw [checkEach_eq_mapM, checkEach_eq_mapM, mapM_congr]
  intro address haddress
  rw [hvalue address haddress]

theorem checkEach_append (value : Address → Cell) (above below : List Address) :
    rule.checkEach submissionId value (above ++ below) = (do
      let found ← rule.checkEach submissionId value above
      let others ← rule.checkEach submissionId value below
      pure (found ++ others)) := by
  induction above with
  | nil =>
      cases hbelow : rule.checkEach submissionId value below <;> simp [checkEach, hbelow]
  | cons address above ih =>
      rw [List.cons_append, checkEach, checkEach, ih]
      simp only [bind_assoc, pure_bind, List.cons_append]

end Rule

/-! ## Fields that cover an area -/

/-- A field looks at an area of a sheet with some headers and some height. -/
structure Field.Covers (field : Field) (headers : Row) (height : Int) (area : Rectangle) :
    Prop where
  fromTop : 0 ≤ area.firstRow
  fromLeft : 0 ≤ area.firstCol
  resolve : ∀ {first stop : Int}, stop ≤ height →
    field.resolve headers (.span first stop) = .ok (area.clip (.span first stop))
  endsBy : ∀ {row : Int}, field.endsBy row = true → area.lastRow ≤ row
  below : ∀ (rule : Rule) (submissionId : Option Int) {row : Int},
    area.lastRow ≤ row ∨ height ≤ row + 1 →
      rule.findingsBelow field submissionId (some headers) row =
        rule.checkEach submissionId (fun _ => .empty) (area.clip ⟨row + 1, none⟩).rowMajor

theorem Field.resolve_of_rectangle {field : Field} {area : Rectangle}
    (harea : field.rectangle? = some area) (headers : Row) (rows : RowWindow) :
    field.resolve headers rows = .ok (area.clip rows) := by
  cases field with
  | cell raw address => cases harea; rfl
  | range raw start stop => cases harea; rfl
  | column name => cases harea

theorem Rule.findingsBelow_of_rectangle (rule : Rule) {field : Field} {area : Rectangle}
    (harea : field.rectangle? = some area) (submissionId : Option Int) (headers? : Option Row)
    (row : Int) :
    rule.findingsBelow field submissionId headers? row =
      rule.checkEach submissionId (fun _ => .empty)
        (area.clip (.span (row + 1) rowLimit)).rowMajor := by
  rw [← Rectangle.cells_eq_rowMajor]
  cases field with
  | cell raw address => cases harea; rfl
  | range raw start stop => cases harea; rfl
  | column name => cases harea

/-- A rectangle above the row limit covers itself on every sheet. -/
theorem Field.covers_of_rectangle {text : String} {field : Field} {area : Rectangle}
    (hread : Field.ofText text = .ok field) (harea : field.rectangle? = some area)
    (hlimit : area.lastRow < rowLimit) (headers : Row) (height : Int) :
    field.Covers headers height area where
  fromTop := (Field.inQuadrant_of_ofText hread harea).1
  fromLeft := (Field.inQuadrant_of_ofText hread harea).2
  resolve _ := Field.resolve_of_rectangle harea headers _
  endsBy := by
    intro row hends
    simpa [Field.endsBy, harea] using hends
  below := by
    intro rule submissionId row _
    have hclip : area.clip (.span (row + 1) rowLimit) = area.clip ⟨row + 1, none⟩ := by
      simp only [Rectangle.clip, RowWindow.span, Rectangle.mk.injEq, true_and, and_true]
      omega
    rw [rule.findingsBelow_of_rectangle harea, hclip]

/-- A column whose header is found covers the rows below the header. -/
theorem Field.covers_of_column {name : String} {headers : Row} {col : Nat}
    (hcolumn : findColumn headers name = .ok (some col)) (height : Int) :
    (Field.column name).Covers headers height ⟨1, height - 1, col, col⟩ where
  fromTop := by simp
  fromLeft := by simp
  resolve := by
    intro first stop hstop
    have hlast : min (height - 1) (stop - 1) = stop - 1 := by omega
    simp [Field.resolve, hcolumn, RowWindow.span, Rectangle.clip, hlast, max_comm]
  endsBy := by
    intro row hends
    simp [Field.endsBy, Field.rectangle?] at hends
  below := by
    intro rule submissionId row hrow
    have hnone :
        ((⟨1, height - 1, col, col⟩ : Rectangle).clip ⟨row + 1, none⟩).rowMajor = [] := by
      apply Rectangle.rowMajor_eq_nil
      simp only [Rectangle.clip]
      simp only at hrow
      omega
    rw [hnone]
    rfl

/-! ## Chunk by chunk -/

namespace Rule

variable {rule : Rule} {submissionId : Option Int}

/-- The checks of the cells in the first chunk are checks of cells of the sheet. -/
theorem checkEach_chunk {area : Rectangle} (hcol : 0 ≤ area.firstCol) (start : Nat)
    (part below : List Row) :
    rule.checkEach submissionId (⟨start, part⟩ : RowChunk).valueAt
        (area.clip (.span start (start + part.length : Nat))).rowMajor =
      rule.checkEach submissionId
        (fun address => cellOf (part ++ below) ⟨address.row - start, address.col⟩)
        (area.clip (.span start (start + part.length : Nat))).rowMajor := by
  apply checkEach_congr
  intro address haddress
  have hplace := Rectangle.mem_rowMajor.mp haddress
  simp only [Rectangle.clip, RowWindow.span] at hplace
  rw [RowChunk.valueAt_eq_cellOf _ (hcol.trans hplace.2.1), cellOf_append_left]
  simp only
  omega

/-- The checks of the cells below the first chunk do not see that chunk. -/
theorem checkEach_below_chunk {area : Rectangle} (start : Nat) (part below : List Row) :
    rule.checkEach submissionId
        (fun address =>
          cellOf below ⟨address.row - (start + part.length : Nat), address.col⟩)
        (area.clip ⟨(start + part.length : Nat), none⟩).rowMajor =
      rule.checkEach submissionId
        (fun address => cellOf (part ++ below) ⟨address.row - start, address.col⟩)
        (area.clip ⟨(start + part.length : Nat), none⟩).rowMajor := by
  apply checkEach_congr
  intro address haddress
  have hplace := Rectangle.mem_rowMajor.mp haddress
  simp only [Rectangle.clip] at hplace
  rw [cellOf_append_right (by simp only; omega)]
  congr 2
  push_cast
  ring

/-- After the last row of the area there is nothing to check, whatever the cells are. -/
theorem findingsBelow_of_endsBy (rule : Rule) (submissionId : Option Int) {field : Field}
    {headers : Row} {height : Int} {area : Rectangle}
    (hcovers : field.Covers headers height area) {row : Int} (hends : field.endsBy row = true)
    (value : Address → Cell) :
    rule.findingsBelow field submissionId (some headers) row =
      rule.checkEach submissionId value (area.clip ⟨row + 1, none⟩).rowMajor := by
  have hlast := hcovers.endsBy hends
  have hnone : (area.clip ⟨row + 1, none⟩).rowMajor = [] := by
    apply Rectangle.rowMajor_eq_nil
    simp only [Rectangle.clip]
    omega
  rw [hcovers.below rule submissionId (Or.inl hlast), hnone]
  rfl

/-- Checking chunks that follow each other is checking the cells of the area from their start on.
The induction is on the chunks; what is not in the first chunk belongs to the others, or lies below
the sheet. -/
theorem findingsFrom_eq_checkEach (rule : Rule) (submissionId : Option Int) {field : Field}
    {headers : Row} {height : Int} {area : Rectangle}
    (hcovers : field.Covers headers height area) {parts : List (List Row)}
    (hparts : ∀ part ∈ parts, part ≠ []) (start : Nat)
    (hheight : start + parts.flatten.length = height) :
    rule.findingsFrom field submissionId none (some headers) (start - 1)
        (numberedChunks start parts) =
      rule.checkEach submissionId
        (fun address => cellOf parts.flatten ⟨address.row - start, address.col⟩)
        (area.clip ⟨start, none⟩).rowMajor := by
  induction parts generalizing start with
  | nil =>
      simp only [List.flatten_nil, List.length_nil, Nat.cast_zero, add_zero] at hheight
      simp only [numberedChunks, findingsFrom, List.flatten_nil, cellOf_nil]
      rw [hcovers.below rule submissionId (Or.inr (by omega)), Int.sub_add_cancel]
  | cons part parts ih =>
      simp only [List.flatten_cons, List.length_append] at hheight
      have hfirst : 0 < part.length := List.length_pos_iff.mpr (hparts part (by simp))
      let next : Nat := start + part.length
      let chunk : RowChunk := ⟨start, part⟩
      have hstop : chunk.stop = next - 1 := by simp [RowChunk.stop, chunk, next]
      have hothers :
          (if field.endsBy chunk.stop then
            rule.findingsBelow field submissionId (some headers) chunk.stop
          else rule.findingsFrom field submissionId none (some headers) chunk.stop
            (numberedChunks next parts)) =
          rule.checkEach submissionId
            (fun address => cellOf parts.flatten ⟨address.row - next, address.col⟩)
            (area.clip ⟨next, none⟩).rowMajor := by
        rw [hstop]
        split
        · next hends =>
          have hbelow := findingsBelow_of_endsBy rule submissionId hcovers hends
          rw [Int.sub_add_cancel] at hbelow
          exact hbelow _
        · apply ih (fun other hother => hparts other (by simp [hother]))
          simp only [next]
          push_cast
          omega
      have hresolve : field.resolve headers (.span chunk.start (chunk.stop + 1)) =
          .ok (area.clip (.span start next)) := by
        rw [hstop, Int.sub_add_cancel]
        exact hcovers.resolve (by simp only [next]; push_cast; omega)
      have hcut : (start : Int) ≤ next := by omega
      rw [List.flatten_cons, numberedChunks, findingsFrom, ← area.rowMajor_clip_append hcut,
        checkEach_append, ← checkEach_chunk hcovers.fromLeft, ← checkEach_below_chunk, ← hothers]
      simp only [Option.getD_some]
      rw [hresolve]
      simp only [mapError_ok, ok_bind, Rectangle.cells_eq_rowMajor]
      congr 1
      funext found
      rw [apply_ite (fun others => others >>= fun later => pure (found ++ later))]

/-- The headers are those of the first row, unless there is no row and no need of headers. -/
theorem findingsFrom_none_eq_some {field : Field} {rows : List Row} {size : Nat}
    (hsize : 0 < size) (hhead : rows ≠ [] ∨ field.rectangle? ≠ none) (row : Int) :
    rule.findingsFrom field submissionId none none row (chunksOf size rows) =
      rule.findingsFrom field submissionId none (some (rows.head?.getD [])) row
        (chunksOf size rows) := by
  unfold chunksOf
  cases rows with
  | nil =>
      rcases hhead with hrows | hfield
      · exact absurd rfl hrows
      · obtain ⟨area, harea⟩ := Option.ne_none_iff_exists'.mp hfield
        rw [pieces_nil, numberedChunks, findingsFrom, findingsFrom,
          rule.findingsBelow_of_rectangle harea, rule.findingsBelow_of_rectangle harea]
  | cons header below =>
      have hfirst : ((header :: below).take size).head?.getD [] = header := by
        rw [List.head?_take, if_neg hsize.ne']
        rfl
      rw [pieces_of_ne_nil hsize (List.cons_ne_nil header below), numberedChunks, findingsFrom,
        findingsFrom]
      simp only [Option.getD_none, Option.getD_some, hfirst, List.head?_cons]

theorem findingsChunked_eq_checkEach {field : Field} {rows : List Row} {area : Rectangle}
    {size : Nat} (hcovers : field.Covers (rows.head?.getD []) rows.length area)
    (hhead : rows ≠ [] ∨ field.rectangle? ≠ none) (hsize : 0 < size) :
    rule.findingsChunked field submissionId (sheetStream size rows) =
      rule.checkEach submissionId (cellOf rows) area.rowMajor := by
  have hparts : ∀ part ∈ pieces size rows, part ≠ [] := fun part => ne_nil_of_mem_pieces hsize
  have hwhole := findingsFrom_eq_checkEach rule submissionId hcovers hparts 0
    (by rw [flatten_pieces hsize, Nat.cast_zero, zero_add])
  have hclip : area.clip ⟨(0 : Nat), none⟩ = area := by
    have htop := hcovers.fromTop
    simp only [Rectangle.clip, Nat.cast_zero, max_eq_left htop]
  rw [flatten_pieces hsize, hclip] at hwhole
  simp only [Nat.cast_zero, zero_sub, sub_zero] at hwhole
  rw [← hwhole]
  exact findingsFrom_none_eq_some hsize hhead (-1)

/-! ## Collecting first -/

theorem findingsDirect_eq_checkEach {rows : List Row} {area : Rectangle} {size : Nat}
    (hrow : 0 ≤ area.firstRow) (hcol : 0 ≤ area.firstCol) (hsize : 0 < size) :
    rule.findingsDirect area submissionId (sheetStream size rows) =
      rule.checkEach submissionId (cellOf rows) area.rowMajor := by
  have hparts : ∀ part ∈ pieces size rows, part ≠ [] := fun part => ne_nil_of_mem_pieces hsize
  obtain ⟨chunks, hchunks, hvalues⟩ := exists_chunksThrough FileError area.lastRow 0 hparts
  have hthrough : (sheetStream size rows).through area.lastRow = .ok chunks := hchunks
  unfold findingsDirect
  rw [hthrough, Rectangle.cells_eq_rowMajor]
  apply checkEach_congr
  intro address haddress
  obtain ⟨⟨hfirst, hlast⟩, hleft, _⟩ := Rectangle.mem_rowMajor.mp haddress
  rw [hvalues address (by omega) hlast (by omega), flatten_pieces hsize]
  simp only [Nat.cast_zero, sub_zero]

/-! ## Either way -/

theorem findingsAt_congr {rows rows' : List Row} {addresses : List Address}
    (hcells : ∀ address ∈ addresses, cellOf rows' address = cellOf rows address) :
    rule.findingsAt submissionId rows' addresses =
      rule.findingsAt submissionId rows addresses := by
  have hchecks : (addresses.mapM fun address =>
        rule.check (some address) (cellOf rows' address) submissionId) =
      addresses.mapM fun address =>
        rule.check (some address) (cellOf rows address) submissionId := by
    apply mapM_congr
    intro address haddress
    rw [hcells address haddress]
  unfold findingsAt
  rw [hchecks]

theorem findings_of_checkEach {size : Nat} {stream : ChunkStream FileError} {rows : List Row}
    {addresses : List Address}
    (hreach : rule.reachFindings size submissionId stream =
      rule.checkEach submissionId (cellOf rows) addresses) :
    rule.findings size submissionId stream =
      .ok (rule.findingsAt submissionId rows addresses) := by
  unfold findings findingsAt
  rw [hreach, checkEach_eq_mapM]
  cases addresses.mapM fun address =>
      rule.check (some address) (cellOf rows address) submissionId with
  | error e => rfl
  | ok findings => rfl

theorem findings_eq_findingsAt_of_rectangle {field : Field} {area : Rectangle}
    (hread : Field.ofText rule.field = .ok field) (harea : field.rectangle? = some area)
    (hlimit : area.lastRow < rowLimit) (rows : List Row) {size : Nat} (hsize : 0 < size) :
    rule.findings size submissionId (sheetStream size rows) =
      .ok (rule.findingsAt submissionId rows area.rowMajor) := by
  obtain ⟨hrow, hcol⟩ := Field.inQuadrant_of_ofText hread harea
  have hcovers := Field.covers_of_rectangle hread harea hlimit (rows.head?.getD []) rows.length
  apply findings_of_checkEach
  unfold reachFindings
  rw [hread]
  simp only [mapError_ok, ok_bind, harea]
  split
  · exact findingsDirect_eq_checkEach hrow hcol hsize
  · exact findingsChunked_eq_checkEach hcovers (Or.inr (by simp [harea])) hsize

theorem findings_eq_findingsAt_of_column {name : String} {header : Row} {below : List Row}
    {col : Nat} (hread : Field.ofText rule.field = .ok (.column name))
    (hcolumn : findColumn header name = .ok (some col)) {size : Nat} (hsize : 0 < size) :
    rule.findings size submissionId (sheetStream size (header :: below)) =
      .ok (rule.findingsAt submissionId (header :: below)
        (⟨1, below.length, col, col⟩ : Rectangle).rowMajor) := by
  have hcovers := Field.covers_of_column hcolumn (header :: below).length
  rw [List.length_cons, Nat.cast_add, Nat.cast_one, add_sub_cancel_right] at hcovers
  apply findings_of_checkEach
  unfold reachFindings
  rw [hread]
  exact findingsChunked_eq_checkEach hcovers (Or.inl (List.cons_ne_nil header below)) hsize

/-- A field that looks at an area of the sheet has the findings of that area. -/
theorem findings_eq_findingsAt {field : Field} {area : Rectangle} {rows : List Row}
    (hread : Field.ofText rule.field = .ok field)
    (hlimit : field.rectangle? = some area → area.lastRow < rowLimit)
    (harea : field.areaOn rows = some area) {size : Nat} (hsize : 0 < size) :
    rule.findings size submissionId (sheetStream size rows) =
      .ok (rule.findingsAt submissionId rows area.rowMajor) := by
  cases field with
  | cell raw address =>
      exact findings_eq_findingsAt_of_rectangle hread harea (hlimit harea) rows hsize
  | range raw start stop =>
      exact findings_eq_findingsAt_of_rectangle hread harea (hlimit harea) rows hsize
  | column name =>
      cases rows with
      | nil => cases harea
      | cons header below =>
          simp only [Field.areaOn] at harea
          split at harea
          · next col hcolumn =>
            cases harea
            exact findings_eq_findingsAt_of_column hread hcolumn hsize
          · cases harea

theorem findings_of_field_error {size : Nat} {stream : ChunkStream FileError} {e : FieldError}
    (hreach : rule.reachFindings size submissionId stream = .error (.field e)) :
    rule.findings size submissionId stream = .ok [rule.failedFinding submissionId] := by
  unfold findings
  rw [hreach]
  rfl

/-- A column without a header on the sheet has one failed finding: either the sheet is empty, or
the header is sought in the first chunk. -/
theorem findings_of_areaOn_eq_none {field : Field} {rows : List Row}
    (hread : Field.ofText rule.field = .ok field) (harea : field.areaOn rows = none)
    {size : Nat} (hsize : 0 < size) :
    rule.findings size submissionId (sheetStream size rows) =
      .ok [rule.failedFinding submissionId] := by
  cases field with
  | cell raw address => cases harea
  | range raw start stop => cases harea
  | column name =>
      suffices hreach : ∃ e, rule.findingsFrom (.column name) submissionId none none (-1)
          (chunksOf size rows) = .error (.field e) by
        obtain ⟨e, he⟩ := hreach
        apply findings_of_field_error (e := e)
        unfold reachFindings
        rw [hread]
        exact he
      unfold chunksOf
      cases rows with
      | nil =>
          rw [pieces_nil]
          exact ⟨_, rfl⟩
      | cons header below =>
          have hfirst : ((header :: below).take size).head?.getD [] = header := by
            rw [List.head?_take, if_neg hsize.ne']
            rfl
          rw [pieces_of_ne_nil hsize (List.cons_ne_nil header below), numberedChunks,
            findingsFrom]
          simp only [Option.getD_none, hfirst, Field.resolve]
          simp only [Field.areaOn] at harea
          cases hcolumn : findColumn header name with
          | error e => exact ⟨_, rfl⟩
          | ok col? =>
              cases col? with
              | none => exact ⟨_, rfl⟩
              | some col =>
                  rw [hcolumn] at harea
                  cases harea

theorem findings_of_unread_field {rows : List Row} {e : FieldError}
    (hread : Field.ofText rule.field = .error e) {size : Nat} :
    rule.findings size submissionId (sheetStream size rows) =
      .ok [rule.failedFinding submissionId] := by
  apply findings_of_field_error (e := e)
  unfold reachFindings
  rw [hread]
  rfl

end Rule

/-! ## Main statements -/

/-- The findings of a cell or a range are those of the cells of its rectangle in row-major order,
whatever the size of the chunks, the path that is taken and the cells outside the rectangle. -/
theorem Rule.findings_rectangle {rule : Rule} {field : Field} {area : Rectangle}
    (hread : Field.ofText rule.field = .ok field) (harea : field.rectangle? = some area)
    (hlimit : area.lastRow < rowLimit) (submissionId : Option Int) (rows : List Row)
    {size : Nat} (hsize : 0 < size) :
    rule.findings size submissionId (sheetStream size rows) =
        .ok (rule.findingsAt submissionId rows area.rowMajor) ∧
      rule.findingsDirect area submissionId (sheetStream size rows) =
        rule.findingsChunked field submissionId (sheetStream size rows) ∧
      ∀ (size' : Nat) (rows' : List Row), 0 < size' →
        (∀ address ∈ area.rowMajor, cellOf rows' address = cellOf rows address) →
        rule.findings size' submissionId (sheetStream size' rows') =
          rule.findings size submissionId (sheetStream size rows) := by
  have hfindings : ∀ (size : Nat), 0 < size → ∀ rows : List Row,
      rule.findings size submissionId (sheetStream size rows) =
        .ok (rule.findingsAt submissionId rows area.rowMajor) := by
    intro size hsize rows
    exact findings_eq_findingsAt_of_rectangle hread harea hlimit rows hsize
  refine ⟨hfindings size hsize rows, ?_, ?_⟩
  · obtain ⟨hrow, hcol⟩ := Field.inQuadrant_of_ofText hread harea
    have hcovers := Field.covers_of_rectangle hread harea hlimit (rows.head?.getD []) rows.length
    rw [findingsDirect_eq_checkEach hrow hcol hsize,
      findingsChunked_eq_checkEach hcovers (Or.inr (by simp [harea])) hsize]
  · intro size' rows' hsize' hcells
    rw [hfindings size' hsize' rows', hfindings size hsize rows, findingsAt_congr hcells]

theorem Rule.findings_rectangle_ragged :
    let rule : Rule := ⟨none, none, none, "required", "B3:A2", "not_empty", "", .error⟩
    let rows : List Row := [[.text "x"], [.int 1], [.int 2, .text "y"]]
    Field.ofText rule.field = .ok (.range "B3:A2" ⟨2, 1⟩ ⟨1, 0⟩) ∧
      rule.findings 2 none (sheetStream 2 rows) =
        .ok (rule.findingsAt none rows [⟨1, 0⟩, ⟨1, 1⟩, ⟨2, 0⟩, ⟨2, 1⟩]) := by
  intro rule rows
  have hread : Field.ofText rule.field = .ok (.range "B3:A2" ⟨2, 1⟩ ⟨1, 0⟩) := by
    decide +kernel
  exact ⟨hread, (findings_rectangle hread rfl (by decide) none rows (by decide)).1⟩

end SheetAudit
