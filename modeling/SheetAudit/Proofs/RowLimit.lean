import Mathlib.Tactic
import SheetAudit.Proofs.CellByCell
import SheetAudit.Proofs.CleanRules

/-!
# Ranges beyond the row limit

A range may name rows of any number.  Collected first, all of its cells are checked.  Checked chunk
by chunk, the cells below the sheet are checked only above the row limit, so a range that is larger
than a chunk loses its cells beyond the limit, and may be left with no findings at all.

The cells that remain are themselves a rectangle, which the field covers on every sheet.
-/

namespace SheetAudit

open Text Outcome

/-- The part of a range that is checked on a sheet of some height in chunks of some size. -/
def Rectangle.checkedPart (area : Rectangle) (size height : Nat) : Rectangle :=
  if area.count ≤ size then area else area.clip (.span 0 (max height rowLimit))

/-- The condition of a rule can be evaluated on a value, and the value has a text. -/
def Rule.EvaluatesOn (rule : Rule) (value : Cell) : Prop :=
  (∃ passed, Verdict.evaluate (some rule.type) (some rule.condition) value = .ok passed) ∧
    ∃ shown, shownValue value = .ok shown

/-! ## Row numbers that are read have a text -/

theorem foldl_digits_lt {cs : List Char} (hdigits : ∀ c ∈ cs, c.isDigit = true) {seen places : Nat}
    (hseen : seen < 10 ^ places) :
    cs.foldl (fun total c => total * 10 + (c.toNat - 48)) seen < 10 ^ (places + cs.length) := by
  induction cs generalizing seen places with
  | nil => exact hseen
  | cons c cs ih =>
      have hdigit : 48 ≤ c.val ∧ c.val ≤ 57 := by
        simpa [Char.isDigit] using hdigits c (by simp)
      have hvalue : c.toNat ≤ 57 := hdigit.2
      have hnext : seen * 10 + (c.toNat - 48) < 10 ^ (places + 1) := by
        rw [Nat.pow_succ]
        omega
      have hrest := ih (fun other hother => hdigits other (by simp [hother])) hnext
      rw [List.foldl_cons, List.length_cons, Nat.add_comm cs.length 1, ← Nat.add_assoc]
      exact hrest

theorem digitsValue_lt {cs : List Char} (hdigits : ∀ c ∈ cs, c.isDigit = true) :
    digitsValue cs < 10 ^ cs.length := by
  have hnone : 0 < 10 ^ 0 := Nat.one_pos
  simpa [digitsValue] using foldl_digits_lt hdigits hnone

theorem Address.row_lt_of_ofText {s : String} {address : Address}
    (hread : Address.ofText s = .ok (some address)) :
    address.row + 1 < (10 ^ maxIntDigits : Nat) := by
  unfold Address.ofText at hread
  simp only [pure_eq_ok, throw_eq_error] at hread
  split at hread
  · cases hread
  · next hparts =>
    split at hread
    · cases hread
    · next hlength =>
      split at hread
      · cases hread
      · cases hread
        simp only [Bool.or_eq_true, not_or, Bool.not_eq_true', Bool.not_eq_false,
          List.all_eq_true] at hparts
        have hvalue := digitsValue_lt hparts.2
        have hgrow : 10 ^ (List.dropWhile Char.isUpper (trimChars s.toList)).length ≤
            10 ^ maxIntDigits := Nat.pow_le_pow_right (by decide) (Nat.not_lt.mp hlength)
        simp only [Int.sub_add_cancel]
        exact_mod_cast hvalue.trans_le hgrow

/-- A row number is read only if it has no more digits than can be written. -/
theorem Field.lastRow_lt_of_ofText {s raw : String} {start stop : Address}
    (hread : Field.ofText s = .ok (.range raw start stop)) :
    (Rectangle.ofCorners start stop).lastRow + 1 < (10 ^ maxIntDigits : Nat) := by
  unfold Field.ofText at hread
  simp only [pure_eq_ok, throw_eq_error] at hread
  split at hread
  · obtain ⟨start?, hstart, hread⟩ := bind_eq_ok_iff.mp hread
    obtain ⟨stop?, hstop, hread⟩ := bind_eq_ok_iff.mp hread
    split at hread
    · cases hread
      have hfrom := Address.row_lt_of_ofText (mapError_eq_ok_iff.mp hstart)
      have hto := Address.row_lt_of_ofText (mapError_eq_ok_iff.mp hstop)
      simp only [Rectangle.ofCorners]
      omega
    · cases hread
  · obtain ⟨address?, haddress, hread⟩ := bind_eq_ok_iff.mp hread
    split at hread
    · cases hread
    · split at hread <;> cases hread

theorem exists_text_of_mem_range {s raw : String} {start stop address : Address}
    (hread : Field.ofText s = .ok (.range raw start stop))
    (haddress : address ∈ (Rectangle.ofCorners start stop).rowMajor) :
    ∃ text, address.text = .ok text := by
  obtain ⟨⟨hfirst, hlast⟩, hleft, -⟩ := Rectangle.mem_rowMajor.mp haddress
  obtain ⟨htop, hside⟩ := Field.inQuadrant_of_ofText hread rfl
  have hbound := Field.lastRow_lt_of_ofText hread
  exact Address.exists_text ⟨htop.trans hfirst, hside.trans hleft⟩ (by omega)

/-! ## The cells that are checked -/

namespace Rectangle

variable {area : Rectangle} {size height : Nat}

theorem mem_of_mem_checkedPart {address : Address}
    (haddress : address ∈ (area.checkedPart size height).rowMajor) :
    address ∈ area.rowMajor := by
  unfold checkedPart at haddress
  split at haddress
  · exact haddress
  · rw [mem_rowMajor] at haddress ⊢
    simp only [clip, RowWindow.span] at haddress
    omega

theorem count_clip (area : Rectangle) (htop : 0 ≤ area.firstRow) (limit : Int) :
    (area.clip (.span 0 limit)).count =
      (min area.lastRow (limit - 1) - area.firstRow + 1).toNat * area.width := by
  have hfirst : max area.firstRow 0 = area.firstRow := max_eq_left htop
  simp only [count, height, width, clip, RowWindow.span, hfirst]

/-- All cells of a rectangle are checked exactly if they fit into a chunk or end above both the
row limit and the end of the sheet. -/
theorem count_checkedPart_eq_iff (htop : 0 ≤ area.firstRow) (hrows : area.firstRow ≤ area.lastRow)
    (hcols : area.firstCol ≤ area.lastCol) :
    (area.checkedPart size height).count = area.count ↔
      area.count ≤ size ∨ area.lastRow < max (height : Int) rowLimit := by
  have hwidth : 0 < area.width := by
    unfold width
    omega
  unfold checkedPart
  split
  · next hfits => exact iff_of_true rfl (.inl hfits)
  · next hlarge =>
    rw [or_iff_right hlarge, area.count_clip htop, count, Nat.mul_left_inj hwidth.ne',
      Rectangle.height]
    omega

/-- No cell of a rectangle is checked exactly if it does not fit into a chunk and starts beyond
both the row limit and the end of the sheet. -/
theorem rowMajor_checkedPart_eq_nil_iff (htop : 0 ≤ area.firstRow)
    (hrows : area.firstRow ≤ area.lastRow) (hcols : area.firstCol ≤ area.lastCol) :
    (area.checkedPart size height).rowMajor = [] ↔
      size < area.count ∧ max (height : Int) rowLimit ≤ area.firstRow := by
  have hwidth : 0 < area.width := by
    unfold width
    omega
  rw [← List.length_eq_zero_iff, length_rowMajor]
  unfold checkedPart
  split
  · next hfits =>
    have hcount : 0 < area.count := Nat.mul_pos (by unfold Rectangle.height; omega) hwidth
    omega
  · next hlarge =>
    rw [area.count_clip htop, Nat.mul_eq_zero, or_iff_left hwidth.ne',
      and_iff_right (Nat.not_le.mp hlarge)]
    omega

end Rectangle

/-- On every sheet a range covers its rows above the row limit, and those in the sheet. -/
theorem Field.covers_of_clip {text : String} {field : Field} {area : Rectangle}
    (hread : Field.ofText text = .ok field) (harea : field.rectangle? = some area) (headers : Row)
    (height : Int) :
    field.Covers headers height (area.clip (.span 0 (max height rowLimit))) where
  fromTop := le_max_right _ _
  fromLeft := (Field.inQuadrant_of_ofText hread harea).2
  resolve := by
    intro first stop hstop
    have htop := (Field.inQuadrant_of_ofText hread harea).1
    have hclip : (area.clip (.span 0 (max height rowLimit))).clip (.span first stop) =
        area.clip (.span first stop) := by
      simp only [Rectangle.clip, RowWindow.span, Rectangle.mk.injEq, and_true]
      omega
    rw [hclip]
    exact Field.resolve_of_rectangle harea headers _
  endsBy := by
    intro row hends
    have hlast : area.lastRow ≤ row := by simpa [Field.endsBy, harea] using hends
    exact (min_le_left _ _).trans hlast
  below := by
    intro rule submissionId row hrow
    rw [rule.findingsBelow_of_rectangle harea]
    simp only [Rectangle.clip, RowWindow.span] at hrow
    rcases le_or_gt height rowLimit with habove | hbeyond
    · -- the sheet ends above the limit, so the rows below it are clipped there
      have htop := (Field.inQuadrant_of_ofText hread harea).1
      have hclip : (area.clip (.span 0 (max height rowLimit))).clip ⟨row + 1, none⟩ =
          area.clip (.span (row + 1) rowLimit) := by
        simp only [Rectangle.clip, RowWindow.span, Rectangle.mk.injEq, and_true]
        omega
      rw [hclip]
    · -- the sheet reaches the limit, so nothing is left below it
      have hnone : (area.clip (.span (row + 1) rowLimit)).rowMajor = [] := by
        apply Rectangle.rowMajor_eq_nil
        simp only [Rectangle.clip, RowWindow.span]
        omega
      have hnone' : ((area.clip (.span 0 (max height rowLimit))).clip ⟨row + 1, none⟩).rowMajor =
          [] := by
        apply Rectangle.rowMajor_eq_nil
        simp only [Rectangle.clip, RowWindow.span]
        omega
      rw [hnone, hnone']

/-! ## Findings of a range -/

namespace Rule

variable {rule : Rule} {submissionId : Option Int}

theorem exists_check {address : Address} {value : Cell} (hvalue : rule.EvaluatesOn value)
    (htext : ∃ text, address.text = .ok text) :
    ∃ finding, rule.check (some address) value submissionId = .ok finding := by
  obtain ⟨⟨passed, hpassed⟩, shown, hshown⟩ := hvalue
  obtain ⟨text, htext⟩ := htext
  have hplace : rule.placeText (some address) = .ok text := htext
  unfold check
  rw [hpassed, hplace, hshown]
  exact ⟨_, rfl⟩

/-- The findings of a rectangle are those of its checked part, wherever it lies. -/
theorem findings_checkedPart {field : Field} {area : Rectangle}
    (hread : Field.ofText rule.field = .ok field) (harea : field.rectangle? = some area)
    (submissionId : Option Int) (rows : List Row) {size : Nat} (hsize : 0 < size) :
    rule.findings size submissionId (sheetStream size rows) =
      .ok (rule.findingsAt submissionId rows (area.checkedPart size rows.length).rowMajor) := by
  obtain ⟨hrow, hcol⟩ := Field.inQuadrant_of_ofText hread harea
  apply findings_of_checkEach
  unfold reachFindings Rectangle.checkedPart
  rw [hread]
  simp only [mapError_ok, ok_bind, harea]
  split
  · exact findingsDirect_eq_checkEach hrow hcol hsize
  · have hcovers := Field.covers_of_clip hread harea (rows.head?.getD []) rows.length
    exact findingsChunked_eq_checkEach hcovers (Or.inr (by simp [harea])) hsize

/-- A rule that can be evaluated on every cell of its range has the findings of the checked part of
the range, one for each cell.  They are all of its cells exactly if the range has no more cells
than a chunk has rows, or ends above the row limit or the end of the sheet; and there are none
exactly if the range is larger and starts beyond both. -/
theorem findings_range_row_limit {raw : String} {start stop : Address}
    (hread : Field.ofText rule.field = .ok (.range raw start stop)) (submissionId : Option Int)
    (rows : List Row) {size : Nat} (hsize : 0 < size)
    (hcells : ∀ address ∈ (Rectangle.ofCorners start stop).rowMajor,
      rule.EvaluatesOn (cellOf rows address)) :
    let area := Rectangle.ofCorners start stop
    ∃ findings, rule.findings size submissionId (sheetStream size rows) = .ok findings ∧
      (area.checkedPart size rows.length).rowMajor.mapM (fun address =>
        rule.check (some address) (cellOf rows address) submissionId) = .ok findings ∧
      (findings.length = area.count ↔
        area.count ≤ size ∨ area.lastRow < max (rows.length : Int) rowLimit) ∧
      (findings = [] ↔ size < area.count ∧ max (rows.length : Int) rowLimit ≤ area.firstRow) := by
  intro area
  have hfindings := findings_checkedPart hread rfl submissionId rows hsize
  have hchecks : ∀ address ∈ (area.checkedPart size rows.length).rowMajor, ∃ finding,
      rule.check (some address) (cellOf rows address) submissionId = .ok finding := by
    intro address haddress
    have hinside := Rectangle.mem_of_mem_checkedPart haddress
    exact exists_check (hcells address hinside) (exists_text_of_mem_range hread hinside)
  obtain ⟨findings, hmap⟩ := exists_mapM_ok hchecks
  unfold findingsAt at hfindings
  rw [hmap] at hfindings
  have hlength : findings.length = (area.checkedPart size rows.length).count := by
    rw [length_of_mapM_eq_ok hmap, Rectangle.length_rowMajor]
  have htop : 0 ≤ area.firstRow := (Field.inQuadrant_of_ofText hread rfl).1
  have hrows : area.firstRow ≤ area.lastRow := min_le_max
  have hcols : area.firstCol ≤ area.lastCol := min_le_max
  refine ⟨findings, hfindings, hmap, ?_, ?_⟩
  · rw [hlength]
    exact Rectangle.count_checkedPart_eq_iff htop hrows hcols
  · rw [← Rectangle.rowMajor_checkedPart_eq_nil_iff htop hrows hcols, ← List.length_eq_zero_iff,
      ← List.length_eq_zero_iff, length_of_mapM_eq_ok hmap]

theorem evaluatesOn_required_below {rule : Rule} (htype : rule.type = "required")
    (hcondition : rule.condition = "not_empty") {rows : List Row} {address : Address}
    (hbelow : rows.length ≤ address.row) : rule.EvaluatesOn (cellOf rows address) := by
  unfold EvaluatesOn
  rw [cellOf_of_length_le hbelow, htype, hcondition]
  exact ⟨⟨false, by decide +kernel⟩, "", rfl⟩

/-- Of two rows around the limit the first is checked and the second is not. -/
theorem findings_range_row_limit_two_rows :
    let rule : Rule := ⟨none, none, none, "required",
      "A9223372036854775807:B9223372036854775808", "not_empty", "missing", .error⟩
    let rows : List Row := [[.text "x"]]
    ∃ findings, rule.findings 1 none (sheetStream 1 rows) = .ok findings ∧
      findings.length ≠ 4 ∧ findings ≠ [] := by
  intro rule rows
  have hread : Field.ofText rule.field =
      .ok (.range rule.field ⟨9223372036854775806, 0⟩ ⟨9223372036854775807, 1⟩) := by
    decide +kernel
  have hcells : ∀ address ∈ (Rectangle.ofCorners ⟨9223372036854775806, 0⟩
      ⟨9223372036854775807, 1⟩).rowMajor, rule.EvaluatesOn (cellOf rows address) := by
    intro address haddress
    have hrow := (Rectangle.mem_rowMajor.mp haddress).1.1
    exact evaluatesOn_required_below rfl rfl (le_trans (by decide) hrow)
  obtain ⟨findings, hfindings, _, hall, hnone⟩ :=
    findings_range_row_limit hread none rows Nat.one_pos hcells
  refine ⟨findings, hfindings, ?_, ?_⟩
  · intro hlength
    exact absurd (hall.mp hlength) (by decide +kernel)
  · intro hempty
    exact absurd (hnone.mp hempty) (by decide +kernel)

/-- A rule on two cells beyond the row limit: row by row it has no findings, in one chunk it has
two. -/
theorem findings_beyond_row_limit :
    let rule : Rule := ⟨none, none, none, "required",
      "A9223372036854775808:B9223372036854775808", "not_empty", "missing", .error⟩
    let area := Rectangle.ofCorners ⟨9223372036854775807, 0⟩ ⟨9223372036854775807, 1⟩
    let rows : List Row := [[.text "x"]]
    Field.ofText rule.field =
        .ok (.range rule.field ⟨9223372036854775807, 0⟩ ⟨9223372036854775807, 1⟩) ∧
      area.count = 2 ∧
      (∀ address ∈ area.rowMajor, rule.EvaluatesOn (cellOf rows address)) ∧
      rule.findings 1 none (sheetStream 1 rows) = .ok [] ∧
      (rule.findings 2 none (sheetStream 2 rows)).map List.length = .ok 2 := by
  intro rule area rows
  have hread : Field.ofText rule.field =
      .ok (.range rule.field ⟨9223372036854775807, 0⟩ ⟨9223372036854775807, 1⟩) := by
    decide +kernel
  refine ⟨hread, rfl, ?_, ?_, ?_⟩
  · intro address haddress
    have hrow := (Rectangle.mem_rowMajor.mp haddress).1.1
    exact evaluatesOn_required_below rfl rfl (le_trans (by decide) hrow)
  · rw [findings_checkedPart hread rfl none rows Nat.one_pos]
    decide +kernel
  · rw [findings_checkedPart hread rfl none rows Nat.two_pos]
    decide +kernel

end Rule

end SheetAudit
