import SheetAudit.Proofs.CellByCell

/-!
# Clean rules

A rule is clean on a sheet if its field is found there and every cell of the field satisfies the
condition and can be shown.  A rule is clean exactly if all of its findings passed; a rule that is
not clean has a failed finding of its own severity.
-/

namespace SheetAudit

open Outcome

/-- The field of a rule looks at an area of a sheet, all cells of which satisfy the condition and
have a text. -/
def Rule.CleanOn (rule : Rule) (rows : List Row) : Prop :=
  ∃ field area, Field.ofText rule.field = .ok field ∧ field.areaOn rows = some area ∧
    ∀ address ∈ area.rowMajor,
      Verdict.evaluate (some rule.type) (some rule.condition) (cellOf rows address) = .ok true ∧
        ∃ shown, shownValue (cellOf rows address) = .ok shown

/-- A cell or a range of a rule ends above the row limit. -/
def Rule.WithinLimit (rule : Rule) : Prop :=
  ∀ field area, Field.ofText rule.field = .ok field → field.rectangle? = some area →
    area.lastRow < rowLimit

/-! ## Texts of addresses -/

theorem exists_intText {n : Int} (hn : n.natAbs < 10 ^ maxIntDigits) :
    ∃ text, intText n = .ok text := by
  have hdigits : (Text.decimalChars n.natAbs).length ≤ maxIntDigits :=
    (Nat.length_toDigits_le_iff (by decide) (by decide)).mpr hn
  unfold intText
  simp only [if_pos hdigits]
  exact ⟨_, rfl⟩

theorem Address.exists_text {address : Address} (hplace : address.InQuadrant)
    (hrow : (address.row + 1).natAbs < 10 ^ maxIntDigits) :
    ∃ text, address.text = .ok text := by
  obtain ⟨row, hrow⟩ := exists_intText hrow
  have hcol : ¬ address.col + 1 < 1 := by
    have := hplace.2
    omega
  unfold Address.text columnLetters AddressError.ofCell
  rw [hrow, if_neg hcol]
  exact ⟨_, rfl⟩

theorem rowLimit_lt_pow : rowLimit.natAbs < 10 ^ maxIntDigits := by
  have hgrow : 10 ^ 19 ≤ 10 ^ maxIntDigits := Nat.pow_le_pow_right (by decide) (by decide)
  have hlimit : rowLimit.natAbs < 10 ^ 19 := by decide
  omega

/-- The cells of a field have addresses with a text, if the numbers of all rows have one. -/
theorem exists_text_of_mem_area {s : String} {field : Field} {rows : List Row}
    {area : Rectangle} {address : Address} (hread : Field.ofText s = .ok field)
    (hlimit : field.rectangle? = some area → area.lastRow < rowLimit)
    (hrows : rows.length < 10 ^ maxIntDigits) (harea : field.areaOn rows = some area)
    (haddress : address ∈ area.rowMajor) : ∃ text, address.text = .ok text := by
  obtain ⟨⟨hfirst, hlast⟩, hleft, _⟩ := Rectangle.mem_rowMajor.mp haddress
  have hlimitPow := rowLimit_lt_pow
  have hrectangle (hfield : field.rectangle? = some area) :
      ∃ text, address.text = .ok text := by
    obtain ⟨htop, hside⟩ := Field.inQuadrant_of_ofText hread hfield
    have hbound := hlimit hfield
    exact Address.exists_text ⟨by omega, by omega⟩ (by omega)
  cases field with
  | cell raw place => exact hrectangle harea
  | range raw start stop => exact hrectangle harea
  | column name =>
      cases rows with
      | nil => cases harea
      | cons header below =>
          simp only [Field.areaOn] at harea
          split at harea
          · cases harea
            simp only [List.length_cons] at hrows hfirst hlast hleft
            exact Address.exists_text ⟨by omega, by omega⟩ (by omega)
          · cases harea

/-! ## Checks of one cell -/

namespace Rule

variable {rule : Rule} {submissionId : Option Int}

theorem severity_of_check {address? : Option Address} {value : Cell} {finding : Finding}
    (hcheck : rule.check address? value submissionId = .ok finding) :
    finding.severity = rule.severity := by
  unfold check at hcheck
  obtain ⟨passed, _, hcheck⟩ := bind_eq_ok_iff.mp hcheck
  obtain ⟨place, _, hcheck⟩ := bind_eq_ok_iff.mp hcheck
  obtain ⟨shown, _, hcheck⟩ := bind_eq_ok_iff.mp hcheck
  cases hcheck
  rfl

theorem check_passes_iff {address : Address} {value : Cell}
    (htext : ∃ text, address.text = .ok text) :
    (∃ finding, rule.check (some address) value submissionId = .ok finding ∧
        finding.passed = true) ↔
      Verdict.evaluate (some rule.type) (some rule.condition) value = .ok true ∧
        ∃ shown, shownValue value = .ok shown := by
  obtain ⟨text, htext⟩ := htext
  have hplace : rule.placeText (some address) = .ok text := htext
  unfold check
  rw [hplace]
  constructor
  · rintro ⟨finding, hcheck, hpassed⟩
    obtain ⟨passed, hevaluate, hcheck⟩ := bind_eq_ok_iff.mp hcheck
    obtain ⟨place, _, hcheck⟩ := bind_eq_ok_iff.mp hcheck
    obtain ⟨shown, hshown, hcheck⟩ := bind_eq_ok_iff.mp hcheck
    cases hcheck
    cases hpassed
    exact ⟨mapError_eq_ok_iff.mp hevaluate, shown, mapError_eq_ok_iff.mp hshown⟩
  · rintro ⟨hevaluate, shown, hshown⟩
    rw [hevaluate, hshown]
    exact ⟨_, rfl, rfl⟩

/-! ## Findings of a rule -/

theorem severity_failedFinding :
    ∀ finding ∈ [rule.failedFinding submissionId], finding.severity = rule.severity := by
  simp [failedFinding]

theorem failedFinding_not_passed :
    ¬ ∀ finding ∈ [rule.failedFinding submissionId], finding.passed = true := by
  simp [failedFinding]

theorem severity_of_mem_findingsAt {rows : List Row} {addresses : List Address}
    {finding : Finding} (hfinding : finding ∈ rule.findingsAt submissionId rows addresses) :
    finding.severity = rule.severity := by
  unfold findingsAt at hfinding
  split at hfinding
  · next findings hchecks =>
    obtain ⟨address, _, hcheck⟩ := (mem_of_mapM_eq_ok hchecks).2 finding hfinding
    exact severity_of_check hcheck
  · exact severity_failedFinding finding hfinding

/-- All findings on some cells passed exactly if the check of every cell does. -/
theorem findingsAt_passed_iff {rows : List Row} {addresses : List Address} :
    (∀ finding ∈ rule.findingsAt submissionId rows addresses, finding.passed = true) ↔
      ∀ address ∈ addresses, ∃ finding,
        rule.check (some address) (cellOf rows address) submissionId = .ok finding ∧
          finding.passed = true := by
  unfold findingsAt
  split
  · next findings hchecks =>
    obtain ⟨hforth, hback⟩ := mem_of_mapM_eq_ok hchecks
    constructor
    · intro hpassed address haddress
      obtain ⟨finding, hfinding, hcheck⟩ := hforth address haddress
      exact ⟨finding, hcheck, hpassed finding hfinding⟩
    · intro hchecked finding hfinding
      obtain ⟨address, haddress, hcheck⟩ := hback finding hfinding
      obtain ⟨other, hother, hpassed⟩ := hchecked address haddress
      rw [hcheck, Except.ok.injEq] at hother
      rw [hother]
      exact hpassed
  · next e hchecks =>
    constructor
    · intro hpassed
      exact absurd hpassed failedFinding_not_passed
    · intro hchecked
      obtain ⟨findings, hfindings⟩ := exists_mapM_ok fun address haddress =>
        (hchecked address haddress).imp fun _ => And.left
      rw [hchecks] at hfindings
      cases hfindings

/-- A rule has findings on every sheet, all of its own severity, and all of them passed exactly if
the rule is clean there. -/
theorem exists_findings (submissionId : Option Int) (hlimit : rule.WithinLimit)
    {rows : List Row} (hrows : rows.length < 10 ^ maxIntDigits) {size : Nat} (hsize : 0 < size) :
    ∃ findings, rule.findings size submissionId (sheetStream size rows) = .ok findings ∧
      (∀ finding ∈ findings, finding.severity = rule.severity) ∧
      ((∀ finding ∈ findings, finding.passed = true) ↔ rule.CleanOn rows) := by
  cases hread : Field.ofText rule.field with
  | error e =>
      refine ⟨_, findings_of_unread_field hread, severity_failedFinding, ?_⟩
      refine iff_of_false failedFinding_not_passed ?_
      rintro ⟨field, area, hfield, _⟩
      rw [hread] at hfield
      cases hfield
  | ok field =>
      cases harea : field.areaOn rows with
      | none =>
          refine ⟨_, findings_of_areaOn_eq_none hread harea hsize, severity_failedFinding, ?_⟩
          refine iff_of_false failedFinding_not_passed ?_
          rintro ⟨other, area, hother, hotherArea, _⟩
          rw [hread, Except.ok.injEq] at hother
          rw [← hother, harea] at hotherArea
          cases hotherArea
      | some area =>
          refine ⟨_, findings_eq_findingsAt hread (hlimit field area hread) harea hsize,
            fun finding => severity_of_mem_findingsAt, ?_⟩
          rw [findingsAt_passed_iff]
          have hclean : rule.CleanOn rows ↔ ∀ address ∈ area.rowMajor,
              Verdict.evaluate (some rule.type) (some rule.condition) (cellOf rows address) =
                  .ok true ∧
                ∃ shown, shownValue (cellOf rows address) = .ok shown := by
            constructor
            · rintro ⟨other, otherArea, hother, hotherArea, hcells⟩
              rw [hread, Except.ok.injEq] at hother
              rw [← hother, harea, Option.some.injEq] at hotherArea
              rw [hotherArea]
              exact hcells
            · intro hcells
              exact ⟨field, area, hread, harea, hcells⟩
          rw [hclean]
          apply forall₂_congr
          intro address haddress
          exact check_passes_iff (exists_text_of_mem_area hread (hlimit field area hread) hrows
            harea haddress)

end Rule

end SheetAudit
