import Mathlib.Tactic
import SheetAudit.Rule.Finding

/-!
# Counts of a summary

A summary is built finding by finding.  Its counts are the numbers of findings of each kind, so they
add up, no order of the findings changes them, and the status of a submission can be read off the
findings.
-/

namespace SheetAudit

theorem Severity.ne_error_iff {severity : Severity} : severity ≠ .error ↔ severity = .warning := by
  cases severity <;> simp

/-- A finding failed with a severity. -/
def Finding.failedWith (severity : Severity) (finding : Finding) : Bool :=
  !finding.passed && finding.severity == severity

namespace Summary

theorem ofFindings_concat (findings : List Finding) (finding : Finding) :
    ofFindings (findings ++ [finding]) = (ofFindings findings).add finding :=
  List.foldl_concat ..

theorem ofFindings_eq_counts (findings : List Finding) :
    ofFindings findings =
      ⟨findings.length, findings.countP (·.passed), findings.countP (!·.passed),
        findings.countP (Finding.failedWith .error),
        findings.countP (Finding.failedWith .warning)⟩ := by
  induction findings using List.reverseRecOn with
  | nil => rfl
  | append_singleton findings finding ih =>
      rw [ofFindings_concat, ih]
      cases hpassed : finding.passed with
      | true => simp [add, hpassed, Finding.failedWith]
      | false =>
          cases hseverity : finding.severity <;>
            simp [add, hpassed, hseverity, Finding.failedWith]

/-! ## Balance -/

/-- Every finding that is counted passed or failed, and every failed one is an error or a
warning. -/
structure Balanced (summary : Summary) : Prop where
  total_eq : summary.total = summary.passed + summary.failed
  failed_eq : summary.failed = summary.errors + summary.warnings

theorem Balanced.afterFinding {summary : Summary} (hbalanced : summary.Balanced)
    (finding : Finding) : (summary.add finding).Balanced := by
  have htotal := hbalanced.total_eq
  have hfailed := hbalanced.failed_eq
  cases hpassed : finding.passed with
  | true =>
      constructor
      · simp only [add, hpassed, if_true]
        omega
      · simp only [add, hpassed, if_true]
        exact hfailed
  | false =>
      cases hseverity : finding.severity <;> constructor <;>
        simp only [add, hpassed, hseverity, Bool.false_eq_true, if_false] <;> omega

theorem balanced_ofFindings (findings : List Finding) : (ofFindings findings).Balanced := by
  induction findings using List.reverseRecOn with
  | nil => exact ⟨rfl, rfl⟩
  | append_singleton findings finding ih =>
      rw [ofFindings_concat]
      exact ih.afterFinding finding

/-! ## Concatenation and order -/

instance : Add Summary where
  add first second :=
    ⟨first.total + second.total, first.passed + second.passed, first.failed + second.failed,
      first.errors + second.errors, first.warnings + second.warnings⟩

theorem ofFindings_append (findings others : List Finding) :
    ofFindings (findings ++ others) = ofFindings findings + ofFindings others := by
  simp only [ofFindings_eq_counts, List.length_append, List.countP_append]
  rfl

theorem ofFindings_eq_of_perm {findings others : List Finding} (hperm : findings.Perm others) :
    ofFindings findings = ofFindings others := by
  simp only [ofFindings_eq_counts, hperm.length_eq, hperm.countP_eq]

/-! ## Status -/

theorem failedWith_eq_true_iff {severity : Severity} {finding : Finding} :
    finding.failedWith severity = true ↔
      finding.passed = false ∧ finding.severity = severity := by
  simp [Finding.failedWith]

theorem errors_pos_iff (findings : List Finding) :
    0 < (ofFindings findings).errors ↔
      ∃ finding ∈ findings, finding.passed = false ∧ finding.severity = .error := by
  rw [ofFindings_eq_counts]
  simp only [List.countP_pos_iff, failedWith_eq_true_iff]

theorem warnings_pos_iff (findings : List Finding) :
    0 < (ofFindings findings).warnings ↔
      ∃ finding ∈ findings, finding.passed = false ∧ finding.severity = .warning := by
  rw [ofFindings_eq_counts]
  simp only [List.countP_pos_iff, failedWith_eq_true_iff]

theorem status_eq_failed_iff (findings : List Finding) :
    (ofFindings findings).status = .failed ↔
      ∃ finding ∈ findings, finding.passed = false ∧ finding.severity = .error := by
  rw [← errors_pos_iff, status]
  split
  · next herrors => simp [herrors]
  · next herrors => split <;> simp [herrors]

theorem status_eq_needsReview_iff (findings : List Finding) :
    (ofFindings findings).status = .needsReview ↔
      (∃ finding ∈ findings, finding.passed = false) ∧
        ∀ finding ∈ findings, finding.passed = false → finding.severity = .warning := by
  have herrors := errors_pos_iff findings
  have hwarnings := warnings_pos_iff findings
  unfold status
  constructor
  · intro hstatus
    split at hstatus
    · cases hstatus
    · next hnoError =>
      split at hstatus
      · next hwarning =>
        obtain ⟨finding, hfinding, hfailed, _⟩ := hwarnings.mp hwarning
        refine ⟨⟨finding, hfinding, hfailed⟩, ?_⟩
        intro other hother hotherFailed
        cases hseverity : other.severity with
        | error => exact absurd (herrors.mpr ⟨other, hother, hotherFailed, hseverity⟩) hnoError
        | warning => rfl
      · cases hstatus
  · rintro ⟨⟨finding, hfinding, hfailed⟩, hwarning⟩
    have hnoError : ¬ 0 < (ofFindings findings).errors := by
      intro herror
      obtain ⟨other, hother, hotherFailed, hseverity⟩ := herrors.mp herror
      rw [hwarning other hother hotherFailed] at hseverity
      cases hseverity
    have hsomeWarning : 0 < (ofFindings findings).warnings :=
      hwarnings.mpr ⟨finding, hfinding, hfailed, hwarning finding hfinding hfailed⟩
    rw [if_neg hnoError, if_pos hsomeWarning]

theorem status_eq_passed_iff (findings : List Finding) :
    (ofFindings findings).status = .passed ↔ ∀ finding ∈ findings, finding.passed = true := by
  have herrors := errors_pos_iff findings
  have hwarnings := warnings_pos_iff findings
  unfold status
  constructor
  · intro hstatus finding hfinding
    split at hstatus
    · cases hstatus
    · next hnoError =>
      split at hstatus
      · cases hstatus
      · next hnoWarning =>
        by_contra hfailed
        rw [Bool.not_eq_true] at hfailed
        cases hseverity : finding.severity with
        | error => exact hnoError (herrors.mpr ⟨finding, hfinding, hfailed, hseverity⟩)
        | warning => exact hnoWarning (hwarnings.mpr ⟨finding, hfinding, hfailed, hseverity⟩)
  · intro hpassed
    have hnone : ¬ ∃ finding ∈ findings, finding.passed = false := by
      rintro ⟨finding, hfinding, hfailed⟩
      rw [hpassed finding hfinding] at hfailed
      cases hfailed
    rw [if_neg, if_neg]
    · intro hwarning
      obtain ⟨finding, hfinding, hfailed, _⟩ := hwarnings.mp hwarning
      exact hnone ⟨finding, hfinding, hfailed⟩
    · intro herror
      obtain ⟨finding, hfinding, hfailed, _⟩ := herrors.mp herror
      exact hnone ⟨finding, hfinding, hfailed⟩

/-- A summary counts every finding once, whatever the order of the findings and however they are
put together, and its status says whether a finding failed and whether one of those weighs as an
error. -/
theorem ofFindings_counts_once (findings : List Finding) :
    (ofFindings findings).Balanced ∧
      ofFindings findings =
        { total := findings.length
          passed := findings.countP (·.passed)
          failed := findings.countP (!·.passed)
          errors := findings.countP (Finding.failedWith .error)
          warnings := findings.countP (Finding.failedWith .warning) } ∧
      (∀ others, ofFindings (findings ++ others) = ofFindings findings + ofFindings others) ∧
      (∀ others, findings.Perm others → ofFindings findings = ofFindings others) ∧
      ((ofFindings findings).status = .failed ↔
        ∃ finding ∈ findings, finding.passed = false ∧ finding.severity = .error) ∧
      ((ofFindings findings).status = .needsReview ↔
        (∃ finding ∈ findings, finding.passed = false) ∧
          ∀ finding ∈ findings, finding.passed = false → finding.severity ≠ .error) ∧
      ((ofFindings findings).status = .passed ↔
        ∀ finding ∈ findings, finding.passed = true) := by
  refine ⟨balanced_ofFindings findings, ofFindings_eq_counts findings,
    ofFindings_append findings, ?_, status_eq_failed_iff findings, ?_,
    status_eq_passed_iff findings⟩
  · intro others hperm
    exact ofFindings_eq_of_perm hperm
  · simp only [Severity.ne_error_iff]
    exact status_eq_needsReview_iff findings

/-- Two cells that failed with a warning and one that passed, in two orders. -/
theorem ofFindings_counts_once_reordered :
    let passed : Finding := ⟨some 7, some 1, "B2", "12", true, .error, "", some 2, some 2⟩
    let short : Finding := ⟨some 7, some 2, "C2", "", false, .warning, "short", some 2, some 3⟩
    let long : Finding := ⟨some 7, some 2, "C3", "x", false, .warning, "long", some 3, some 3⟩
    [short, passed, long].Perm [passed, short, long] ∧
      ofFindings [short, passed, long] = ofFindings [passed, short, long] ∧
      ofFindings [short, passed, long] = ⟨3, 1, 2, 0, 2⟩ ∧
      ofFindings ([short, passed, long] ++ [passed]) =
        ofFindings [short, passed, long] + ofFindings [passed] ∧
      (ofFindings [short, passed, long]).status = .needsReview := by
  intro passed short long
  have hperm : [short, passed, long].Perm [passed, short, long] := .swap _ _ _
  obtain ⟨-, hcounts, happend, horder, -, hreview, -⟩ :=
    ofFindings_counts_once [short, passed, long]
  refine ⟨hperm, horder _ hperm, hcounts, happend [passed], hreview.mpr ?_⟩
  decide

/-! ## Findings with a cause -/

/-- Every failed finding has a cause with its severity, and every cause shows in a failed
finding. -/
structure FailuresOf {ι : Type} (cause : ι → Prop) (severity : ι → Severity)
    (findings : List Finding) : Prop where
  blame : ∀ finding ∈ findings, finding.passed = false →
    ∃ i, cause i ∧ finding.severity = severity i
  shown : ∀ i, cause i →
    ∃ finding ∈ findings, finding.passed = false ∧ finding.severity = severity i

namespace FailuresOf

variable {ι : Type} {cause : ι → Prop} {severity : ι → Severity} {findings : List Finding}

theorem exists_failed_iff (hfailures : FailuresOf cause severity findings) :
    (∃ finding ∈ findings, finding.passed = false) ↔ ∃ i, cause i := by
  constructor
  · rintro ⟨finding, hfinding, hfailed⟩
    obtain ⟨i, hcause, _⟩ := hfailures.blame finding hfinding hfailed
    exact ⟨i, hcause⟩
  · rintro ⟨i, hcause⟩
    obtain ⟨finding, hfinding, hfailed, _⟩ := hfailures.shown i hcause
    exact ⟨finding, hfinding, hfailed⟩

theorem status_passed (hfailures : FailuresOf cause severity findings) :
    (ofFindings findings).status = .passed ↔ ∀ i, ¬ cause i := by
  rw [status_eq_passed_iff, ← not_exists, ← hfailures.exists_failed_iff]
  push Not
  simp only [ne_eq, Bool.not_eq_false]

theorem status_failed (hfailures : FailuresOf cause severity findings) :
    (ofFindings findings).status = .failed ↔ ∃ i, cause i ∧ severity i = .error := by
  rw [status_eq_failed_iff]
  constructor
  · rintro ⟨finding, hfinding, hfailed, herror⟩
    obtain ⟨i, hcause, hseverity⟩ := hfailures.blame finding hfinding hfailed
    exact ⟨i, hcause, hseverity ▸ herror⟩
  · rintro ⟨i, hcause, herror⟩
    obtain ⟨finding, hfinding, hfailed, hseverity⟩ := hfailures.shown i hcause
    exact ⟨finding, hfinding, hfailed, hseverity.trans herror⟩

theorem status_needsReview (hfailures : FailuresOf cause severity findings) :
    (ofFindings findings).status = .needsReview ↔
      (∃ i, cause i) ∧ ∀ i, cause i → severity i = .warning := by
  rw [status_eq_needsReview_iff, hfailures.exists_failed_iff]
  apply and_congr_right
  intro _
  constructor
  · intro hwarning i hcause
    obtain ⟨finding, hfinding, hfailed, hseverity⟩ := hfailures.shown i hcause
    exact hseverity ▸ hwarning finding hfinding hfailed
  · intro hwarning finding hfinding hfailed
    obtain ⟨i, hcause, hseverity⟩ := hfailures.blame finding hfinding hfailed
    exact hseverity.trans (hwarning i hcause)

end FailuresOf

end Summary

end SheetAudit
