import SheetAudit.Proofs.ConditionComposition
import SheetAudit.Proofs.ListVerdicts

/-!
# Verdicts on ordinary values

A scalar cell has a text and a number, or it has none for a reason that is no more than a failure,
unless it is a whole number beyond the range of a double.  So a rule reaches a verdict on every
value without such a number, if no count in its pattern is too great.  A condition that cannot be
read fails every value.
-/

namespace SheetAudit

open Outcome

namespace Cell

variable {cell : Cell}

/-- A cell is no whole number beyond the range of a double. -/
def FitsDouble (cell : Cell) : Prop :=
  ∀ n, cell = .int n → (Number.ofInt n).isInfinite = false

theorem number_failsOnlyBy (hfits : cell.FitsDouble) :
    FailsOnlyBy (· ≠ .intTooLarge) cell.number := by
  cases cell with
  | int n =>
      rw [number, hfits n rfl]
      exact .ok _
  | decimal value =>
      cases value with
      | finite => exact .ok _
      | infinite => exact .ok _
      | nan negative signaling payload =>
          cases signaling with
          | false => exact .ok _
          | true => exact .error CellError.noConfusion
  | _ => exact .ok _

theorem shown_failsOnlyBy (hscalar : cell.IsScalar) :
    FailsOnlyBy (· ≠ .intTooLarge) cell.shown := by
  cases cell with
  | list items => exact absurd rfl (hscalar items)
  | int n =>
      rw [shown, intText]
      split
      · exact .ok _
      · exact .error CellError.noConfusion
  | _ => exact .ok _

theorem normalized_eq_or (cell : Cell) : cell.normalized = cell ∨ cell.normalized = .empty := by
  unfold normalized
  split
  · exact .inr rfl
  · split
    · exact .inr rfl
    · exact .inl rfl
  · exact .inl rfl

theorem readableUpTo_normalized (hscalar : cell.IsScalar) (hfits : cell.FitsDouble) :
    Condition.ReadableUpTo (· ≠ .intTooLarge) cell.normalized := by
  rcases cell.normalized_eq_or with hsame | hempty
  · rw [hsame]
    exact ⟨shown_failsOnlyBy hscalar, number_failsOnlyBy hfits⟩
  · rw [hempty]
    exact ⟨.ok _, .ok _⟩

end Cell

namespace Condition

variable {condition : String}

theorem exists_error_of_not_nestsWithin (hnone : ¬ NestsWithin maxNesting condition) :
    ∃ e, Tree.ofText condition = .error e := by
  cases hread : Tree.ofText condition with
  | error e => exact ⟨e, rfl⟩
  | ok tree =>
      obtain ⟨found, hfound, htree⟩ := bind_eq_ok_iff.mp hread
      obtain ⟨phrase, rfl, hnesting, -⟩ := Tree.ofTokens_eq_ok htree
      have hdepths := (phrase.forall_depths_le_iff 0 maxNesting).mpr (by rwa [Nat.zero_add])
      exact absurd ⟨phrase, hfound, hdepths⟩ hnone

end Condition

namespace Verdict

/-! ## Errors of one type of rule -/

section Errors

variable {condition : Option String} {value : Cell}

theorem format_failsOnlyBy (pattern : Pattern.Node) (hscalar : value.IsScalar) :
    FailsOnlyBy (· ≠ .intTooLarge) (format pattern value) := by
  unfold format
  split
  · next items => exact absurd rfl (hscalar items)
  · exact .ok _
  · exact .ok _
  · exact (Cell.shown_failsOnlyBy hscalar).bind fun shown => .ok _

theorem range_failsOnlyBy (bounds : Bounds) (hscalar : value.IsScalar) (hfits : value.FitsDouble) :
    FailsOnlyBy (· ≠ .intTooLarge) (range bounds value) := by
  rw [range_of_isScalar bounds hscalar]
  exact (Cell.number_failsOnlyBy hfits).bind fun number => .ok _

theorem cell_isFatal {e : CellError} (he : e ≠ .intTooLarge) :
    (VerdictError.cell e).isFatal = false := by
  cases e with
  | intTooLarge => exact absurd rfl he
  | tooManyDigits => rfl
  | signalingNaN => rfl

theorem pattern_isFatal {e : Pattern.Error} (he : e ≠ .tooManyRepeats) :
    (VerdictError.pattern e).isFatal = false := by
  cases e with
  | tooManyRepeats => exact absurd rfl he
  | invalid => rfl
  | tooDeep => rfl

theorem custom_failsOnlyBy (text : String) (hscalar : value.IsScalar) (hfits : value.FitsDouble) :
    FailsOnlyBy (fun e => e.isFatal = false)
      ((custom (some text) value).mapError VerdictError.ofEval) := by
  rw [custom_of_isScalar _ hscalar]
  cases hread : Condition.Tree.ofText text with
  | error e =>
      rw [Condition.holds_of_unread hread]
      exact .error rfl
  | ok tree =>
      have hcell := Cell.readableUpTo_normalized hscalar hfits
      have htree := Condition.failsOnlyBy_holds_of_ofText hcell hread
      rw [Condition.holds_of_ofText hread]
      cases hholds : tree.holds value with
      | ok truth => exact .ok truth
      | error e => exact .error (cell_isFatal (htree e hholds))

theorem reach_failsOnlyBy (kind : RuleType) (text : String)
    (hpattern : kind = .format → ∀ e, Pattern.ofText text = .error e → e ≠ .tooManyRepeats)
    (hscalar : value.IsScalar) (hfits : value.FitsDouble) :
    FailsOnlyBy (fun e => e.isFatal = false) (reach kind (some text) value) := by
  cases kind with
  | required => exact .ok _
  | format =>
      have hread : FailsOnlyBy (fun e => e.isFatal = false)
          ((Pattern.ofText text).mapError VerdictError.pattern) :=
        FailsOnlyBy.mapError fun e he => pattern_isFatal (hpattern rfl e he)
      refine hread.bind fun pattern => FailsOnlyBy.mapError fun e he => ?_
      exact cell_isFatal (format_failsOnlyBy pattern hscalar e he)
  | range =>
      have hread : FailsOnlyBy (fun e => e.isFatal = false)
          ((Bounds.ofText text).mapError VerdictError.bounds) :=
        FailsOnlyBy.mapError fun e _ => rfl
      refine hread.bind fun bounds => FailsOnlyBy.mapError fun e he => ?_
      exact cell_isFatal (range_failsOnlyBy bounds hscalar hfits e he)
  | custom => exact custom_failsOnlyBy text hscalar hfits

end Errors

/-! ## Verdicts -/

section Verdicts

variable {type text : String} {value : Cell}

theorem evaluate_of_mild_error {kind : RuleType} (htype : type = kind.text) {e : VerdictError}
    (hreach : reach kind (some text) value = .error e) (hmild : e.isFatal = false) :
    evaluate (some type) (some text) value = .ok false := by
  have hkind : (some type).bind RuleType.ofText? = some kind :=
    RuleType.bind_ofText?_eq_some_iff.mpr (congrArg some htype)
  rw [evaluate_of_type hkind, hreach, settled, hmild]
  rfl

theorem exists_evaluate_of_isScalar
    (hpattern : type = "format" → ∀ e, Pattern.ofText text = .error e → e ≠ .tooManyRepeats)
    (hscalar : value.IsScalar) (hfits : value.FitsDouble) :
    ∃ passed, evaluate (some type) (some text) value = .ok passed := by
  cases hkind : (some type).bind RuleType.ofText? with
  | none => exact ⟨false, evaluate_of_no_type hkind value⟩
  | some kind =>
      have htype : type = kind.text := Option.some.inj (RuleType.bind_ofText?_eq_some_iff.mp hkind)
      have hfails := reach_failsOnlyBy kind text
        (fun hformat => hpattern (by rw [htype, hformat]; rfl)) hscalar hfits
      cases hreach : reach kind (some text) value with
      | ok passed =>
          rw [evaluate_of_type hkind, hreach]
          exact ⟨passed, rfl⟩
      | error e => exact ⟨false, evaluate_of_mild_error htype hreach (hfails e hreach)⟩

theorem exists_evaluate_of_isFlat
    (hpattern : type = "format" → ∀ e, Pattern.ofText text = .error e → e ≠ .tooManyRepeats)
    (hflat : value.IsFlat) (hfits : ∀ cell ∈ value.cells, cell.FitsDouble) :
    ∃ passed, evaluate (some type) (some text) value = .ok passed := by
  by_cases hempty : value = .list []
  · subst hempty
    refine ⟨false, evaluate_nil_of_no_fault ?_⟩
    rintro ⟨e, htype, hunread, hfatal⟩
    rw [pattern_isFatal (hpattern (Option.some.inj htype) e hunread)] at hfatal
    cases hfatal
  · rw [evaluate_of_isFlat _ _ hflat hempty]
    apply exists_inTurn
    intro cell hcell
    exact exists_evaluate_of_isScalar hpattern (hflat cell hcell) (hfits cell hcell)

theorem evaluate_custom_of_unread (hnone : ¬ Condition.NestsWithin Condition.maxNesting text) :
    evaluate (some "custom") (some text) value = .ok false := by
  obtain ⟨e, hread⟩ := Condition.exists_error_of_not_nestsWithin hnone
  rcases value.isScalar_or_exists_list with hscalar | ⟨items, rfl⟩
  · have hreach : reach .custom (some text) value = .error (.condition e) := by
      rw [reach, custom_of_isScalar _ hscalar, Condition.holds_of_unread hread]
      rfl
    exact evaluate_of_mild_error rfl hreach rfl
  · cases items with
    | nil => rfl
    | cons item items =>
        have hreach :
            reach .custom (some text) (.list (item :: items)) = .error (.condition e) := by
          rw [reach, custom, customAll, Condition.holds_of_unread hread]
          rfl
        exact evaluate_of_mild_error rfl hreach rfl

theorem evaluate_range_of_unread {e : BoundsError} (hread : Bounds.ofText text = .error e) :
    evaluate (some "range") (some text) value = .ok false := by
  have hreach : reach .range (some text) value = .error (.bounds e) := by
    rw [reach, Option.getD_some, hread]
    rfl
  exact evaluate_of_mild_error rfl hreach rfl

theorem evaluate_format_of_unread {e : Pattern.Error} (hread : Pattern.ofText text = .error e)
    (he : e ≠ .tooManyRepeats) : evaluate (some "format") (some text) value = .ok false := by
  have hreach : reach .format (some text) value = .error (.pattern e) := by
    rw [reach, Option.getD_some, hread]
    rfl
  exact evaluate_of_mild_error rfl hreach (pattern_isFatal he)

theorem evaluate_range_signalingNaN (text : String) (negative : Bool) (payload : List Char) :
    evaluate (some "range") (some text) (.decimal (.nan negative true payload)) = .ok false := by
  cases hread : Bounds.ofText text with
  | error e => exact evaluate_range_of_unread hread
  | ok bounds =>
      have hreach : reach .range (some text) (.decimal (.nan negative true payload)) =
          .error (.cell .signalingNaN) := by
        rw [reach, Option.getD_some, hread]
        rfl
      exact evaluate_of_mild_error rfl hreach rfl

theorem evaluate_range_of_signalingNaN (hflat : value.IsFlat)
    (hfits : ∀ cell ∈ value.cells, cell.FitsDouble) {negative : Bool} {payload : List Char}
    (hmem : .decimal (.nan negative true payload) ∈ value.cells) :
    evaluate (some "range") (some text) value = .ok false := by
  have hne : value ≠ .list [] := by
    rintro rfl
    cases hmem
  rw [evaluate_of_isFlat _ _ hflat hne]
  apply inTurn_of_failure
  · intro cell hcell
    apply exists_evaluate_of_isScalar _ (hflat cell hcell) (hfits cell hcell)
    intro htype
    exact absurd htype (by decide)
  · exact ⟨_, hmem, evaluate_range_signalingNaN text negative payload⟩

end Verdicts

/-! ## Main statement -/

/-- A rule of any type reaches a verdict on every scalar cell and every list of scalar cells without
a whole number beyond the range of a double, unless its pattern asks for too many repetitions.  The
value fails if the condition is not derived by the grammar within the levels of nesting, gives no
bounds or is no pattern, and fails a range if it has a signaling NaN. -/
theorem evaluate_ordinary (type text : String) {value : Cell} (hflat : value.IsFlat)
    (hfits : ∀ cell ∈ value.cells, cell.FitsDouble)
    (hpattern : type = "format" →
      ∀ e, Pattern.ofText text = .error e → e = .invalid ∨ e = .tooDeep) :
    (∃ passed, evaluate (some type) (some text) value = .ok passed) ∧
    (type = "custom" → ¬ Condition.NestsWithin Condition.maxNesting text →
      evaluate (some type) (some text) value = .ok false) ∧
    (type = "range" → (∃ e, Bounds.ofText text = .error e) →
      evaluate (some type) (some text) value = .ok false) ∧
    (type = "format" → (∃ e, Pattern.ofText text = .error e) →
      evaluate (some type) (some text) value = .ok false) ∧
    (type = "range" → (∃ negative payload, .decimal (.nan negative true payload) ∈ value.cells) →
      evaluate (some type) (some text) value = .ok false) := by
  have hcounts : type = "format" → ∀ e, Pattern.ofText text = .error e → e ≠ .tooManyRepeats := by
    rintro htype e hread rfl
    rcases hpattern htype _ hread with hinvalid | hdeep
    · cases hinvalid
    · cases hdeep
  refine ⟨exists_evaluate_of_isFlat hcounts hflat hfits, ?_, ?_, ?_, ?_⟩
  · rintro rfl hnone
    exact evaluate_custom_of_unread hnone
  · rintro rfl ⟨e, hread⟩
    exact evaluate_range_of_unread hread
  · rintro rfl ⟨e, hread⟩
    exact evaluate_format_of_unread hread (hcounts rfl e hread)
  · rintro rfl ⟨negative, payload, hmem⟩
    exact evaluate_range_of_signalingNaN hflat hfits hmem

theorem evaluate_ordinary_signalingNaN :
    let value : Cell := .list [.int 5, .decimal (.nan false true ['7']), .text "none"]
    value.IsFlat ∧ (∀ cell ∈ value.cells, cell.FitsDouble) ∧
      evaluate (some "range") (some "max:9") value = .ok false := by
  intro value
  have hflat : value.IsFlat := by
    simp [value, Cell.IsFlat, Cell.cells, Cell.IsScalar]
  have hfive : (Number.ofInt 5).isInfinite = false := by decide +kernel
  have hfits : ∀ cell ∈ value.cells, cell.FitsDouble := by
    simp [value, Cell.cells, Cell.FitsDouble, hfive]
  have hpattern : "range" = "format" →
      ∀ e, Pattern.ofText "max:9" = .error e → e = .invalid ∨ e = .tooDeep := by
    intro htype
    exact absurd htype (by decide)
  refine ⟨hflat, hfits, ?_⟩
  apply (evaluate_ordinary "range" "max:9" hflat hfits hpattern).2.2.2.2 rfl
  exact ⟨false, ['7'], by simp [value, Cell.cells]⟩

end Verdict

end SheetAudit
