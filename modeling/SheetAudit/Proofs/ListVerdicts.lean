import SheetAudit.Proofs.Outcome
import SheetAudit.Proofs.RangeBounds
import SheetAudit.Rule.Verdict

/-!
# Verdicts on lists

A list that is not empty is judged as its cells are, one after the other: the first cell that does
not satisfy the condition settles the verdict, whether it fails or is an error.  This holds of every
type of rule, because an error that counts as a failure of one cell counts as a failure of the list.
-/

namespace SheetAudit

open Outcome

namespace Cell

/-- The cells of a value: the items of a list, and a value that is no list itself. -/
def cells : Cell → List Cell
  | .list items => items
  | cell => [cell]

/-- A value is a scalar cell or a list of scalar cells. -/
def IsFlat (value : Cell) : Prop := ∀ cell ∈ value.cells, cell.IsScalar

theorem cells_of_isScalar {cell : Cell} (hscalar : cell.IsScalar) : cell.cells = [cell] := by
  cases cell with
  | list items => exact absurd rfl (hscalar items)
  | _ => rfl

theorem isScalar_or_exists_list (value : Cell) :
    value.IsScalar ∨ ∃ items, value = .list items := by
  cases value with
  | list items => exact .inr ⟨items, rfl⟩
  | _ => exact .inl fun _ => Cell.noConfusion

end Cell

namespace Verdict

/-! ## Judging in turn -/

section InTurn

variable {α β ε δ : Type} {judge judge' : α → Except ε Bool} {a : α} {as before after : List α}

/-- Judge the items of a list in turn, up to the first that does not pass. -/
def inTurn (judge : α → Except ε Bool) : List α → Except ε Bool
  | [] => pure true
  | a :: as => do
    let passed ← judge a
    if passed then inTurn judge as else pure false

theorem inTurn_cons_of_pass (hpass : judge a = .ok true) :
    inTurn judge (a :: as) = inTurn judge as := by
  rw [inTurn, hpass]
  rfl

theorem inTurn_cons_of_not_pass (hstop : judge a ≠ .ok true) :
    inTurn judge (a :: as) = judge a := by
  rw [inTurn]
  cases hjudge : judge a with
  | error e => rfl
  | ok passed =>
      cases passed with
      | false => rfl
      | true => exact absurd hjudge hstop

theorem inTurn_singleton (judge : α → Except ε Bool) (a : α) : inTurn judge [a] = judge a := by
  by_cases hpass : judge a = .ok true
  · rw [inTurn_cons_of_pass hpass, hpass]
    rfl
  · exact inTurn_cons_of_not_pass hpass

/-- The first item that does not pass settles the whole list. -/
theorem inTurn_of_first (hpass : ∀ a ∈ before, judge a = .ok true) (hstop : judge a ≠ .ok true) :
    inTurn judge (before ++ a :: after) = judge a := by
  induction before with
  | nil => exact inTurn_cons_of_not_pass hstop
  | cons first before ih =>
      rw [List.forall_mem_cons] at hpass
      rw [List.cons_append, inTurn_cons_of_pass hpass.1, ih hpass.2]

theorem exists_inTurn (hjudge : ∀ a ∈ as, ∃ passed, judge a = .ok passed) :
    ∃ passed, inTurn judge as = .ok passed := by
  induction as with
  | nil => exact ⟨true, rfl⟩
  | cons a as ih =>
      rw [List.forall_mem_cons] at hjudge
      obtain ⟨passed, hpassed⟩ := hjudge.1
      cases passed with
      | true =>
          rw [inTurn_cons_of_pass hpassed]
          exact ih hjudge.2
      | false =>
          rw [inTurn_cons_of_not_pass (by simp [hpassed]), hpassed]
          exact ⟨false, rfl⟩

theorem inTurn_eq_ok_true_iff : inTurn judge as = .ok true ↔ ∀ a ∈ as, judge a = .ok true := by
  induction as with
  | nil => simp [inTurn]
  | cons a as ih =>
      rw [List.forall_mem_cons, ← ih]
      by_cases hpass : judge a = .ok true
      · rw [inTurn_cons_of_pass hpass]
        simp [hpass]
      · rw [inTurn_cons_of_not_pass hpass]
        simp [hpass]

/-- Without errors, one item that fails is enough to fail the list. -/
theorem inTurn_of_failure (hjudge : ∀ a ∈ as, ∃ passed, judge a = .ok passed)
    (hfails : ∃ a ∈ as, judge a = .ok false) : inTurn judge as = .ok false := by
  obtain ⟨a, ha, hfails⟩ := hfails
  obtain ⟨passed, hpassed⟩ := exists_inTurn hjudge
  cases passed with
  | false => exact hpassed
  | true =>
      have hpass := inTurn_eq_ok_true_iff.mp hpassed a ha
      rw [hfails] at hpass
      cases hpass

theorem inTurn_congr (hjudge : ∀ a ∈ as, judge a = judge' a) :
    inTurn judge as = inTurn judge' as := by
  induction as with
  | nil => rfl
  | cons a as ih =>
      rw [List.forall_mem_cons] at hjudge
      rw [inTurn, inTurn, hjudge.1, ih hjudge.2]

theorem inTurn_ok (passes : α → Bool) (as : List α) :
    inTurn (fun a => (.ok (passes a) : Except ε Bool)) as = .ok (as.all passes) := by
  induction as with
  | nil => rfl
  | cons a as ih =>
      rw [inTurn, ih, List.all_cons]
      cases passes a <;> rfl

theorem mapError_inTurn (rename : ε → δ) (as : List α) :
    (inTurn judge as).mapError rename = inTurn (fun a => (judge a).mapError rename) as := by
  induction as with
  | nil => rfl
  | cons a as ih =>
      rw [inTurn, inTurn, ← ih]
      cases judge a with
      | error e => rfl
      | ok passed => cases passed <;> rfl

/-- What is prepared once for a list may as well be prepared for every item. -/
theorem bind_inTurn (outcome : Except ε β) (judge : β → α → Except ε Bool) (hne : as ≠ []) :
    (outcome >>= fun b => inTurn (judge b) as) =
      inTurn (fun a => outcome >>= fun b => judge b a) as := by
  obtain ⟨first, others, rfl⟩ := List.exists_cons_of_ne_nil hne
  cases outcome with
  | error e => rfl
  | ok b => rfl

end InTurn

/-! ## One type of rule -/

section Kinds

variable {items : List Cell}

theorem required_of_isScalar (condition : Option String) {value : Cell} (hvalue : value.IsScalar) :
    required condition value =
      (Text.trim (condition.getD "") == notEmpty && !value.isEmpty) := by
  cases value with
  | list items => exact absurd rfl (hvalue items)
  | _ => rfl

theorem required_list (condition : Option String) (hne : items ≠ [])
    (hscalar : ∀ item ∈ items, item.IsScalar) :
    required condition (.list items) = items.all (required condition) := by
  have hitems : (∀ item ∈ items, required condition item = true) ↔
      ∀ item ∈ items, (Text.trim (condition.getD "") == notEmpty && !item.isEmpty) = true := by
    apply forall₂_congr
    intro item hitem
    rw [required_of_isScalar condition (hscalar item hitem)]
  obtain ⟨first, others, rfl⟩ := List.exists_cons_of_ne_nil hne
  rw [Bool.eq_iff_iff, List.all_eq_true, hitems, required]
  cases Text.trim (condition.getD "") == notEmpty with
  | false =>
      simp only [Bool.false_and]
      exact iff_of_false Bool.false_ne_true fun hall =>
        Bool.false_ne_true (hall first List.mem_cons_self)
  | true => simp

theorem formatAll_eq_inTurn (pattern : Pattern.Node) (items : List Cell) :
    formatAll pattern items = inTurn (format pattern) items := by
  induction items with
  | nil => rfl
  | cons item items ih => rw [formatAll, inTurn, ih]

theorem rangeAll_eq_inTurn (bounds : Bounds) (items : List Cell) :
    rangeAll bounds items = inTurn (range bounds) items := by
  induction items with
  | nil => rfl
  | cons item items ih => rw [rangeAll, inTurn, ih]

theorem customAll_eq_inTurn (condition : Option String) (items : List Cell) :
    customAll condition items = inTurn (Condition.holds condition) items := by
  induction items with
  | nil => rfl
  | cons item items ih => rw [customAll, inTurn, ih]

theorem custom_of_isScalar (condition : Option String) {value : Cell} (hvalue : value.IsScalar) :
    custom condition value = Condition.holds condition value := by
  cases value with
  | list items => exact absurd rfl (hvalue items)
  | _ => rfl

/-- A list is judged by a rule of one type as its cells are, errors included. -/
theorem reach_list (type : RuleType) (condition : Option String) (hne : items ≠ [])
    (hscalar : ∀ item ∈ items, item.IsScalar) :
    reach type condition (.list items) = inTurn (reach type condition) items := by
  have hsome : items.isEmpty = false := List.isEmpty_eq_false_iff.mpr hne
  cases type with
  | required =>
      rw [reach, required_list condition hne hscalar]
      exact (inTurn_ok (required condition) items).symm
  | format =>
      simp only [reach, format, hsome, Bool.false_eq_true, if_false, formatAll_eq_inTurn,
        mapError_inTurn]
      exact bind_inTurn _ _ hne
  | range =>
      simp only [reach, range, hsome, Bool.false_eq_true, if_false, rangeAll_eq_inTurn,
        mapError_inTurn]
      exact bind_inTurn _ _ hne
  | custom =>
      simp only [reach, custom, hsome, Bool.false_eq_true, if_false, customAll_eq_inTurn,
        mapError_inTurn]
      apply inTurn_congr
      intro item hitem
      rw [reach, custom_of_isScalar condition (hscalar item hitem)]

end Kinds

/-! ## All types of rules -/

/-- An error that is not fatal counts as a failure. -/
def settled : Except VerdictError Bool → Except VerdictError Bool
  | .ok passed => .ok passed
  | .error e => if e.isFatal then .error e else .ok false

theorem evaluate_of_type {type condition : Option String} {kind : RuleType}
    (htype : type.bind RuleType.ofText? = some kind) (value : Cell) :
    evaluate type condition value = settled (reach kind condition value) := by
  unfold evaluate
  rw [htype]
  rfl

theorem evaluate_of_no_type {type condition : Option String}
    (htype : type.bind RuleType.ofText? = none) (value : Cell) :
    evaluate type condition value = .ok false := by
  unfold evaluate
  rw [htype]
  rfl

theorem settled_inTurn {α : Type} (judge : α → Except VerdictError Bool) (as : List α) :
    settled (inTurn judge as) = inTurn (fun a => settled (judge a)) as := by
  induction as with
  | nil => rfl
  | cons a as ih =>
      rw [inTurn, inTurn, ← ih]
      cases judge a with
      | ok passed => cases passed <;> rfl
      | error e => cases hfatal : e.isFatal <;> simp [settled, hfatal]

variable {type condition : Option String} {items : List Cell}

/-- A list that is not empty is judged as its cells are in turn. -/
theorem evaluate_list (type condition : Option String) (hne : items ≠ [])
    (hscalar : ∀ item ∈ items, item.IsScalar) :
    evaluate type condition (.list items) = inTurn (evaluate type condition) items := by
  cases htype : type.bind RuleType.ofText? with
  | none =>
      obtain ⟨first, others, rfl⟩ := List.exists_cons_of_ne_nil hne
      have hfirst : evaluate type condition first = .ok false := evaluate_of_no_type htype first
      rw [evaluate_of_no_type htype, inTurn_cons_of_not_pass (by rw [hfirst]; simp), hfirst]
  | some kind =>
      rw [evaluate_of_type htype, reach_list kind condition hne hscalar, settled_inTurn]
      apply inTurn_congr
      intro item _
      rw [evaluate_of_type htype]

/-- A value is judged as its cells are in turn, unless it is the empty list. -/
theorem evaluate_of_isFlat (type condition : Option String) {value : Cell} (hflat : value.IsFlat)
    (hne : value ≠ .list []) :
    evaluate type condition value = inTurn (evaluate type condition) value.cells := by
  rcases value.isScalar_or_exists_list with hscalar | ⟨items, rfl⟩
  · rw [Cell.cells_of_isScalar hscalar, inTurn_singleton]
  · apply evaluate_list type condition _ hflat
    rintro rfl
    exact hne rfl

/-! ## The empty list -/

/-- A rule asks for a pattern, and what is wrong with that pattern is more than a failure. -/
structure PatternFault (type condition : Option String) (e : Pattern.Error) : Prop where
  type_eq : type = some "format"
  unread : Pattern.ofText (condition.getD "") = .error e
  isFatal : (VerdictError.pattern e).isFatal = true

theorem evaluate_nil_of_fault {e : Pattern.Error} (hfault : PatternFault type condition e) :
    evaluate type condition (.list []) = .error (.pattern e) := by
  obtain ⟨rfl, hunread, hfatal⟩ := hfault
  have htype : (some "format").bind RuleType.ofText? = some .format := rfl
  rw [evaluate_of_type htype, reach, hunread]
  exact if_pos hfatal

theorem evaluate_nil_of_no_fault (hfault : ¬ ∃ e, PatternFault type condition e) :
    evaluate type condition (.list []) = .ok false := by
  cases htype : type.bind RuleType.ofText? with
  | none => exact evaluate_of_no_type htype _
  | some kind =>
      rw [evaluate_of_type htype]
      cases kind with
      | required => simp [reach, required, settled]
      | custom => rfl
      | range =>
          rw [reach]
          cases Bounds.ofText (condition.getD "") <;> rfl
      | format =>
          rw [reach]
          cases hpattern : Pattern.ofText (condition.getD "") with
          | ok pattern => rfl
          | error e =>
              have hmild : (VerdictError.pattern e).isFatal ≠ true := fun hfatal =>
                hfault ⟨e, RuleType.bind_ofText?_eq_some_iff.mp htype, hpattern, hfatal⟩
              exact if_neg hmild

/-- A value passes if it is not the empty list and all of its cells pass. -/
theorem evaluate_flat_eq_ok_true_iff {value : Cell} (hflat : value.IsFlat) :
    evaluate type condition value = .ok true ↔
      value ≠ .list [] ∧ ∀ cell ∈ value.cells, evaluate type condition cell = .ok true := by
  by_cases hnil : value = .list []
  · subst hnil
    refine iff_of_false ?_ fun hpass => hpass.1 rfl
    by_cases hfault : ∃ e, PatternFault type condition e
    · obtain ⟨e, hfault⟩ := hfault
      simp [evaluate_nil_of_fault hfault]
    · simp [evaluate_nil_of_no_fault hfault]
  · rw [evaluate_of_isFlat type condition hflat hnil, inTurn_eq_ok_true_iff]
    simp [hnil]

/-! ## Main statement -/

/-- Every rule judges a list of cells from left to right.  If all cells satisfy the condition, so
does the list, and otherwise the first cell that does not settles the verdict: it fails the list, or
its error is the error of the list.  The empty list fails, unless the pattern of the rule is at
fault. -/
theorem evaluate_list_in_turn (type condition : Option String) :
    (∀ items : List Cell, items ≠ [] → (∀ item ∈ items, item.IsScalar) →
      ((∀ item ∈ items, evaluate type condition item = .ok true) →
        evaluate type condition (.list items) = .ok true) ∧
      (∀ before item after, items = before ++ item :: after →
        (∀ earlier ∈ before, evaluate type condition earlier = .ok true) →
        evaluate type condition item ≠ .ok true →
        evaluate type condition (.list items) = evaluate type condition item)) ∧
    (∀ e, PatternFault type condition e →
      evaluate type condition (.list []) = .error (.pattern e)) ∧
    ((¬ ∃ e, PatternFault type condition e) →
      evaluate type condition (.list []) = .ok false) := by
  refine ⟨?_, fun e => evaluate_nil_of_fault, evaluate_nil_of_no_fault⟩
  intro items hne hscalar
  rw [evaluate_list type condition hne hscalar]
  constructor
  · exact inTurn_eq_ok_true_iff.mpr
  · rintro before item after rfl hpass hstop
    exact inTurn_of_first hpass hstop

theorem evaluate_list_in_turn_large_number :
    let items : List Cell := [.int 5, .int (tenPow 400), .text "none"]
    (∀ item ∈ items, item.IsScalar) ∧
      evaluate (some "range") (some "min:1") (.int (tenPow 400)) = .error (.cell .intTooLarge) ∧
      evaluate (some "range") (some "min:1") (.list items) = .error (.cell .intTooLarge) := by
  intro items
  have hscalar : ∀ item ∈ items, item.IsScalar := by
    simp [items, Cell.IsScalar]
  have hlarge : evaluate (some "range") (some "min:1") (.int (tenPow 400)) =
      .error (.cell .intTooLarge) := by
    decide +kernel
  refine ⟨hscalar, hlarge, ?_⟩
  rw [← hlarge]
  obtain ⟨-, hfirst⟩ := (evaluate_list_in_turn (some "range") (some "min:1")).1 items
    (by simp [items]) hscalar
  apply hfirst [.int 5] (.int (tenPow 400)) [.text "none"] rfl
  · decide +kernel
  · rw [hlarge]
    simp

end Verdict

end SheetAudit
