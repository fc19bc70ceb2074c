import SheetAudit.Proofs.CellTexts
import SheetAudit.Proofs.ConditionTruth
import SheetAudit.Proofs.ListVerdicts

/-!
# Typed cells judged as their texts

A typed cell is compared with other operands as its text is.  Only an operand that stands alone is
looked at more closely: zero and the truth value for false count as false there, and their texts as
true.  So a condition may give such a cell another verdict than its text, but only if its value
depends on how the operands that stand alone are read.  All other rules judge a typed cell and its
text alike.
-/

namespace SheetAudit

open Outcome

/-! ## Typed cells in conditions -/

/-- The typed cells that count as false where they stand alone. -/
def Cell.IsFalse (cell : Cell) : Prop := cell = .bool false ∨ cell = .int 0

namespace Cell.IsTyped

variable {cell : Cell} {s : String}

theorem text_alike (htyped : cell.IsTyped) (hshown : cell.shown = .ok s) :
    (Cell.text s).Alike cell where
  shown := hshown.symm
  number := (htyped.number_eq hshown).symm
  isEmpty := by
    rw [htyped.isEmpty_eq_false, isEmpty, normalized_text (htyped.text_ne_empty hshown)]
  empty_iff := by cases htyped <;> simp

theorem isScalar (htyped : cell.IsTyped) : cell.IsScalar := by
  rintro items rfl
  cases htyped

theorem readable (htyped : cell.IsTyped) : Condition.Readable cell.normalized := by
  obtain ⟨s, hshown, -, hnumber⟩ := htyped.exists_text
  rw [htyped.normalized_eq]
  exact ⟨⟨s, hshown⟩, _, hnumber⟩

theorem isTrue_of_isFalse (hfalse : cell.IsFalse) : Condition.isTrue cell = .ok false := by
  rcases hfalse with rfl | rfl
  · rfl
  · decide +kernel

theorem isTrue_of_not_isFalse (htyped : cell.IsTyped) (hfalse : ¬ cell.IsFalse) :
    Condition.isTrue cell = .ok true := by
  have hshows : ∀ {s : String}, s ≠ "" → (.ok (!s.isEmpty) : Except CellError Bool) = .ok true := by
    intro s hne
    simp [hne]
  cases htyped with
  | bool truth =>
      cases truth with
      | false => exact absurd (.inl rfl) hfalse
      | true => rfl
  | @int n hfinite =>
      have hne : n ≠ 0 := by
        rintro rfl
        exact hfalse (.inr rfl)
      have hnumber : (Cell.int n).number = .ok (some (Number.ofInt n)) := by
        rw [Cell.number, hfinite]
        rfl
      have hzero : (Number.ofInt n).isZero = false := by simpa [Number.isZero_ofInt] using hne
      simp only [Condition.isTrue, hnumber, ok_bind, hzero]
      rfl
  | date d => exact hshows ((date d).text_ne_empty rfl)
  | dateTime t => exact hshows ((dateTime t).text_ne_empty rfl)
  | clock t => exact hshows ((clock t).text_ne_empty rfl)
  | duration d => exact hshows ((duration d).text_ne_empty rfl)

theorem isTrue_text (htyped : cell.IsTyped) (hshown : cell.shown = .ok s) :
    Condition.isTrue (Cell.text s).normalized = .ok true := by
  have hne := htyped.text_ne_empty hshown
  rw [Cell.normalized_text hne, Condition.isTrue]
  simp [hne]

/-- A condition holds of the text of a typed cell as it holds of the cell with every operand that
stands alone taken as true. -/
theorem holds_text (htyped : cell.IsTyped) (hshown : cell.shown = .ok s) (tree : Condition.Tree) :
    tree.holds (.text s) = (tree.withBare true).holds cell := by
  apply Condition.Tree.holds_withBare _ (htyped.isTrue_text hshown)
  rw [Cell.normalized_text (htyped.text_ne_empty hshown), htyped.normalized_eq]
  exact htyped.text_alike hshown

theorem holds_eq_holds_text_iff (htyped : cell.IsTyped) (hshown : cell.shown = .ok s)
    (tree : Condition.Tree) :
    tree.holds cell = tree.holds (.text s) ↔
      (cell.IsFalse → (tree.withBare false).holds cell = (tree.withBare true).holds cell) := by
  have hself {truth : Bool} (htruth : Condition.isTrue cell = .ok truth) :
      tree.holds cell = (tree.withBare truth).holds cell :=
    Condition.Tree.holds_withBare (.refl _) (by rwa [htyped.normalized_eq]) tree
  rw [htyped.holds_text hshown]
  by_cases hfalse : cell.IsFalse
  · rw [hself (isTrue_of_isFalse hfalse)]
    simp only [hfalse, true_imp_iff]
  · rw [hself (htyped.isTrue_of_not_isFalse hfalse)]
    simp only [hfalse, false_imp_iff]

end Cell.IsTyped

/-! ## Verdicts -/

namespace Verdict

variable {cell : Cell} {s : String}

theorem evaluate_congr {type condition : Option String} {value value' : Cell}
    (hreach : ∀ type', type.bind RuleType.ofText? = some type' →
      reach type' condition value = reach type' condition value') :
    evaluate type condition value = evaluate type condition value' := by
  unfold evaluate
  cases htype : type.bind RuleType.ofText? with
  | none => rfl
  | some type' => simp only [hreach type' htype]

theorem eq_custom_of_ofText? {type : Option String}
    (htype : type.bind RuleType.ofText? = some .custom) : type = some "custom" :=
  RuleType.bind_ofText?_eq_some_iff.mp htype

theorem required_text (htyped : cell.IsTyped) (hshown : cell.shown = .ok s)
    (condition : Option String) : required condition cell = required condition (.text s) := by
  rw [required_of_isScalar condition htyped.isScalar, ← (htyped.text_alike hshown).isEmpty]
  rfl

theorem format_text (htyped : cell.IsTyped) (hshown : cell.shown = .ok s)
    (pattern : Pattern.Node) : format pattern cell = format pattern (.text s) := by
  have hpattern : format pattern cell = cell.shown >>= fun shown =>
      pure (pattern.found shown.toList) := by
    cases htyped <;> rfl
  rw [hpattern, hshown]
  rfl

theorem range_text (htyped : cell.IsTyped) (hshown : cell.shown = .ok s) (bounds : Bounds) :
    range bounds cell = range bounds (.text s) := by
  rw [range_of_isScalar bounds htyped.isScalar, htyped.number_eq hshown]
  rfl

theorem custom_of_isTyped (htyped : cell.IsTyped) (condition : Option String) :
    custom condition cell = Condition.holds condition cell :=
  custom_of_isScalar condition htyped.isScalar

theorem custom_text (htyped : cell.IsTyped) {condition : Option String}
    (hholds : ∀ text tree, condition = some text → Condition.Tree.ofText text = .ok tree →
      tree.holds cell = tree.holds (.text s)) :
    custom condition cell = custom condition (.text s) := by
  rw [custom_of_isTyped htyped]
  cases condition with
  | none => rfl
  | some text =>
      change Condition.holds (some text) cell = Condition.holds (some text) (.text s)
      cases hread : Condition.Tree.ofText text with
      | error e => rw [Condition.holds_of_unread hread, Condition.holds_of_unread hread]
      | ok tree =>
          rw [Condition.holds_of_ofText hread, Condition.holds_of_ofText hread,
            hholds text tree rfl hread]

theorem evaluate_custom {value : Cell} {text : String} {tree : Condition.Tree} {truth : Bool}
    (hscalar : custom (some text) value = Condition.holds (some text) value)
    (hread : Condition.Tree.ofText text = .ok tree) (hholds : tree.holds value = .ok truth) :
    evaluate (some "custom") (some text) value = .ok truth := by
  have hreach : reach .custom (some text) value = .ok truth := by
    rw [reach, hscalar, Condition.holds_of_ofText hread, hholds]
    rfl
  have htype : RuleType.ofText? "custom" = some .custom := rfl
  unfold evaluate
  simp only [Option.bind_some, htype, hreach]
  rfl

/-- A rule judges a typed cell as it judges the text of the cell, unless it is a custom rule, the
cell is zero or the truth value for false, and the condition of the rule has another value if the
operands that stand alone are taken as true instead of false. -/
theorem evaluate_text_iff (htyped : cell.IsTyped) :
    ∃ s, cell.shown = .ok s ∧ ∀ type condition : Option String,
      (evaluate type condition cell = evaluate type condition (.text s) ↔
        (type = some "custom" → cell.IsFalse → ∀ text tree, condition = some text →
          Condition.Tree.ofText text = .ok tree →
          (tree.withBare false).holds cell = (tree.withBare true).holds cell)) := by
  obtain ⟨s, hshown, hne, -⟩ := htyped.exists_text
  refine ⟨s, hshown, fun type condition => ⟨?_, ?_⟩⟩
  · rintro hsame rfl hfalse text tree rfl hread
    obtain ⟨truth, htruth⟩ := Condition.exists_holds_of_ofText htyped.readable hread
    have hreadable : Condition.Readable (Cell.text s).normalized := by
      rw [Cell.normalized_text hne]
      exact ⟨⟨s, rfl⟩, _, rfl⟩
    obtain ⟨truth', htruth'⟩ := Condition.exists_holds_of_ofText hreadable hread
    rw [evaluate_custom (custom_of_isTyped htyped _) hread htruth,
      evaluate_custom rfl hread htruth'] at hsame
    apply (htyped.holds_eq_holds_text_iff hshown tree).mp _ hfalse
    rw [htruth, htruth', Except.ok.inj hsame]
  · intro hbare
    apply evaluate_congr
    intro type' htype
    cases type' with
    | required => rw [reach, reach, required_text htyped hshown]
    | format => simp only [reach, format_text htyped hshown]
    | range => simp only [reach, range_text htyped hshown]
    | custom =>
        have hcustom := eq_custom_of_ofText? htype
        rw [reach, reach, custom_text htyped]
        intro text tree hcondition hread
        apply (htyped.holds_eq_holds_text_iff hshown tree).mpr
        intro hfalse
        exact hbare hcustom hfalse text tree hcondition hread

theorem evaluate_text_zero :
    let condition := "value = 0 OR NOT value > 1 AND value"
    (Cell.int 0).IsTyped ∧ (Cell.int 0).shown = .ok "0" ∧
      evaluate (some "custom") (some condition) (.int 0) =
        evaluate (some "custom") (some condition) (.text "0") := by
  intro condition
  have htyped : (Cell.int 0).IsTyped := .int (by decide +kernel)
  have hzero : (Cell.int 0).shown = .ok "0" := by decide +kernel
  obtain ⟨s, hshown, hsame⟩ := evaluate_text_iff htyped
  obtain rfl : s = "0" := Except.ok.inj (hshown.symm.trans hzero)
  refine ⟨htyped, hzero, (hsame (some "custom") (some condition)).mpr ?_⟩
  rintro - - text tree ⟨⟩ hread
  have hbare : (Condition.Tree.ofText condition).map (fun tree =>
      decide ((tree.withBare false).holds (.int 0) = (tree.withBare true).holds (.int 0))) =
        .ok true := by
    decide +kernel
  rw [hread] at hbare
  exact of_decide_eq_true (Except.ok.inj hbare)

/-- The truth value for false and the number zero fail a condition that asks for a value, and their
texts satisfy it. -/
theorem evaluate_text_differs :
    (Cell.bool false).shown = .ok "false" ∧ (Cell.int 0).shown = .ok "0" ∧
    evaluate (some "custom") (some "value") (.bool false) = .ok false ∧
    evaluate (some "custom") (some "value") (.text "false") = .ok true ∧
    evaluate (some "custom") (some "value") (.int 0) = .ok false ∧
    evaluate (some "custom") (some "value") (.text "0") = .ok true := by
  decide +kernel

end Verdict

end SheetAudit
