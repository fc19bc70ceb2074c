import SheetAudit.Proofs.ConditionTokens
import SheetAudit.Proofs.ConditionTruth

/-!
# Conditions put together

Two conditions in brackets with a connective between them are a condition, and so is the negation
of a condition in brackets.  It holds of a value if the parts do as the connective says, and the
second part is tried only if the first does not settle the whole: an error of a part is an error of
the whole if and only if that part is tried.
-/

namespace SheetAudit.Condition

open Outcome Text

/-- A text is a condition whose tokens lie in at most so many brackets and negations. -/
def NestsWithin (levels : Nat) (condition : String) : Prop :=
  ∃ phrase : Derivation .disjunction, tokens condition = .ok phrase.tokens ∧
    ∀ depth ∈ phrase.depths 0, depth ≤ levels

theorem NestsWithin.mono {few many : Nat} {condition : String} (hle : few ≤ many) :
    NestsWithin few condition → NestsWithin many condition := by
  rintro ⟨phrase, htokens, hdepths⟩
  exact ⟨phrase, htokens, fun depth hdepth => (hdepths depth hdepth).trans hle⟩

/-! ## Phrases put together -/

namespace Derivation

/-- A phrase in brackets. -/
def bracketed (phrase : Derivation .disjunction) : Derivation .negation :=
  .primary (.brackets phrase)

/-- Two phrases in brackets, both of which are to hold. -/
def bothOf (left right : Derivation .disjunction) : Derivation .disjunction :=
  .lastDisjunct (.and left.bracketed (.lastConjunct right.bracketed))

/-- Two phrases in brackets, one of which is to hold. -/
def eitherOf (left right : Derivation .disjunction) : Derivation .disjunction :=
  .or (.lastConjunct left.bracketed) (.lastDisjunct (.lastConjunct right.bracketed))

/-- A phrase in brackets that is not to hold. -/
def negated (phrase : Derivation .disjunction) : Derivation .disjunction :=
  .lastDisjunct (.lastConjunct (.not phrase.bracketed))

variable (left right phrase : Derivation .disjunction)

theorem bothOf_tokens :
    (bothOf left right).tokens =
      (.opening :: left.tokens ++ [.closing]) ++ .and :: (.opening :: right.tokens ++ [.closing]) :=
  rfl

theorem eitherOf_tokens :
    (eitherOf left right).tokens =
      (.opening :: left.tokens ++ [.closing]) ++ .or :: (.opening :: right.tokens ++ [.closing]) :=
  rfl

theorem tree_bothOf : (bothOf left right).tree = .all [left.tree, right.tree] := rfl

theorem tree_eitherOf : (eitherOf left right).tree = .any [left.tree, right.tree] := rfl

theorem tree_negated : phrase.negated.tree = .not phrase.tree := rfl

theorem nesting_bothOf :
    (bothOf left right).nesting = max (left.nesting + 1) (right.nesting + 1) := rfl

theorem nesting_eitherOf :
    (eitherOf left right).nesting = max (left.nesting + 1) (right.nesting + 1) := rfl

theorem nesting_negated : phrase.negated.nesting = phrase.nesting + 2 := rfl

end Derivation

/-! ## Texts put together -/

theorem tokens_of_closed {condition : String} {cs : List Char} {found : List Token}
    (hclosed : condition.toList = cs ++ [')']) (hallowed : cs.all isAllowed = true)
    (hfound : tokensFrom 0 0 0 (cs ++ [')']) = .ok found) : tokens condition = .ok found := by
  have hall : (cs ++ [')']).all isAllowed = true := by
    rw [List.all_append, hallowed]
    rfl
  have hend : dropBlankEnd (cs ++ [')']) = cs ++ [')'] :=
    List.rdropWhile_concat_neg isBlank cs ')' (by decide)
  rw [tokens, hclosed, if_pos hall, hend, hfound]

section Texts

variable {a b condition : String} {found others : List Token} {word : List Char}

theorem endsTokens_opening (cs : List Char) : EndsTokens ('(' :: cs) := by
  intro c hc
  cases hc
  rfl

/-- The tokens of a condition in brackets after some word. -/
theorem tokens_bracketed {before : List Token}
    (hcondition : condition.toList = word ++ '(' :: (a.toList ++ [')']))
    (hallowed : word.all isAllowed = true) (hword : tokensFrom 0 0 0 word = .ok before)
    (ha : tokens a = .ok found) :
    tokens condition = .ok (before ++ .opening :: (found ++ [.closing])) := by
  obtain ⟨hallowedA, hcutA⟩ := tokensFrom_of_tokens ha
  have hcut : tokensFrom 0 0 0 ('(' :: (a.toList ++ [')'])) =
      .ok (.opening :: (found ++ [.closing])) := tokensFrom_brackets hcutA rfl
  have hwhole := tokensFrom_append hword (Nat.zero_le _) (endsTokens_opening _) hcut
  have hclosed : condition.toList = (word ++ '(' :: a.toList) ++ [')'] := by
    rw [hcondition, List.append_assoc, List.cons_append]
  apply tokens_of_closed hclosed
  · simp only [List.all_append, List.all_cons, hallowed, hallowedA, Bool.true_and, Bool.and_true]
    rfl
  · rwa [← hclosed, hcondition]

/-- The tokens of two conditions in brackets with a word between them. -/
theorem tokens_joined {connective : Token}
    (hcondition : condition.toList =
      '(' :: (a.toList ++ ')' :: (word ++ '(' :: (b.toList ++ [')']))))
    (hallowed : word.all isAllowed = true) (hword : tokensFrom 0 0 0 word = .ok [connective])
    (ha : tokens a = .ok found) (hb : tokens b = .ok others) :
    tokens condition =
      .ok (.opening ::
        (found ++ .closing :: connective :: .opening :: (others ++ [.closing]))) := by
  obtain ⟨hallowedA, hcutA⟩ := tokensFrom_of_tokens ha
  obtain ⟨hallowedB, hcutB⟩ := tokensFrom_of_tokens hb
  have hsecond : tokensFrom 0 0 0 ('(' :: (b.toList ++ [')'])) =
      .ok (.opening :: (others ++ [.closing])) := tokensFrom_brackets hcutB rfl
  have hwhole := tokensFrom_brackets hcutA
    (tokensFrom_append hword (Nat.zero_le _) (endsTokens_opening _) hsecond)
  have hclosed : condition.toList =
      ('(' :: (a.toList ++ ')' :: (word ++ '(' :: b.toList))) ++ [')'] := by
    simp only [hcondition, List.cons_append, List.append_assoc]
  apply tokens_of_closed hclosed
  · simp only [List.all_append, List.all_cons, hallowed, hallowedA, hallowedB, Bool.true_and,
      Bool.and_true]
    rfl
  · rw [← hclosed, hcondition]
    exact hwhole

end Texts

section Phrases

variable {a b : String} {left right phrase : Derivation .disjunction}

theorem tokens_bothOf (ha : tokens a = .ok left.tokens) (hb : tokens b = .ok right.tokens) :
    tokens ("(" ++ a ++ ") AND (" ++ b ++ ")") = .ok (left.bothOf right).tokens := by
  have hcondition : ("(" ++ a ++ ") AND (" ++ b ++ ")").toList =
      '(' :: (a.toList ++ ')' :: (" AND ".toList ++ '(' :: (b.toList ++ [')']))) := by simp
  have hword : tokensFrom 0 0 0 " AND ".toList = .ok [.and] := by decide
  rw [tokens_joined hcondition (by decide) hword ha hb]
  simp [Derivation.bothOf_tokens]

theorem tokens_eitherOf (ha : tokens a = .ok left.tokens) (hb : tokens b = .ok right.tokens) :
    tokens ("(" ++ a ++ ") OR (" ++ b ++ ")") = .ok (left.eitherOf right).tokens := by
  have hcondition : ("(" ++ a ++ ") OR (" ++ b ++ ")").toList =
      '(' :: (a.toList ++ ')' :: (" OR ".toList ++ '(' :: (b.toList ++ [')']))) := by simp
  have hword : tokensFrom 0 0 0 " OR ".toList = .ok [.or] := by decide
  rw [tokens_joined hcondition (by decide) hword ha hb]
  simp [Derivation.eitherOf_tokens]

theorem tokens_negated (ha : tokens a = .ok phrase.tokens) :
    tokens ("NOT (" ++ a ++ ")") = .ok phrase.negated.tokens := by
  have hcondition : ("NOT (" ++ a ++ ")").toList =
      "NOT ".toList ++ '(' :: (a.toList ++ [')']) := by simp
  have hword : tokensFrom 0 0 0 "NOT ".toList = .ok [.not] := by decide
  rw [tokens_bracketed hcondition (by decide) hword ha]
  rfl

/-! ## Truth -/

theorem ofText_of_tokens (ha : tokens a = .ok phrase.tokens)
    (hnesting : phrase.nesting ≤ maxNesting) : Tree.ofText a = .ok phrase.tree := by
  rw [Tree.ofText, ha]
  exact Tree.ofTokens_tokens phrase hnesting

theorem holds_of_tokens (ha : tokens a = .ok phrase.tokens)
    (hnesting : phrase.nesting ≤ maxNesting) (value : Cell) :
    holds (some a) value = (phrase.tree.holds value).mapError .cell :=
  holds_of_ofText (ofText_of_tokens ha hnesting) value

end Phrases

theorem Tree.holds_all_pair (value : Cell) (left right : Tree) :
    (Tree.all [left, right]).holds value = (do
      if ← left.holds value then right.holds value else pure false) := by
  simp only [Tree.holds, Tree.holdsAll]
  cases left.holds value with
  | error e => rfl
  | ok first =>
      cases first with
      | false => rfl
      | true =>
          cases right.holds value with
          | error e => rfl
          | ok second => cases second <;> rfl

theorem Tree.holds_any_pair (value : Cell) (left right : Tree) :
    (Tree.any [left, right]).holds value = (do
      if ← left.holds value then pure true else right.holds value) := by
  simp only [Tree.holds, Tree.holdsAny]
  cases left.holds value with
  | error e => rfl
  | ok first =>
      cases first with
      | true => rfl
      | false =>
          cases right.holds value with
          | error e => rfl
          | ok second => cases second <;> rfl

/-! ## Main statement -/

/-- Two conditions in brackets with `AND` or `OR` between them are a condition, and so is the
negation of a condition in brackets, as long as the brackets and the negation fit into the levels
of nesting.  A part is tried only if the parts before it leave the whole open, and the whole comes
to an error if and only if a part that is tried does. -/
theorem holds_compose (a b : String) (value : Cell) :
    (NestsWithin 99 a → NestsWithin 99 b →
      (∃ tree, Tree.ofText ("(" ++ a ++ ") AND (" ++ b ++ ")") = .ok tree) ∧
      (∃ tree, Tree.ofText ("(" ++ a ++ ") OR (" ++ b ++ ")") = .ok tree) ∧
      holds (some ("(" ++ a ++ ") AND (" ++ b ++ ")")) value = (do
        if ← holds (some a) value then holds (some b) value else pure false) ∧
      holds (some ("(" ++ a ++ ") OR (" ++ b ++ ")")) value = (do
        if ← holds (some a) value then pure true else holds (some b) value)) ∧
    (NestsWithin 98 a →
      (∃ tree, Tree.ofText ("NOT (" ++ a ++ ")") = .ok tree) ∧
      holds (some ("NOT (" ++ a ++ ")")) value = (do
        let result ← holds (some a) value
        pure (!result))) := by
  constructor
  · rintro ⟨left, ha, hleft⟩ ⟨right, hb, hright⟩
    rw [Derivation.forall_depths_le_iff, Nat.zero_add] at hleft hright
    have hboth : (left.bothOf right).nesting ≤ maxNesting := by
      rw [Derivation.nesting_bothOf, maxNesting]
      omega
    have heither : (left.eitherOf right).nesting ≤ maxNesting := by
      rw [Derivation.nesting_eitherOf, maxNesting]
      omega
    have hholdsA := holds_of_tokens ha (by rw [maxNesting]; omega) value
    have hholdsB := holds_of_tokens hb (by rw [maxNesting]; omega) value
    refine ⟨⟨_, ofText_of_tokens (tokens_bothOf ha hb) hboth⟩,
      ⟨_, ofText_of_tokens (tokens_eitherOf ha hb) heither⟩, ?_, ?_⟩
    · rw [holds_of_tokens (tokens_bothOf ha hb) hboth, Derivation.tree_bothOf,
        Tree.holds_all_pair, hholdsA, hholdsB]
      cases left.tree.holds value with
      | error e => rfl
      | ok first => cases first <;> rfl
    · rw [holds_of_tokens (tokens_eitherOf ha hb) heither, Derivation.tree_eitherOf,
        Tree.holds_any_pair, hholdsA, hholdsB]
      cases left.tree.holds value with
      | error e => rfl
      | ok first => cases first <;> rfl
  · rintro ⟨phrase, ha, hphrase⟩
    rw [Derivation.forall_depths_le_iff, Nat.zero_add] at hphrase
    have hnegated : phrase.negated.nesting ≤ maxNesting := by
      rw [Derivation.nesting_negated, maxNesting]
      omega
    have hholds := holds_of_tokens ha (by rw [maxNesting]; omega) value
    refine ⟨⟨_, ofText_of_tokens (tokens_negated ha) hnegated⟩, ?_⟩
    rw [holds_of_tokens (tokens_negated ha) hnegated, Derivation.tree_negated, Tree.holds, hholds]
    cases phrase.tree.holds value with
    | error e => rfl
    | ok result => rfl

theorem holds_compose_town :
    let a := "value > 1 "
    let b := "NOT value = ') '"
    NestsWithin 99 a ∧ NestsWithin 99 b ∧ NestsWithin 98 a ∧
      holds (some ("(" ++ a ++ ") AND (" ++ b ++ ")")) (.int 5) = (do
        if ← holds (some a) (.int 5) then holds (some b) (.int 5) else pure false) ∧
      holds (some ("NOT (" ++ a ++ ")")) (.int 5) = (do
        let result ← holds (some a) (.int 5)
        pure (!result)) := by
  intro a b
  let above : Derivation .comparison := .compare .value .greater (.number ['1'])
  let closing : Derivation .comparison := .compare .value .same (.quoted '\x27' [')', ' '])
  have ha : NestsWithin 98 a :=
    ⟨.lastDisjunct (.lastConjunct (.primary (.comparison above))), by decide +kernel, by decide⟩
  have hb : NestsWithin 99 b :=
    ⟨.lastDisjunct (.lastConjunct (.not (.primary (.comparison closing)))), by decide +kernel,
      by decide⟩
  have hwider : NestsWithin 99 a := ha.mono (by decide)
  obtain ⟨hpair, hnot⟩ := holds_compose a b (.int 5)
  exact ⟨hwider, hb, ha, (hpair hwider hb).2.2.1, (hnot ha).2⟩

end SheetAudit.Condition
