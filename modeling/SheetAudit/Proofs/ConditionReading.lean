import SheetAudit.Proofs.ConditionGrammar
import SheetAudit.Proofs.Outcome

/-!
# Conditions and their grammar

The reader of conditions looks at one token to decide how to go on, and counts the levels of
nesting down.  What it reads has a derivation that nests no deeper than the levels it had, and it
reads what a derivation of that depth comes to, up to where the phrase ends.  So a list of tokens is
a condition if and only if it has a derivation in which no token lies too deep.
-/

namespace SheetAudit.Condition

open Outcome

/-! ## One step of a reader -/

section Chain

variable {part : Step Tree} {connective : Token} {fuel : Nat} {tokens rest : List Token}
variable {first : Tree}

theorem readChain_of_end (hfirst : part tokens = .ok (first, rest))
    (hend : rest.head? ≠ some connective) :
    readChain part connective fuel tokens = .ok ([first], rest) := by
  cases fuel with
  | zero =>
      rw [readChain, hfirst]
      rfl
  | succ fuel =>
      rw [readChain, hfirst, ok_bind]
      cases rest with
      | nil => rfl
      | cons token later =>
          have hother : token ≠ connective := by
            rintro rfl
            exact hend rfl
          simp only [if_neg hother, pure_eq_ok]

theorem readChain_of_connective (hfirst : part tokens = .ok (first, connective :: rest)) :
    readChain part connective (fuel + 1) tokens = (do
      let (others, rest) ← readChain part connective fuel rest
      pure (first :: others, rest)) := by
  rw [readChain, hfirst, ok_bind]
  simp only [if_true]

/-- A chain that is read is one part, or a part, the connective and a chain. -/
theorem readChain_eq_ok {parts : List Tree}
    (hread : readChain part connective fuel tokens = .ok (parts, rest)) :
    ∃ first after, part tokens = .ok (first, after) ∧
      (parts = [first] ∧ rest = after ∨
        ∃ fewer later others, fuel = fewer + 1 ∧ after = connective :: later ∧
          readChain part connective fewer later = .ok (others, rest) ∧
          parts = first :: others) := by
  cases fuel with
  | zero =>
      rw [readChain] at hread
      obtain ⟨⟨first, after⟩, hfirst, hread⟩ := bind_eq_ok_iff.mp hread
      cases hread
      exact ⟨first, rest, hfirst, Or.inl ⟨rfl, rfl⟩⟩
  | succ fewer =>
      rw [readChain] at hread
      obtain ⟨⟨first, after⟩, hfirst, hread⟩ := bind_eq_ok_iff.mp hread
      refine ⟨first, after, hfirst, ?_⟩
      cases after with
      | nil =>
          cases hread
          exact Or.inl ⟨rfl, rfl⟩
      | cons token later =>
          simp only at hread
          split at hread
          · next hconnective =>
            obtain ⟨⟨others, after⟩, hothers, hread⟩ := bind_eq_ok_iff.mp hread
            cases hread
            exact Or.inr ⟨fewer, later, others, rfl, by rw [hconnective], hothers, rfl⟩
          · cases hread
            exact Or.inl ⟨rfl, rfl⟩

theorem readAll_of_chain {parts : List Tree}
    (hchain : readChain part .and tokens.length tokens = .ok (parts, rest)) :
    readAll part tokens = .ok (joined .all parts, rest) := by
  rw [readAll, hchain]
  rfl

theorem readAny_of_chain {parts : List Tree}
    (hchain : readChain (readAll part) .or tokens.length tokens = .ok (parts, rest)) :
    readAny part tokens = .ok (joined .any parts, rest) := by
  rw [readAny, hchain]
  rfl

end Chain

section Part

variable {levels : Nat} {token : Token} {tokens rest : List Token}

theorem readPart_of_negation (hnegation : isNegation token = true) :
    readPart (levels + 1) (token :: rest) = (do
      let (inner, rest) ← readPart levels rest
      pure (.not inner, rest)) := by
  rw [readPart]
  simp only [if_pos hnegation]

theorem readPart_of_opening :
    readPart (levels + 1) (.opening :: rest) = (do
      let (inner, rest) ← readAny (readPart levels) rest
      match rest with
      | .closing :: rest => pure (inner, rest)
      | _ => throw .unclosed) := by
  rw [readPart]
  rfl

theorem readPart_of_comparison
    (hfirst : ∀ token ∈ tokens.head?, (isNegation token || token == .opening) = false) :
    readPart levels tokens = readComparison tokens := by
  cases tokens with
  | nil => cases levels <;> rfl
  | cons token tokens =>
      have htoken := hfirst token rfl
      have hnot := Bool.or_eq_false_iff.mp htoken
      cases levels with
      | zero => simp only [readPart, htoken, Bool.false_eq_true, if_false]
      | succ levels => simp only [readPart, hnot.1, hnot.2, Bool.false_eq_true, if_false]

end Part

/-! ## What is derived is read -/

theorem Symbol.EndsBefore.head?_ne {symbol : Symbol} {rest : List Token} {token : Token}
    (hends : symbol.EndsBefore rest) (hgoes : symbol.goesOnWith token = true) :
    rest.head? ≠ some token := by
  intro hhead
  rw [hends token hhead] at hgoes
  cases hgoes

/-- The reader of the phrases of a symbol, with so many levels of nesting left. -/
def Symbol.read (levels fuel : Nat) :
    (symbol : Symbol) → List Token → Except Error (symbol.Meaning × List Token)
  | .disjunction, tokens => readChain (readAll (readPart levels)) .or fuel tokens
  | .conjunction, tokens => readChain (readPart levels) .and fuel tokens
  | .negation, tokens => readPart levels tokens
  | .primary, tokens => readPart levels tokens
  | .comparison, tokens => readComparison tokens
  | .operand, tokens => readOperand tokens

namespace Derivation

variable {symbol : Symbol}

theorem tokens_operand (phrase : Derivation .operand) :
    ∃ token, phrase.tokens = [token] ∧ Operand.ofToken? token = some phrase.meaning := by
  cases phrase <;> exact ⟨_, rfl, rfl⟩

theorem not_nests_of_operand {token : Token}
    (htoken : (Operand.ofToken? token).isSome = true) :
    (isNegation token || token == .opening) = false := by
  revert htoken
  cases token <;> simp [Operand.ofToken?, isNegation]

theorem readOperand_tokens_append (phrase : Derivation .operand) (rest : List Token) :
    readOperand (phrase.tokens ++ rest) = .ok (phrase.meaning, rest) := by
  obtain ⟨token, htokens, hmeaning⟩ := phrase.tokens_operand
  rw [htokens, List.singleton_append, readOperand, hmeaning]
  rfl

/-- A reader reads a phrase that nests no deeper than its levels, up to where the phrase ends. -/
theorem read_tokens_append (phrase : Derivation symbol) {levels : Nat} (fuel : Nat)
    (rest : List Token) (hnesting : phrase.nesting ≤ levels)
    (hfuel : phrase.tokens.length ≤ fuel) (hends : symbol.EndsBefore rest) :
    symbol.read levels fuel (phrase.tokens ++ rest) = .ok (phrase.meaning, rest) := by
  induction phrase generalizing levels fuel rest with
  | lastDisjunct part ih =>
      have hpart := readAll_of_chain
        (ih _ rest hnesting (List.prefix_append _ _).length_le hends.conjunction)
      exact readChain_of_end hpart (hends.head?_ne rfl)
  | or part others ihPart ihOthers =>
      obtain ⟨hnestingPart, hnestingOthers⟩ := max_le_iff.mp hnesting
      rw [tokens_or, List.length_append, List.length_cons] at hfuel
      obtain ⟨fewer, rfl⟩ : ∃ fewer, fuel = fewer + 1 := ⟨fuel - 1, by omega⟩
      have hpart := readAll_of_chain (ihPart _ (.or :: (others.tokens ++ rest)) hnestingPart
        (List.prefix_append _ _).length_le (Symbol.endsBefore_cons rfl _))
      have hothers := ihOthers fewer rest hnestingOthers (by omega) hends
      rw [tokens_or, List.append_assoc, List.cons_append]
      simp only [Symbol.read] at hothers ⊢
      rw [readChain_of_connective hpart, hothers]
      rfl
  | lastConjunct part ih =>
      have hpart := ih fuel rest hnesting hfuel hends.negation
      exact readChain_of_end hpart (hends.head?_ne rfl)
  | and part others ihPart ihOthers =>
      obtain ⟨hnestingPart, hnestingOthers⟩ := max_le_iff.mp hnesting
      rw [tokens_and, List.length_append, List.length_cons] at hfuel
      obtain ⟨fewer, rfl⟩ : ∃ fewer, fuel = fewer + 1 := ⟨fuel - 1, by omega⟩
      have hpart := ihPart fewer (.and :: (others.tokens ++ rest)) hnestingPart (by omega)
        (Symbol.endsBefore_cons rfl _)
      have hothers := ihOthers fewer rest hnestingOthers (by omega) hends
      rw [tokens_and, List.append_assoc, List.cons_append]
      simp only [Symbol.read] at hpart hothers ⊢
      rw [readChain_of_connective hpart, hothers]
      rfl
  | not inner ih =>
      change inner.nesting + 1 ≤ levels at hnesting
      obtain ⟨fewer, rfl⟩ : ∃ fewer, levels = fewer + 1 := ⟨levels - 1, by omega⟩
      have hinner := ih fuel rest (Nat.le_of_succ_le_succ hnesting) (Nat.le_of_succ_le hfuel) hends
      simp only [Symbol.read] at hinner ⊢
      rw [tokens_not, List.cons_append, readPart_of_negation rfl, hinner]
      rfl
  | bang inner ih =>
      change inner.nesting + 1 ≤ levels at hnesting
      obtain ⟨fewer, rfl⟩ : ∃ fewer, levels = fewer + 1 := ⟨levels - 1, by omega⟩
      have hinner := ih fuel rest (Nat.le_of_succ_le_succ hnesting) (Nat.le_of_succ_le hfuel) hends
      simp only [Symbol.read] at hinner ⊢
      rw [tokens_bang, List.cons_append, readPart_of_negation rfl, hinner]
      rfl
  | primary inner ih => exact ih fuel rest hnesting hfuel hends.primary
  | brackets inner ih =>
      change inner.nesting + 1 ≤ levels at hnesting
      obtain ⟨fewer, rfl⟩ : ∃ fewer, levels = fewer + 1 := ⟨levels - 1, by omega⟩
      have hinner := readAny_of_chain (ih _ (.closing :: rest) (Nat.le_of_succ_le_succ hnesting)
        (List.prefix_append _ _).length_le (Symbol.endsBefore_cons rfl _))
      rw [tokens_brackets, List.cons_append, List.append_assoc, List.singleton_append]
      simp only [Symbol.read]
      rw [readPart_of_opening, hinner]
      rfl
  | comparison inner ih =>
      have hinner := ih fuel rest hnesting hfuel hends.comparison
      obtain ⟨token, after, hfirst, hstarts⟩ := inner.exists_first
      simp only [Symbol.read, tokens_comparison] at hinner ⊢
      rw [readPart_of_comparison, hinner]
      · rfl
      · rw [hfirst]
        intro other hother
        cases hother
        exact not_nests_of_operand hstarts
  | compare left sign right =>
      rw [tokens_compare, List.append_assoc, List.cons_append]
      simp only [Symbol.read]
      rw [readComparison, left.readOperand_tokens_append, ok_bind]
      simp only
      rw [right.readOperand_tokens_append]
      rfl
  | alone operand =>
      rw [tokens_alone]
      simp only [Symbol.read]
      rw [readComparison, operand.readOperand_tokens_append, ok_bind]
      cases rest with
      | nil => rfl
      | cons token later =>
          cases token with
          | comparison sign => cases hends (.comparison sign) rfl
          | _ => rfl
  | value => exact readOperand_tokens_append .value rest
  | number spelling => exact readOperand_tokens_append (.number spelling) rest
  | quoted quote body => exact readOperand_tokens_append (.quoted quote body) rest
  | bool truth => exact readOperand_tokens_append (.bool truth) rest
  | null => exact readOperand_tokens_append .null rest

end Derivation

/-! ## What is read is derived -/

/-- A phrase of a symbol stands at the start of some tokens, nests at most so many levels deep and
comes to the outcome of a reader, which hands on the tokens after it. -/
def Symbol.Derives (symbol : Symbol) (levels : Nat) (tokens : List Token)
    (outcome : symbol.Meaning × List Token) : Prop :=
  ∃ phrase : Derivation symbol, phrase.tokens ++ outcome.2 = tokens ∧
    phrase.nesting ≤ levels ∧ phrase.meaning = outcome.1

section Soundness

variable {levels fuel : Nat} {tokens rest : List Token}

theorem exists_operand {operand : Operand} (hread : readOperand tokens = .ok (operand, rest)) :
    ∃ phrase : Derivation .operand, phrase.tokens ++ rest = tokens ∧ phrase.meaning = operand := by
  cases tokens with
  | nil => cases hread
  | cons token later =>
      cases token with
      | value => cases hread; exact ⟨.value, rfl, rfl⟩
      | number spelling => cases hread; exact ⟨.number spelling, rfl, rfl⟩
      | quoted quote body => cases hread; exact ⟨.quoted quote body, rfl, rfl⟩
      | bool truth => cases hread; exact ⟨.bool truth, rfl, rfl⟩
      | null => cases hread; exact ⟨.null, rfl, rfl⟩
      | comparison | bang | opening | closing | and | or | not => cases hread

theorem derives_comparison {tree : Tree} (hread : readComparison tokens = .ok (tree, rest)) :
    Symbol.comparison.Derives levels tokens (tree, rest) := by
  rw [readComparison] at hread
  obtain ⟨⟨left, after⟩, hleft, hafter⟩ := bind_eq_ok_iff.mp hread
  obtain ⟨leftPhrase, rfl, rfl⟩ := exists_operand hleft
  simp only at hafter
  split at hafter
  · next sign later =>
    obtain ⟨⟨right, after⟩, hright, hafter⟩ := bind_eq_ok_iff.mp hafter
    obtain ⟨rightPhrase, rfl, rfl⟩ := exists_operand hright
    cases hafter
    refine ⟨.compare leftPhrase sign rightPhrase, ?_, Nat.zero_le _, rfl⟩
    rw [Derivation.tokens_compare, List.append_assoc, List.cons_append]
  · cases hafter
    exact ⟨.alone leftPhrase, rfl, Nat.zero_le _, rfl⟩

section Chains

variable (hpart : ∀ {tokens tree rest}, readPart levels tokens = .ok (tree, rest) →
  Symbol.negation.Derives levels tokens (tree, rest))
include hpart

theorem derives_conjunction {parts : List Tree}
    (hread : readChain (readPart levels) .and fuel tokens = .ok (parts, rest)) :
    Symbol.conjunction.Derives levels tokens (parts, rest) := by
  induction fuel using Nat.strong_induction_on generalizing tokens parts with
  | _ fuel ih =>
      obtain ⟨first, after, hfirst, hothers⟩ := readChain_eq_ok hread
      obtain ⟨phrase, rfl, hnesting, rfl⟩ := hpart hfirst
      obtain ⟨rfl, rfl⟩ | ⟨fewer, later, others, rfl, rfl, hothers, rfl⟩ := hothers
      · exact ⟨.lastConjunct phrase, rfl, hnesting, rfl⟩
      · obtain ⟨otherPhrase, rfl, hnestingOthers, rfl⟩ := ih fewer (by omega) hothers
        refine ⟨.and phrase otherPhrase, ?_, max_le hnesting hnestingOthers, rfl⟩
        rw [Derivation.tokens_and, List.append_assoc, List.cons_append]

theorem derives_readAll {tree : Tree}
    (hread : readAll (readPart levels) tokens = .ok (tree, rest)) :
    ∃ phrase : Derivation .conjunction, phrase.tokens ++ rest = tokens ∧
      phrase.nesting ≤ levels ∧ joined .all phrase.meaning = tree := by
  rw [readAll] at hread
  obtain ⟨⟨parts, after⟩, hparts, hread⟩ := bind_eq_ok_iff.mp hread
  cases hread
  obtain ⟨phrase, htokens, hnesting, rfl⟩ := derives_conjunction hpart hparts
  exact ⟨phrase, htokens, hnesting, rfl⟩

theorem derives_disjunction {parts : List Tree}
    (hread : readChain (readAll (readPart levels)) .or fuel tokens = .ok (parts, rest)) :
    Symbol.disjunction.Derives levels tokens (parts, rest) := by
  induction fuel using Nat.strong_induction_on generalizing tokens parts with
  | _ fuel ih =>
      obtain ⟨first, after, hfirst, hothers⟩ := readChain_eq_ok hread
      obtain ⟨phrase, rfl, hnesting, rfl⟩ := derives_readAll hpart hfirst
      obtain ⟨rfl, rfl⟩ | ⟨fewer, later, others, rfl, rfl, hothers, rfl⟩ := hothers
      · exact ⟨.lastDisjunct phrase, rfl, hnesting, rfl⟩
      · obtain ⟨otherPhrase, rfl, hnestingOthers, rfl⟩ := ih fewer (by omega) hothers
        refine ⟨.or phrase otherPhrase, ?_, max_le hnesting hnestingOthers, rfl⟩
        rw [Derivation.tokens_or, List.append_assoc, List.cons_append]

theorem derives_readAny {tree : Tree}
    (hread : readAny (readPart levels) tokens = .ok (tree, rest)) :
    ∃ phrase : Derivation .disjunction, phrase.tokens ++ rest = tokens ∧
      phrase.nesting ≤ levels ∧ phrase.tree = tree := by
  rw [readAny] at hread
  obtain ⟨⟨parts, after⟩, hparts, hread⟩ := bind_eq_ok_iff.mp hread
  cases hread
  obtain ⟨phrase, htokens, hnesting, rfl⟩ := derives_disjunction hpart hparts
  exact ⟨phrase, htokens, hnesting, rfl⟩

end Chains

theorem derives_negation_of_comparison {tree : Tree}
    (hread : readComparison tokens = .ok (tree, rest)) :
    Symbol.negation.Derives levels tokens (tree, rest) := by
  obtain ⟨phrase, htokens, hnesting, hmeaning⟩ := derives_comparison hread
  exact ⟨.primary (.comparison phrase), htokens, hnesting, hmeaning⟩

theorem derives_not {token : Token} (hnegation : isNegation token = true) {inner : Tree}
    (hinner : Symbol.negation.Derives levels tokens (inner, rest)) :
    Symbol.negation.Derives (levels + 1) (token :: tokens) (.not inner, rest) := by
  obtain ⟨phrase, rfl, hnesting, rfl⟩ := hinner
  rw [isNegation, Bool.or_eq_true, beq_iff_eq, beq_iff_eq] at hnegation
  obtain rfl | rfl := hnegation
  · exact ⟨.not phrase, rfl, Nat.succ_le_succ hnesting, rfl⟩
  · exact ⟨.bang phrase, rfl, Nat.succ_le_succ hnesting, rfl⟩

/-- What is read with some levels left has a derivation that nests no deeper.  The induction is on
the levels, which a negation and an opening bracket count down. -/
theorem derives_negation {tree : Tree} (hread : readPart levels tokens = .ok (tree, rest)) :
    Symbol.negation.Derives levels tokens (tree, rest) := by
  induction levels generalizing tokens tree rest with
  | zero =>
      cases tokens with
      | nil => exact derives_negation_of_comparison hread
      | cons token later =>
          rw [readPart] at hread
          split at hread
          · cases hread
          · exact derives_negation_of_comparison hread
  | succ levels ih =>
      cases tokens with
      | nil => exact derives_negation_of_comparison hread
      | cons token later =>
          rw [readPart] at hread
          split at hread
          · next hnegation =>
            obtain ⟨⟨inner, after⟩, hinner, hread⟩ := bind_eq_ok_iff.mp hread
            cases hread
            exact derives_not hnegation (ih hinner)
          · split at hread
            · next hopening =>
              obtain ⟨⟨inner, after⟩, hinner, hclosing⟩ := bind_eq_ok_iff.mp hread
              obtain ⟨phrase, htokens, hnesting, rfl⟩ := derives_readAny ih hinner
              simp only at hclosing
              split at hclosing
              · cases hclosing
                refine ⟨.primary (.brackets phrase), ?_, Nat.succ_le_succ hnesting, rfl⟩
                rw [← htokens, beq_iff_eq.mp hopening, Derivation.tokens_primary,
                  Derivation.tokens_brackets, List.cons_append, List.append_assoc,
                  List.singleton_append]
              · cases hclosing
            · exact derives_negation_of_comparison hread

end Soundness

/-! ## Main statement -/

theorem Tree.ofTokens_eq_ok {tokens : List Token} {tree : Tree}
    (hread : Tree.ofTokens tokens = .ok tree) :
    ∃ phrase : Derivation .disjunction, phrase.tokens = tokens ∧
      phrase.nesting ≤ maxNesting ∧ phrase.tree = tree := by
  rw [Tree.ofTokens] at hread
  split at hread
  · cases hread
  · obtain ⟨⟨found, rest⟩, hfound, hrest⟩ := bind_eq_ok_iff.mp hread
    obtain ⟨phrase, htokens, hnesting, rfl⟩ := derives_readAny derives_negation hfound
    cases rest with
    | nil =>
        cases hrest
        exact ⟨phrase, by rw [← htokens, List.append_nil], hnesting, rfl⟩
    | cons token later => cases hrest

theorem Tree.ofTokens_tokens (phrase : Derivation .disjunction)
    (hnesting : phrase.nesting ≤ maxNesting) : Tree.ofTokens phrase.tokens = .ok phrase.tree := by
  have hread := phrase.read_tokens_append phrase.tokens.length [] hnesting le_rfl
    (Symbol.endsBefore_nil _)
  rw [List.append_nil] at hread
  obtain ⟨token, others, hfirst, _⟩ := phrase.exists_first
  have hsome : phrase.tokens.isEmpty = false := by rw [hfirst]; rfl
  rw [Tree.ofTokens, hsome, readAny_of_chain hread]
  rfl

/-- Tokens form a tree if and only if the grammar derives them with no token in more brackets and
negations than are allowed.  The tree is that of the derivation, of which there is only one. -/
theorem Tree.ofTokens_accepts_grammar (tokens : List Token) :
    (∀ tree, Tree.ofTokens tokens = .ok tree ↔
      ∃ phrase : Derivation .disjunction, phrase.tokens = tokens ∧
        (∀ depth ∈ phrase.depths 0, depth ≤ maxNesting) ∧ phrase.tree = tree) ∧
    (∀ phrase phrase' : Derivation .disjunction,
      phrase.tokens = tokens → phrase'.tokens = tokens → phrase = phrase') ∧
    ((¬ ∃ phrase : Derivation .disjunction, phrase.tokens = tokens ∧
        ∀ depth ∈ phrase.depths 0, depth ≤ maxNesting) →
      ∃ cause : Error, Tree.ofTokens tokens = .error cause) := by
  simp only [Derivation.forall_depths_le_iff, zero_add]
  refine ⟨?_, ?_, ?_⟩
  · intro tree
    constructor
    · exact Tree.ofTokens_eq_ok
    · rintro ⟨phrase, rfl, hnesting, rfl⟩
      exact Tree.ofTokens_tokens phrase hnesting
  · intro phrase phrase' htokens htokens'
    have hsame : phrase.tokens ++ [] = phrase'.tokens ++ [] := by rw [htokens, htokens']
    exact (phrase.eq_of_tokens_append_eq phrase' (Symbol.endsBefore_nil _)
      (Symbol.endsBefore_nil _) hsame).1
  · intro hnone
    cases hread : Tree.ofTokens tokens with
    | error cause => exact ⟨cause, rfl⟩
    | ok tree =>
        obtain ⟨phrase, htokens, hnesting, _⟩ := Tree.ofTokens_eq_ok hread
        exact absurd ⟨phrase, htokens, hnesting⟩ hnone

example : Tree.ofTokens [.not, .value, .and, .value, .or, .value] =
    .ok (.any [.all [.not (.operand .value), .operand .value], .operand .value]) := rfl

end SheetAudit.Condition
