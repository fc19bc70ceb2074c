import Mathlib.Tactic
import SheetAudit.Condition.Tree

/-!
# Grammar of conditions

Conditions are derived by the grammar

    disjunction := conjunction ( OR conjunction )*
    conjunction := negation ( AND negation )*
    negation    := ( NOT | ! ) negation | primary
    primary     := ( disjunction ) | comparison
    comparison  := operand [ sign operand ]
    operand     := value | number | text | true | false | null

A derivation is a tree of productions.  This file holds the derivations, the tokens and the
condition that a derivation comes to, and how deep brackets and negations nest in it.  A list of
tokens has at most one derivation: a phrase ends where the next token cannot go on with it, so two
phrases at the start of one list of tokens are the same.
-/

namespace SheetAudit.Condition

/-- The symbols of the grammar. -/
inductive Symbol where
  | disjunction
  | conjunction
  | negation
  | primary
  | comparison
  | operand
  deriving DecidableEq

/-- The derivations from a symbol.  A repetition is a chain of productions that ends with its last
part. -/
inductive Derivation : Symbol → Type where
  | lastDisjunct (part : Derivation .conjunction) : Derivation .disjunction
  | or (part : Derivation .conjunction) (others : Derivation .disjunction) :
      Derivation .disjunction
  | lastConjunct (part : Derivation .negation) : Derivation .conjunction
  | and (part : Derivation .negation) (others : Derivation .conjunction) : Derivation .conjunction
  | not (inner : Derivation .negation) : Derivation .negation
  | bang (inner : Derivation .negation) : Derivation .negation
  | primary (inner : Derivation .primary) : Derivation .negation
  | brackets (inner : Derivation .disjunction) : Derivation .primary
  | comparison (inner : Derivation .comparison) : Derivation .primary
  | compare (left : Derivation .operand) (sign : Comparison) (right : Derivation .operand) :
      Derivation .comparison
  | alone (operand : Derivation .operand) : Derivation .comparison
  | value : Derivation .operand
  | number (spelling : List Char) : Derivation .operand
  | quoted (quote : Char) (body : List Char) : Derivation .operand
  | bool (truth : Bool) : Derivation .operand
  | null : Derivation .operand

/-- What is derived from a symbol: the parts of a chain, a condition or an operand. -/
abbrev Symbol.Meaning : Symbol → Type
  | .disjunction => List Tree
  | .conjunction => List Tree
  | .negation => Tree
  | .primary => Tree
  | .comparison => Tree
  | .operand => Operand

namespace Derivation

variable {symbol : Symbol}

/-- The tokens that are derived. -/
def tokens : {symbol : Symbol} → Derivation symbol → List Token
  | _, .lastDisjunct part => part.tokens
  | _, .or part others => part.tokens ++ .or :: others.tokens
  | _, .lastConjunct part => part.tokens
  | _, .and part others => part.tokens ++ .and :: others.tokens
  | _, .not inner => .not :: inner.tokens
  | _, .bang inner => .bang :: inner.tokens
  | _, .primary inner => inner.tokens
  | _, .brackets inner => .opening :: inner.tokens ++ [.closing]
  | _, .comparison inner => inner.tokens
  | _, .compare left sign right => left.tokens ++ .comparison sign :: right.tokens
  | _, .alone operand => operand.tokens
  | _, .value => [.value]
  | _, .number spelling => [.number spelling]
  | _, .quoted quote body => [.quoted quote body]
  | _, .bool truth => [.bool truth]
  | _, .null => [.null]

theorem tokens_or (part : Derivation .conjunction) (others : Derivation .disjunction) :
    (Derivation.or part others).tokens = part.tokens ++ .or :: others.tokens := rfl

theorem tokens_and (part : Derivation .negation) (others : Derivation .conjunction) :
    (Derivation.and part others).tokens = part.tokens ++ .and :: others.tokens := rfl

theorem tokens_not (inner : Derivation .negation) :
    (Derivation.not inner).tokens = .not :: inner.tokens := rfl

theorem tokens_bang (inner : Derivation .negation) :
    (Derivation.bang inner).tokens = .bang :: inner.tokens := rfl

theorem tokens_primary (inner : Derivation .primary) :
    (Derivation.primary inner).tokens = inner.tokens := rfl

theorem tokens_brackets (inner : Derivation .disjunction) :
    (Derivation.brackets inner).tokens = .opening :: (inner.tokens ++ [.closing]) := rfl

theorem tokens_comparison (inner : Derivation .comparison) :
    (Derivation.comparison inner).tokens = inner.tokens := rfl

theorem tokens_compare (left : Derivation .operand) (sign : Comparison)
    (right : Derivation .operand) :
    (Derivation.compare left sign right).tokens =
      left.tokens ++ .comparison sign :: right.tokens := rfl

theorem tokens_alone (operand : Derivation .operand) :
    (Derivation.alone operand).tokens = operand.tokens := rfl

/-- In how many brackets and negations each of the tokens lies, in a derivation that itself lies in
some. -/
def depths : {symbol : Symbol} → (outer : Nat) → Derivation symbol → List Nat
  | _, outer, .lastDisjunct part => part.depths outer
  | _, outer, .or part others => part.depths outer ++ outer :: others.depths outer
  | _, outer, .lastConjunct part => part.depths outer
  | _, outer, .and part others => part.depths outer ++ outer :: others.depths outer
  | _, outer, .not inner => outer :: inner.depths (outer + 1)
  | _, outer, .bang inner => outer :: inner.depths (outer + 1)
  | _, outer, .primary inner => inner.depths outer
  | _, outer, .brackets inner => outer :: inner.depths (outer + 1) ++ [outer]
  | _, outer, .comparison inner => inner.depths outer
  | _, outer, .compare left _ right => left.depths outer ++ outer :: right.depths outer
  | _, outer, .alone operand => operand.depths outer
  | _, outer, .value => [outer]
  | _, outer, .number _ => [outer]
  | _, outer, .quoted _ _ => [outer]
  | _, outer, .bool _ => [outer]
  | _, outer, .null => [outer]

/-- What a derivation comes to.  Brackets leave no trace, and a chain of one part is that part. -/
def meaning : {symbol : Symbol} → Derivation symbol → symbol.Meaning
  | _, .lastDisjunct part => [joined .all part.meaning]
  | _, .or part others => joined .all part.meaning :: others.meaning
  | _, .lastConjunct part => [part.meaning]
  | _, .and part others => part.meaning :: others.meaning
  | _, .not inner => Tree.not inner.meaning
  | _, .bang inner => Tree.not inner.meaning
  | _, .primary inner => inner.meaning
  | _, .brackets inner => joined .any inner.meaning
  | _, .comparison inner => inner.meaning
  | _, .compare left sign right => Tree.compare sign left.meaning right.meaning
  | _, .alone operand => Tree.operand operand.meaning
  | _, .value => Operand.value
  | _, .number spelling => Operand.literal (numberCell spelling)
  | _, .quoted _ body => Operand.literal (.text (String.ofList body))
  | _, .bool truth => Operand.literal (.bool truth)
  | _, .null => Operand.literal .empty

/-- The condition that a derivation comes to. -/
def tree (phrase : Derivation .disjunction) : Tree := joined .any phrase.meaning

/-! ## Nesting -/

/-- The greatest number of brackets and negations around one token of a derivation. -/
def nesting : {symbol : Symbol} → Derivation symbol → Nat
  | _, .lastDisjunct part => part.nesting
  | _, .or part others => max part.nesting others.nesting
  | _, .lastConjunct part => part.nesting
  | _, .and part others => max part.nesting others.nesting
  | _, .not inner => inner.nesting + 1
  | _, .bang inner => inner.nesting + 1
  | _, .primary inner => inner.nesting
  | _, .brackets inner => inner.nesting + 1
  | _, .comparison inner => inner.nesting
  | _, .compare _ _ _ => 0
  | _, .alone _ => 0
  | _, .value => 0
  | _, .number _ => 0
  | _, .quoted _ _ => 0
  | _, .bool _ => 0
  | _, .null => 0

theorem depths_operand (phrase : Derivation .operand) (outer : Nat) :
    phrase.depths outer = [outer] := by
  cases phrase <;> rfl

theorem forall_depths_le_iff (phrase : Derivation symbol) (outer bound : Nat) :
    (∀ depth ∈ phrase.depths outer, depth ≤ bound) ↔ outer + phrase.nesting ≤ bound := by
  induction phrase generalizing outer with
  | lastDisjunct part ih => exact ih outer
  | lastConjunct part ih => exact ih outer
  | primary inner ih => exact ih outer
  | comparison inner ih => exact ih outer
  | or part others ihPart ihOthers | and part others ihPart ihOthers =>
      change (∀ depth ∈ part.depths outer ++ outer :: others.depths outer, depth ≤ bound) ↔
        outer + max part.nesting others.nesting ≤ bound
      rw [List.forall_mem_append, List.forall_mem_cons, ihPart, ihOthers]
      omega
  | not inner ih | bang inner ih =>
      change (∀ depth ∈ outer :: inner.depths (outer + 1), depth ≤ bound) ↔
        outer + (inner.nesting + 1) ≤ bound
      rw [List.forall_mem_cons, ih]
      omega
  | brackets inner ih =>
      change (∀ depth ∈ outer :: inner.depths (outer + 1) ++ [outer], depth ≤ bound) ↔
        outer + (inner.nesting + 1) ≤ bound
      rw [List.forall_mem_append, List.forall_mem_cons, List.forall_mem_singleton, ih]
      omega
  | compare left sign right =>
      change (∀ depth ∈ left.depths outer ++ outer :: right.depths outer, depth ≤ bound) ↔
        outer ≤ bound
      simp [depths_operand]
  | alone operand =>
      change (∀ depth ∈ operand.depths outer, depth ≤ bound) ↔ outer ≤ bound
      simp [depths_operand]
  | value | number | quoted | bool | null => exact List.forall_mem_singleton

end Derivation

/-! ## Where a phrase starts and ends -/

/-- Whether a token may stand at the start of a phrase. -/
def Symbol.startsWith : Symbol → Token → Bool
  | .operand, token | .comparison, token => (Operand.ofToken? token).isSome
  | .primary, token => token == .opening || (Operand.ofToken? token).isSome
  | _, token => isNegation token || token == .opening || (Operand.ofToken? token).isSome

/-- Whether a token makes a longer phrase of a phrase that stands before it. -/
def Symbol.goesOnWith : Symbol → Token → Bool
  | .operand, _ => false
  | _, .comparison _ => true
  | .conjunction, .and => true
  | .disjunction, .and => true
  | .disjunction, .or => true
  | _, _ => false

/-- A phrase ends before some tokens: the next of them, if any, does not go on with it. -/
def Symbol.EndsBefore (symbol : Symbol) (rest : List Token) : Prop :=
  ∀ token ∈ rest.head?, symbol.goesOnWith token = false

namespace Derivation

variable {symbol : Symbol}

theorem exists_first (phrase : Derivation symbol) :
    ∃ token others, phrase.tokens = token :: others ∧ symbol.startsWith token = true := by
  induction phrase with
  | lastDisjunct part ih | lastConjunct part ih => exact ih
  | or part others ih _ =>
      obtain ⟨token, after, htokens, hstarts⟩ := ih
      exact ⟨token, _, by rw [tokens_or, htokens, List.cons_append], hstarts⟩
  | and part others ih _ =>
      obtain ⟨token, after, htokens, hstarts⟩ := ih
      exact ⟨token, _, by rw [tokens_and, htokens, List.cons_append], hstarts⟩
  | not inner | bang inner => exact ⟨_, _, rfl, rfl⟩
  | primary inner ih =>
      obtain ⟨token, after, htokens, hstarts⟩ := ih
      refine ⟨token, after, htokens, ?_⟩
      simp only [Symbol.startsWith] at hstarts ⊢
      rw [Bool.or_assoc, hstarts, Bool.or_true]
  | brackets inner => exact ⟨_, _, rfl, rfl⟩
  | comparison inner ih =>
      obtain ⟨token, after, htokens, hstarts⟩ := ih
      refine ⟨token, after, htokens, ?_⟩
      simp only [Symbol.startsWith] at hstarts ⊢
      rw [hstarts, Bool.or_true]
  | compare left sign right ih _ =>
      obtain ⟨token, after, htokens, hstarts⟩ := ih
      exact ⟨token, _, by rw [tokens_compare, htokens, List.cons_append], hstarts⟩
  | alone operand ih => exact ih
  | value | number | quoted | bool | null => exact ⟨_, _, rfl, rfl⟩

theorem tokens_append_ne_cons (phrase : Derivation symbol) {token : Token}
    (hstarts : symbol.startsWith token = false) (rest after : List Token) :
    phrase.tokens ++ rest ≠ token :: after := by
  intro htokens
  obtain ⟨first, others, hfirst, hfirstStarts⟩ := phrase.exists_first
  rw [hfirst, List.cons_append] at htokens
  rw [(List.cons.inj htokens).1, hstarts] at hfirstStarts
  cases hfirstStarts

end Derivation

namespace Symbol

variable {rest : List Token}

theorem EndsBefore.mono {large small : Symbol} (hends : large.EndsBefore rest)
    (hstop : ∀ token, large.goesOnWith token = false → small.goesOnWith token = false) :
    small.EndsBefore rest := by
  intro token htoken
  exact hstop token (hends token htoken)

theorem EndsBefore.conjunction (hends : Symbol.disjunction.EndsBefore rest) :
    Symbol.conjunction.EndsBefore rest := by
  apply hends.mono
  intro token
  cases token <;> simp [goesOnWith]

theorem EndsBefore.negation (hends : Symbol.conjunction.EndsBefore rest) :
    Symbol.negation.EndsBefore rest := by
  apply hends.mono
  intro token
  cases token <;> simp [goesOnWith]

theorem EndsBefore.primary (hends : Symbol.negation.EndsBefore rest) :
    Symbol.primary.EndsBefore rest := by
  apply hends.mono
  intro token
  cases token <;> simp [goesOnWith]

theorem EndsBefore.comparison (hends : Symbol.primary.EndsBefore rest) :
    Symbol.comparison.EndsBefore rest := by
  apply hends.mono
  intro token
  cases token <;> simp [goesOnWith]

theorem endsBefore_cons {symbol : Symbol} {token : Token}
    (htoken : symbol.goesOnWith token = false) (rest : List Token) :
    symbol.EndsBefore (token :: rest) := by
  intro other hother
  cases hother
  exact htoken

theorem endsBefore_operand (rest : List Token) : Symbol.operand.EndsBefore rest := by
  intro token _
  rfl

theorem endsBefore_nil (symbol : Symbol) : symbol.EndsBefore [] := by
  intro token htoken
  cases htoken

end Symbol

/-! ## One derivation for a list of tokens -/

namespace Derivation

variable {symbol : Symbol}

/-- Two phrases that start a list of tokens and end where they cannot go on are the same. -/
theorem eq_of_tokens_append_eq (phrase phrase' : Derivation symbol) {rest rest' : List Token}
    (hends : symbol.EndsBefore rest) (hends' : symbol.EndsBefore rest')
    (htokens : phrase.tokens ++ rest = phrase'.tokens ++ rest') :
    phrase = phrase' ∧ rest = rest' := by
  induction phrase generalizing rest rest' with
  | lastDisjunct part ih =>
      cases phrase' with
      | lastDisjunct part' =>
          obtain ⟨rfl, hrest⟩ := ih part' hends.conjunction hends'.conjunction htokens
          exact ⟨rfl, hrest⟩
      | or part' others' =>
          rw [tokens_or, List.append_assoc] at htokens
          obtain ⟨_, rfl⟩ := ih part' hends.conjunction (Symbol.endsBefore_cons rfl _) htokens
          cases hends .or rfl
  | or part others ihPart ihOthers =>
      rw [tokens_or, List.append_assoc] at htokens
      cases phrase' with
      | lastDisjunct part' =>
          obtain ⟨_, rfl⟩ := ihPart part' (Symbol.endsBefore_cons rfl _) hends'.conjunction htokens
          cases hends' .or rfl
      | or part' others' =>
          rw [tokens_or, List.append_assoc] at htokens
          obtain ⟨rfl, hlater⟩ := ihPart part' (Symbol.endsBefore_cons rfl _)
            (Symbol.endsBefore_cons rfl _) htokens
          obtain ⟨rfl, hrest⟩ := ihOthers others' hends hends' (List.cons.inj hlater).2
          exact ⟨rfl, hrest⟩
  | lastConjunct part ih =>
      cases phrase' with
      | lastConjunct part' =>
          obtain ⟨rfl, hrest⟩ := ih part' hends.negation hends'.negation htokens
          exact ⟨rfl, hrest⟩
      | and part' others' =>
          rw [tokens_and, List.append_assoc] at htokens
          obtain ⟨_, rfl⟩ := ih part' hends.negation (Symbol.endsBefore_cons rfl _) htokens
          cases hends .and rfl
  | and part others ihPart ihOthers =>
      rw [tokens_and, List.append_assoc] at htokens
      cases phrase' with
      | lastConjunct part' =>
          obtain ⟨_, rfl⟩ := ihPart part' (Symbol.endsBefore_cons rfl _) hends'.negation htokens
          cases hends' .and rfl
      | and part' others' =>
          rw [tokens_and, List.append_assoc] at htokens
          obtain ⟨rfl, hlater⟩ := ihPart part' (Symbol.endsBefore_cons rfl _)
            (Symbol.endsBefore_cons rfl _) htokens
          obtain ⟨rfl, hrest⟩ := ihOthers others' hends hends' (List.cons.inj hlater).2
          exact ⟨rfl, hrest⟩
  | not inner ih =>
      cases phrase' with
      | not inner' =>
          obtain ⟨rfl, hrest⟩ := ih inner' hends hends' (List.cons.inj htokens).2
          exact ⟨rfl, hrest⟩
      | bang inner' => cases (List.cons.inj htokens).1
      | primary inner' => exact absurd htokens.symm (inner'.tokens_append_ne_cons rfl _ _)
  | bang inner ih =>
      cases phrase' with
      | not inner' => cases (List.cons.inj htokens).1
      | bang inner' =>
          obtain ⟨rfl, hrest⟩ := ih inner' hends hends' (List.cons.inj htokens).2
          exact ⟨rfl, hrest⟩
      | primary inner' => exact absurd htokens.symm (inner'.tokens_append_ne_cons rfl _ _)
  | primary inner ih =>
      cases phrase' with
      | not inner' => exact absurd htokens (inner.tokens_append_ne_cons rfl _ _)
      | bang inner' => exact absurd htokens (inner.tokens_append_ne_cons rfl _ _)
      | primary inner' =>
          obtain ⟨rfl, hrest⟩ := ih inner' hends.primary hends'.primary htokens
          exact ⟨rfl, hrest⟩
  | brackets inner ih =>
      cases phrase' with
      | brackets inner' =>
          simp only [tokens_brackets, List.cons_append, List.append_assoc] at htokens
          obtain ⟨rfl, hclosing⟩ := ih inner' (Symbol.endsBefore_cons rfl _)
            (Symbol.endsBefore_cons rfl _) (List.cons.inj htokens).2
          exact ⟨rfl, (List.cons.inj hclosing).2⟩
      | comparison inner' => exact absurd htokens.symm (inner'.tokens_append_ne_cons rfl _ _)
  | comparison inner ih =>
      cases phrase' with
      | brackets inner' => exact absurd htokens (inner.tokens_append_ne_cons rfl _ _)
      | comparison inner' =>
          obtain ⟨rfl, hrest⟩ := ih inner' hends.comparison hends'.comparison htokens
          exact ⟨rfl, hrest⟩
  | compare left sign right ihLeft ihRight =>
      rw [tokens_compare, List.append_assoc] at htokens
      cases phrase' with
      | compare left' sign' right' =>
          rw [tokens_compare, List.append_assoc] at htokens
          obtain ⟨rfl, hlater⟩ := ihLeft left' (Symbol.endsBefore_operand _)
            (Symbol.endsBefore_operand _) htokens
          obtain ⟨hsign, hright⟩ := List.cons.inj hlater
          cases hsign
          obtain ⟨rfl, hrest⟩ := ihRight right' (Symbol.endsBefore_operand _)
            (Symbol.endsBefore_operand _) hright
          exact ⟨rfl, hrest⟩
      | alone operand' =>
          obtain ⟨_, rfl⟩ := ihLeft operand' (Symbol.endsBefore_operand _)
            (Symbol.endsBefore_operand _) htokens
          cases hends' (.comparison sign) rfl
  | alone operand ih =>
      cases phrase' with
      | compare left' sign' right' =>
          rw [tokens_compare, List.append_assoc] at htokens
          obtain ⟨_, rfl⟩ := ih left' (Symbol.endsBefore_operand _)
            (Symbol.endsBefore_operand _) htokens
          cases hends (.comparison sign') rfl
      | alone operand' =>
          obtain ⟨rfl, hrest⟩ := ih operand' (Symbol.endsBefore_operand _)
            (Symbol.endsBefore_operand _) htokens
          exact ⟨rfl, hrest⟩
  | value | number | quoted | bool | null =>
      cases phrase' <;> cases htokens
      exact ⟨rfl, rfl⟩

end Derivation

end SheetAudit.Condition
