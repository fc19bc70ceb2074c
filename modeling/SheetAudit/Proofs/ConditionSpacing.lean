import Mathlib.Data.List.TakeWhile
import Mathlib.Tactic
import SheetAudit.Proofs.ConditionTokens
import SheetAudit.Proofs.IntervalConditions

/-!
# Tokens and the blanks around them

A condition is its tokens and the blanks around them, and nothing of it is lost.  A token that was
cut from some text is cut from its own characters too, so the same tokens are found again however
they are spaced, as long as a blank stands between any two of them.
-/

namespace SheetAudit.Condition

open Outcome Text

/-! ## Tokens on their own -/

/-- A token is cut from its own characters, and no blank is at either end of these. -/
structure Token.IsCut (token : Token) : Prop where
  firstToken_eq : firstToken token.chars = some (.ok token)
  head : ∀ c ∈ token.chars.head?, isBlank c = false
  last : ∀ c ∈ token.chars.getLast?, isBlank c = false

theorem Token.isCut_of_ends {token : Token} (hfirst : firstToken token.chars = some (.ok token))
    (hhead : token.chars.head?.any isBlank = false)
    (hlast : token.chars.getLast?.any isBlank = false) : token.IsCut := by
  constructor
  · exact hfirst
  · intro c hc
    rw [hc] at hhead
    exact hhead
  · intro c hc
    rw [hc] at hlast
    exact hlast

section Cut

variable {quote : Char} {cs spelling : List Char} {token : Token}

theorem isMagnitude_unsignedOf (hsome : unsignedOf cs ≠ []) : IsMagnitude (unsignedOf cs) := by
  have hdigits (cs : List Char) : AllDigits (digitsOf cs) := fun c hc => List.mem_takeWhile_imp hc
  by_cases hpoint : ∀ c ∈ (cs.drop (digitsOf cs).length).head?, c ≠ '.'
  · rw [unsignedOf_of_no_point hpoint] at hsome ⊢
    exact .whole (hdigits cs) hsome
  · simp only [ne_eq, not_forall, not_not] at hpoint
    obtain ⟨c, hc, rfl⟩ := hpoint
    obtain ⟨later, hlater⟩ := List.head?_eq_some_iff.mp hc
    rw [unsignedOf_of_point hlater] at hsome ⊢
    split at hsome
    · exact absurd rfl hsome
    · next hfilled =>
      rw [if_neg hfilled]
      refine .point (hdigits cs) (hdigits later) ?_
      simpa [imp_iff_not_or] using hfilled

theorem isSign_signOf (cs : List Char) : IsSign (signOf cs) := by
  unfold signOf
  split
  · exact .inr (.inr rfl)
  · exact .inr (.inl rfl)
  · exact .inl rfl

theorem isDecimal_of_numberOf? (hnumber : numberOf? cs = some spelling) : IsDecimal spelling := by
  simp only [numberOf?] at hnumber
  split at hnumber
  · cases hnumber
  · next hsome =>
    cases hnumber
    exact ⟨_, _, isSign_signOf cs, isMagnitude_unsignedOf (by simpa using hsome), rfl⟩

theorem isCut_number (hcs : IsDecimal cs) : Token.IsCut (.number cs) := by
  constructor
  · unfold firstToken
    rw [Token.chars_number, numberOf?_decimal hcs]
    rfl
  · exact fun c hc => hcs.isBlank_eq_false c (List.mem_of_mem_head? hc)
  · exact fun c hc => hcs.isBlank_eq_false c (List.mem_of_mem_getLast? hc)

theorem isCut_quoted (hquote : isQuote quote = true) {body : List Char} (hbody : quote ∉ body) :
    Token.IsCut (.quoted quote body) := by
  have hmark : quote = '\x27' ∨ quote = '\x22' := by simpa [isQuote] using hquote
  constructor
  · have hnumber : numberOf? (quote :: body ++ [quote]) = none := by
      rcases hmark with rfl | rfl <;> simp [numberOf?, signOf, unsignedOf, digitsOf]
    have hquoted : quotedToken? (quote :: body ++ [quote]) = some (.quoted quote body) := by
      rw [isQuote] at hquote
      rw [List.cons_append, quotedToken?, if_pos hquote, takeWhile_ne_append hbody]
      simp
    unfold firstToken
    rw [Token.chars_quoted, hnumber, hquoted]
    rfl
  · rintro c ⟨⟩
    rcases hmark with rfl | rfl <;> decide
  · intro c hc
    have hlast : (Token.quoted quote body).chars.getLast? = some quote := by
      rw [Token.chars_quoted, List.getLast?_append_of_ne_nil _ (List.cons_ne_nil quote [])]
      rfl
    rw [hlast] at hc
    cases hc
    rcases hmark with rfl | rfl <;> decide

theorem isCut_of_quotedToken? (hquoted : quotedToken? cs = some token) : token.IsCut := by
  cases cs with
  | nil => cases hquoted
  | cons c cs =>
      simp only [quotedToken?] at hquoted
      split at hquoted
      · next hquote =>
        split at hquoted
        · cases hquoted
          apply isCut_quoted hquote
          intro hc
          simpa using List.mem_takeWhile_imp hc
        · cases hquoted
      · cases hquoted

theorem isCut_of_signToken? (hsign : signToken? cs = some token) : token.IsCut := by
  unfold signToken? at hsign
  split at hsign <;> cases hsign <;>
    exact Token.isCut_of_ends (by decide) (by decide) (by decide)

theorem isCut_of_tokenOfWord (hword : tokenOfWord cs = .ok token) : token.IsCut := by
  unfold tokenOfWord at hword
  split at hword <;> cases hword <;>
    exact Token.isCut_of_ends (by decide) (by decide) (by decide)

theorem isCut_of_firstToken (hfound : firstToken cs = some (.ok token)) : token.IsCut := by
  unfold firstToken at hfound
  split at hfound
  · next spelling hnumber =>
    cases hfound
    exact isCut_number (isDecimal_of_numberOf? hnumber)
  · split at hfound
    · next found _ hquoted =>
      cases hfound
      exact isCut_of_quotedToken? hquoted
    · next found _ hsign =>
      cases hfound
      exact isCut_of_signToken? hsign
    · split at hfound
      · split at hfound
        · exact isCut_of_tokenOfWord (Option.some.inj hfound)
        · cases hfound
      · cases hfound

end Cut

/-! ## Tokens with blanks around them -/

/-- Nothing but blanks. -/
def AllBlank (cs : List Char) : Prop := ∀ c ∈ cs, isBlank c = true

/-- Blanks, and after them tokens, each with the blanks behind it. -/
structure Spacing where
  before : List Char
  parts : List (Token × List Char)
  allBlank_before : AllBlank before
  allBlank_behind : ∀ part ∈ parts, AllBlank part.2

namespace Spacing

/-- The tokens and blanks of some parts. -/
def partChars (parts : List (Token × List Char)) : List Char :=
  parts.flatMap fun part => part.1.chars ++ part.2

def chars (spacing : Spacing) : List Char := spacing.before ++ partChars spacing.parts

def text (spacing : Spacing) : String := String.ofList spacing.chars

def tokens (spacing : Spacing) : List Token := spacing.parts.map Prod.fst

/-- A blank stands between any two tokens. -/
def Separated (spacing : Spacing) : Prop := ∀ part ∈ spacing.parts.dropLast, part.2 ≠ []

/-- A blank more in front. -/
def afterBlank (spacing : Spacing) (c : Char) (hblank : isBlank c = true) : Spacing where
  before := c :: spacing.before
  parts := spacing.parts
  allBlank_before := List.forall_mem_cons.mpr ⟨hblank, spacing.allBlank_before⟩
  allBlank_behind := spacing.allBlank_behind

/-- A token more in front. -/
def afterToken (spacing : Spacing) (token : Token) : Spacing where
  before := []
  parts := (token, spacing.before) :: spacing.parts
  allBlank_before := by simp [AllBlank]
  allBlank_behind := List.forall_mem_cons.mpr ⟨spacing.allBlank_before, spacing.allBlank_behind⟩

variable {spacing : Spacing}

@[simp] theorem chars_afterBlank (c : Char) (hblank : isBlank c = true) :
    (spacing.afterBlank c hblank).chars = c :: spacing.chars := rfl

@[simp] theorem chars_afterToken (token : Token) :
    (spacing.afterToken token).chars = token.chars ++ spacing.chars := by
  simp [chars, partChars, afterToken]

@[simp] theorem tokens_afterBlank (c : Char) (hblank : isBlank c = true) :
    (spacing.afterBlank c hblank).tokens = spacing.tokens := rfl

@[simp] theorem tokens_afterToken (token : Token) :
    (spacing.afterToken token).tokens = token :: spacing.tokens := rfl

theorem partChars_concat (parts : List (Token × List Char)) (token : Token) (behind : List Char) :
    partChars (parts ++ [(token, behind)]) = partChars parts ++ (token.chars ++ behind) := by
  simp [partChars]

end Spacing

/-! ## Nothing is lost -/

section Cutting

variable {last position skip : Nat} {cs rest : List Char} {found others : List Token}
variable {token : Token}

theorem Token.IsCut.exists_cons (hcut : token.IsCut) :
    ∃ c cs, token.chars = c :: cs ∧ isBlank c = false := by
  cases hchars : token.chars with
  | nil =>
      have hfirst := hcut.firstToken_eq
      rw [hchars] at hfirst
      cases hfirst
  | cons c cs => exact ⟨c, cs, rfl, hcut.head c (by rw [hchars]; rfl)⟩

/-- What is cut into tokens is these tokens with blanks around them.  The characters that still
belong to the last token are left out. -/
theorem exists_spacing_of_tokensFrom (hfound : tokensFrom last position skip cs = .ok found) :
    (∃ spacing : Spacing, spacing.chars = cs.drop skip ∧ spacing.tokens = found) ∧
      ∀ token ∈ found, token.IsCut := by
  induction cs generalizing last position skip found with
  | nil =>
      cases hfound
      refine ⟨⟨⟨[], [], by simp [AllBlank], by simp⟩, ?_, rfl⟩, by simp⟩
      rw [List.drop_nil]
      rfl
  | cons c cs ih =>
      cases skip with
      | succ skip => exact ih hfound
      | zero =>
          cases hblank : isBlank c with
          | true =>
              rw [tokensFrom_of_blank hblank] at hfound
              obtain ⟨⟨spacing, hchars, htokens⟩, hcut⟩ := ih hfound
              exact ⟨⟨spacing.afterBlank c hblank, by simp [hchars], by simp [htokens]⟩, hcut⟩
          | false =>
              obtain ⟨token, others, htoken, hothers, rfl⟩ :=
                exists_token_of_tokensFrom hblank hfound
              obtain ⟨⟨spacing, hchars, htokens⟩, hcut⟩ := ih hothers
              have hfirst := isCut_of_firstToken htoken
              obtain ⟨first, more, hmore, -⟩ := hfirst.exists_cons
              obtain ⟨later, hlater⟩ := firstToken_isPrefix htoken
              refine ⟨⟨spacing.afterToken token, ?_, by simp [htokens]⟩, ?_⟩
              · rw [hmore, List.cons_append] at hlater
                obtain ⟨rfl, rfl⟩ := List.cons.inj hlater
                simp [hchars, hmore]
              · exact List.forall_mem_cons.mpr ⟨hfirst, hcut⟩

/-! ## Spacing does not matter -/

theorem tokensFrom_blanks_append (hblank : AllBlank cs)
    (hfound : tokensFrom 0 0 0 rest = .ok found) :
    tokensFrom 0 0 0 (cs ++ rest) = .ok found := by
  induction cs with
  | nil => exact hfound
  | cons c cs ih =>
      obtain ⟨hfirst, hothers⟩ := List.forall_mem_cons.mp hblank
      rw [List.cons_append, tokensFrom_of_blank hfirst]
      exact tokensFrom_of_places (ih hothers) _ _

theorem tokensFrom_chars (hcut : token.IsCut) : tokensFrom 0 0 0 token.chars = .ok [token] := by
  have hfirst := hcut.firstToken_eq
  obtain ⟨c, cs, hchars, hblank⟩ := hcut.exists_cons
  rw [hchars] at hfirst ⊢
  rw [tokensFrom_of_token hblank hfirst, hchars, List.length_cons, Nat.add_sub_cancel,
    tokensFrom_of_rest]
  rfl

/-- A token ends where its characters end if blanks or nothing come behind them. -/
theorem endsTokens_blanks_append (hblank : AllBlank cs) (hcs : cs = [] → rest = []) :
    EndsTokens (cs ++ rest) := by
  cases cs with
  | nil =>
      rw [hcs rfl]
      rintro c ⟨⟩
  | cons c cs =>
      rintro c ⟨⟩
      exact lengthens_of_isBlank (hblank c (by simp))

theorem tokensFrom_partChars {parts : List (Token × List Char)}
    (hcut : ∀ part ∈ parts, part.1.IsCut) (hblank : ∀ part ∈ parts, AllBlank part.2)
    (hseparated : ∀ part ∈ parts.dropLast, part.2 ≠ []) :
    tokensFrom 0 0 0 (Spacing.partChars parts) = .ok (parts.map Prod.fst) := by
  induction parts with
  | nil => rfl
  | cons part parts ih =>
      rw [List.forall_mem_cons] at hcut hblank
      have hlater := ih hcut.2 hblank.2 fun other hother =>
        hseparated other (by
          cases parts with
          | nil => cases hother
          | cons next parts => exact List.mem_cons_of_mem part hother)
      have hends : EndsTokens (part.2 ++ Spacing.partChars parts) := by
        apply endsTokens_blanks_append hblank.1
        intro hnone
        cases parts with
        | nil => rfl
        | cons next parts => exact absurd hnone (hseparated part (by simp))
      have hwhole := tokensFrom_append (tokensFrom_chars hcut.1) (Nat.zero_le _) hends
        (tokensFrom_blanks_append hblank.1 hlater)
      simpa [Spacing.partChars] using hwhole

end Cutting

/-! ## Conditions -/

section Conditions

variable {condition : String} {cs behind : List Char} {found : List Token} {spacing : Spacing}

theorem dropBlankEnd_append_blanks (hblank : AllBlank behind) (cs : List Char) :
    dropBlankEnd (cs ++ behind) = dropBlankEnd cs := by
  have hreverse : ∀ c ∈ behind.reverse, isBlank c = true :=
    fun c hc => hblank c (List.mem_reverse.mp hc)
  rw [dropBlankEnd, List.reverse_append, List.dropWhile_append_of_pos hreverse, dropBlankEnd]

theorem dropBlankEnd_eq_self (hlast : ∀ c ∈ cs.getLast?, isBlank c = false) :
    dropBlankEnd cs = cs := by
  rw [dropBlankEnd, dropWhile_eq_self, List.reverse_reverse]
  rwa [List.head?_reverse]

/-- The blanks behind the last token may be dropped. -/
theorem tokensFrom_dropBlankEnd {before : List Char} {parts : List (Token × List Char)}
    (hbefore : AllBlank before) (hbehind : ∀ part ∈ parts, AllBlank part.2)
    (hcut : ∀ part ∈ parts, part.1.IsCut) (hseparated : ∀ part ∈ parts.dropLast, part.2 ≠ []) :
    tokensFrom 0 0 0 (dropBlankEnd (before ++ Spacing.partChars parts)) =
      .ok (parts.map Prod.fst) := by
  rcases List.eq_nil_or_concat' parts with rfl | ⟨parts, ⟨token, behind⟩, rfl⟩
  · have hnone : dropBlankEnd before = [] := dropBlankEnd_append_blanks hbefore []
    rw [Spacing.partChars, List.flatMap_nil, List.append_nil, hnone]
    rfl
  · rw [List.dropLast_concat] at hseparated
    simp only [List.forall_mem_append, List.forall_mem_singleton] at hbehind hcut
    have hlast : ∀ c ∈ (before ++ (Spacing.partChars parts ++ token.chars)).getLast?,
        isBlank c = false := by
      obtain ⟨c, cs, hchars, -⟩ := hcut.2.exists_cons
      have hsome : token.chars ≠ [] := by rw [hchars]; exact List.cons_ne_nil c cs
      rw [← List.append_assoc, List.getLast?_append_of_ne_nil _ hsome]
      exact hcut.2.last
    have hdrop : dropBlankEnd (before ++ Spacing.partChars (parts ++ [(token, behind)])) =
        before ++ Spacing.partChars (parts ++ [(token, [])]) := by
      rw [Spacing.partChars_concat, Spacing.partChars_concat, List.append_nil,
        ← List.append_assoc, ← List.append_assoc, dropBlankEnd_append_blanks hbehind.2,
        List.append_assoc, dropBlankEnd_eq_self hlast]
    have htokens : tokensFrom 0 0 0 (Spacing.partChars (parts ++ [(token, [])])) =
        .ok ((parts ++ [(token, [])]).map Prod.fst) := by
      apply tokensFrom_partChars
      · simp only [List.forall_mem_append, List.forall_mem_singleton]
        exact hcut
      · simp only [List.forall_mem_append, List.forall_mem_singleton]
        exact ⟨hbehind.1, by simp [AllBlank]⟩
      · rwa [List.dropLast_concat]
    rw [hdrop, tokensFrom_blanks_append hbefore htokens]
    simp

theorem isAllowed_of_isBlank {c : Char} (hblank : isBlank c = true) : isAllowed c = true := by
  simp [isAllowed, hblank]

theorem mem_chars_of_mem_tokens {token : Token} (htoken : token ∈ spacing.tokens) :
    ∀ c ∈ token.chars, c ∈ spacing.chars := by
  intro c hc
  obtain ⟨part, hpart, rfl⟩ := List.mem_map.mp htoken
  simp only [Spacing.chars, Spacing.partChars, List.mem_append, List.mem_flatMap]
  exact .inr ⟨part, hpart, .inl hc⟩

theorem exists_spacing_of_tokens (hfound : tokens condition = .ok found) :
    ∃ spacing : Spacing, spacing.text = condition ∧ spacing.tokens = found := by
  obtain ⟨-, hcut⟩ := tokensFrom_of_tokens hfound
  obtain ⟨⟨spacing, hchars, htokens⟩, -⟩ := exists_spacing_of_tokensFrom hcut
  refine ⟨spacing, ?_, htokens⟩
  rw [Spacing.text, hchars, List.drop_zero, String.ofList_toList]

/-- All characters of a spacing may stand in a condition if those of its tokens do. -/
theorem all_isAllowed_chars (hallowed : ∀ token ∈ spacing.tokens, ∀ c ∈ token.chars, isAllowed c) :
    spacing.chars.all isAllowed = true := by
  rw [List.all_eq_true]
  intro c hc
  simp only [Spacing.chars, Spacing.partChars, List.mem_append, List.mem_flatMap] at hc
  rcases hc with hbefore | ⟨part, hpart, htoken | hbehind⟩
  · exact isAllowed_of_isBlank (spacing.allBlank_before c hbefore)
  · exact hallowed part.1 (List.mem_map_of_mem hpart) c htoken
  · exact isAllowed_of_isBlank (spacing.allBlank_behind part hpart c hbehind)

theorem tokens_text (hfound : tokens condition = .ok spacing.tokens)
    (hseparated : spacing.Separated) : tokens spacing.text = .ok spacing.tokens := by
  obtain ⟨hallowed, hcutting⟩ := tokensFrom_of_tokens hfound
  obtain ⟨⟨first, hchars, htokens⟩, hcut⟩ := exists_spacing_of_tokensFrom hcutting
  rw [List.all_eq_true] at hallowed
  have hall : spacing.chars.all isAllowed = true := by
    apply all_isAllowed_chars
    intro token htoken c hc
    rw [← htokens] at htoken
    apply hallowed
    rw [← List.drop_zero (l := condition.toList), ← hchars]
    exact mem_chars_of_mem_tokens htoken c hc
  rw [tokens, Spacing.text, String.toList_ofList, if_pos hall]
  exact tokensFrom_dropBlankEnd spacing.allBlank_before spacing.allBlank_behind
    (fun part hpart => hcut part.1 (List.mem_map_of_mem hpart)) hseparated

/-- A condition that has tokens is these tokens with blanks around them, and has the same tokens in
any other spacing that keeps them apart. -/
theorem tokens_respaced (hfound : tokens condition = .ok found) :
    (∃ spacing : Spacing, spacing.text = condition ∧ spacing.tokens = found) ∧
      ∀ spacing : Spacing, spacing.tokens = found → spacing.Separated →
        tokens spacing.text = .ok found := by
  refine ⟨exists_spacing_of_tokens hfound, ?_⟩
  rintro spacing rfl hseparated
  exact tokens_text hfound hseparated

/-- Without blanks a point and a sign start a new number, and with blanks they still do. -/
theorem tokens_respaced_numbers :
    let found : List Token := [.not, .value, .number "-1.5".toList, .number ".5".toList,
      .comparison .lessOrEqual, .quoted '\x22' " ' ".toList]
    let spacing : Spacing := ⟨['\n'], found.map fun token => (token, ['\t', ' ']),
      by simp [AllBlank]; decide, by simp [found, AllBlank]; decide⟩
    tokens "NOT value-1.5.5<=\x22 ' \x22" = .ok found ∧
      spacing.text = "\nNOT\t value\t -1.5\t .5\t <=\t \x22 ' \x22\t " ∧
      tokens spacing.text = .ok found := by
  intro found spacing
  have hfound : tokens "NOT value-1.5.5<=\x22 ' \x22" = .ok found := by decide +kernel
  have hseparated : spacing.Separated := by
    intro part hpart
    obtain ⟨token, -, rfl⟩ := List.mem_map.mp (List.mem_of_mem_dropLast hpart)
    simp
  exact ⟨hfound, by decide +kernel, (tokens_respaced hfound).2 spacing rfl hseparated⟩

end Conditions

end SheetAudit.Condition
