import Mathlib.Data.List.DropRight
import Mathlib.Tactic
import SheetAudit.Condition.Token
import SheetAudit.Proofs.Outcome
import SheetAudit.Proofs.PlainTexts

/-!
# Tokens of texts put together

The tokens of a text do not depend on what follows it, as long as the next character makes no token
longer: a blank and a bracket do not.  So the tokens of two texts put together are those of the
first and those of the second.
-/

namespace SheetAudit.Condition

open Outcome Text

/-- Whether a character may make a token longer that ends before it. -/
def lengthens (c : Char) : Bool := continuesWord c || c == '.' || c == '='

/-- No token that ends before some characters goes on with them. -/
def EndsTokens (rest : List Char) : Prop := ∀ c ∈ rest.head?, lengthens c = false

/-! ## The first token -/

section FirstToken

variable {c : Char} {cs rest : List Char}

theorem EndsTokens.not_digit (hrest : EndsTokens rest) : ∀ c ∈ rest.head?, c.isDigit = false := by
  intro c hc
  have hnot := hrest c hc
  simp only [lengthens, continuesWord, Char.isAlphanum, Bool.or_eq_false_iff] at hnot
  exact hnot.1.1.1.2

theorem EndsTokens.not_word (hrest : EndsTokens rest) :
    ∀ c ∈ rest.head?, continuesWord c = false := by
  intro c hc
  have hnot := hrest c hc
  simp only [lengthens, Bool.or_eq_false_iff] at hnot
  exact hnot.1.1

theorem EndsTokens.ne_point (hrest : EndsTokens rest) : ∀ c ∈ rest.head?, c ≠ '.' := by
  rintro c hc rfl
  cases hrest '.' hc

theorem EndsTokens.ne_equal (hrest : EndsTokens rest) : ∀ c ∈ rest.head?, c ≠ '=' := by
  rintro c hc rfl
  cases hrest '=' hc

theorem digitsOf_append (hrest : EndsTokens rest) (cs : List Char) :
    digitsOf (cs ++ rest) = digitsOf cs :=
  takeWhile_append_of_head cs hrest.not_digit

theorem length_digitsOf_le (cs : List Char) : (digitsOf cs).length ≤ cs.length :=
  (List.takeWhile_prefix _).length_le

theorem unsignedOf_of_point {later : List Char}
    (hpoint : cs.drop (digitsOf cs).length = '.' :: later) :
    unsignedOf cs = if (digitsOf cs).isEmpty && (digitsOf later).isEmpty then []
      else digitsOf cs ++ '.' :: digitsOf later := by
  simp only [unsignedOf, hpoint]

theorem unsignedOf_of_no_point
    (hpoint : ∀ c ∈ (cs.drop (digitsOf cs).length).head?, c ≠ '.') :
    unsignedOf cs = digitsOf cs := by
  simp only [unsignedOf]
  split
  · next later hdrop =>
    rw [hdrop] at hpoint
    exact absurd rfl (hpoint '.' rfl)
  · rfl

theorem unsignedOf_append (hrest : EndsTokens rest) (cs : List Char) :
    unsignedOf (cs ++ rest) = unsignedOf cs := by
  have hdigits := digitsOf_append hrest cs
  have hdrop : (cs ++ rest).drop (digitsOf (cs ++ rest)).length =
      cs.drop (digitsOf cs).length ++ rest := by
    rw [hdigits, List.drop_append_of_le_length (length_digitsOf_le cs)]
  cases hafter : cs.drop (digitsOf cs).length with
  | nil =>
      rw [hafter, List.nil_append] at hdrop
      rw [unsignedOf_of_no_point (by rw [hdrop]; exact hrest.ne_point),
        unsignedOf_of_no_point (by rw [hafter]; simp), hdigits]
  | cons c later =>
      rw [hafter, List.cons_append] at hdrop
      by_cases hc : c = '.'
      · subst hc
        rw [unsignedOf_of_point hdrop, unsignedOf_of_point hafter, hdigits, digitsOf_append hrest]
      · rw [unsignedOf_of_no_point (by simpa [hdrop] using hc),
          unsignedOf_of_no_point (by simpa [hafter] using hc), hdigits]

theorem signOf_cons_append (c : Char) (cs rest : List Char) :
    signOf (c :: cs ++ rest) = signOf (c :: cs) := by
  rw [List.cons_append]
  by_cases hplus : c = '+'
  · rw [hplus]; rfl
  · by_cases hminus : c = '-'
    · rw [hminus]; rfl
    · simp [signOf, hplus, hminus]

theorem length_signOf_le (cs : List Char) : (signOf cs).length ≤ cs.length := by
  unfold signOf
  split <;> simp

theorem numberOf?_cons_append (hrest : EndsTokens rest) (c : Char) (cs : List Char) :
    numberOf? (c :: cs ++ rest) = numberOf? (c :: cs) := by
  simp only [numberOf?, signOf_cons_append,
    List.drop_append_of_le_length (length_signOf_le (c :: cs)), unsignedOf_append hrest]

/-- The next character decides about a sign only if it is an equality sign. -/
theorem signToken?_cons (c : Char) (cs : List Char) :
    signToken? (c :: cs) = if cs.head? = some '=' then signToken? [c, '='] else signToken? [c] := by
  by_cases hc : c = '<' ∨ c = '>' ∨ c = '=' ∨ c = '!' ∨ c = '(' ∨ c = ')'
  · cases cs with
    | nil => simp
    | cons d later =>
        by_cases hd : d = '=' <;>
          obtain rfl | rfl | rfl | rfl | rfl | rfl := hc <;> simp [signToken?, hd]
  · simp only [not_or] at hc
    obtain ⟨hlt, hgt, hequal, hbang, hopening, hclosing⟩ := hc
    simp [signToken?, hlt, hgt, hequal, hbang, hopening, hclosing]

theorem signToken?_cons_append (hrest : EndsTokens rest) (c : Char) (cs : List Char) :
    signToken? (c :: cs ++ rest) = signToken? (c :: cs) := by
  have hhead : (cs ++ rest).head? = some '=' ↔ cs.head? = some '=' := by
    cases cs with
    | nil =>
        constructor
        · intro hequal
          exact absurd rfl (hrest.ne_equal '=' hequal)
        · intro hequal
          cases hequal
    | cons d later => rfl
  rw [List.cons_append, signToken?_cons, signToken?_cons c cs]
  simp only [hhead]

theorem quotedToken?_cons_append {token : Token} (hquoted : quotedToken? (c :: cs) = some token)
    (rest : List Char) : quotedToken? (c :: cs ++ rest) = some token := by
  simp only [quotedToken?, List.cons_append] at hquoted ⊢
  split at hquoted
  · next hquote =>
    split at hquoted
    · next hclosed =>
      have hbody : (cs ++ rest).takeWhile (· != c) = cs.takeWhile (· != c) := by
        rw [List.takeWhile_append, if_neg (by omega)]
      rw [if_pos hquote, hbody, if_pos (by rw [List.length_append]; omega)]
      exact hquoted
    · cases hquoted
  · cases hquoted

/-- Whether a character is a quote. -/
def isQuote (c : Char) : Bool := c == '\x27' || c == '\x22'

theorem quotedToken?_of_not_quote (hquote : isQuote c = false) (cs : List Char) :
    quotedToken? (c :: cs) = none := by
  rw [isQuote] at hquote
  simp only [quotedToken?, hquote, Bool.false_eq_true, if_false]

theorem signToken?_of_quote (hquote : isQuote c = true) (cs : List Char) :
    signToken? (c :: cs) = none := by
  simp only [isQuote, Bool.or_eq_true, beq_iff_eq] at hquote
  obtain rfl | rfl := hquote <;> rfl

theorem startsWord_of_quote (hquote : isQuote c = true) : startsWord c = false := by
  simp only [isQuote, Bool.or_eq_true, beq_iff_eq] at hquote
  obtain rfl | rfl := hquote <;> rfl

/-- The first token of a text, if it has one, is not changed by what follows the text. -/
theorem firstToken_cons_append (hrest : EndsTokens rest) {found : Except Error Token}
    (hfound : firstToken (c :: cs) = some found) :
    firstToken (c :: cs ++ rest) = some found := by
  unfold firstToken at hfound ⊢
  rw [numberOf?_cons_append hrest]
  cases hnumber : numberOf? (c :: cs) with
  | some spelling => rwa [hnumber] at hfound
  | none =>
      rw [hnumber] at hfound
      cases hquoted : quotedToken? (c :: cs) with
      | some token =>
          rw [hquoted] at hfound
          simp only [quotedToken?_cons_append hquoted rest]
          exact hfound
      | none =>
          rw [hquoted] at hfound
          rw [signToken?_cons_append hrest]
          cases hquote : isQuote c with
          | true =>
              simp only [signToken?_of_quote hquote, startsWord_of_quote hquote] at hfound
              cases hfound
          | false =>
              have hword : (c :: (cs ++ rest)).takeWhile continuesWord =
                  (c :: cs).takeWhile continuesWord :=
                takeWhile_append_of_head (c :: cs) hrest.not_word
              rw [List.cons_append, quotedToken?_of_not_quote hquote]
              simp only [hword]
              exact hfound

/-! ## The characters of the first token -/

theorem append_isPrefix_of_drop {start more : List Char} (hstart : start <+: cs)
    (hmore : more <+: cs.drop start.length) : start ++ more <+: cs := by
  obtain ⟨later, rfl⟩ := hstart
  rw [List.drop_left] at hmore
  exact (List.prefix_append_right_inj start).mpr hmore

theorem unsignedOf_isPrefix (cs : List Char) : unsignedOf cs <+: cs := by
  have hdigits : digitsOf cs <+: cs := List.takeWhile_prefix _
  cases hafter : cs.drop (digitsOf cs).length with
  | nil => rwa [unsignedOf_of_no_point (by simp [hafter])]
  | cons c later =>
      by_cases hc : c = '.'
      · subst hc
        rw [unsignedOf_of_point hafter]
        split
        · exact List.nil_prefix
        · apply append_isPrefix_of_drop hdigits
          rw [hafter, List.cons_prefix_cons]
          exact ⟨rfl, List.takeWhile_prefix _⟩
      · rwa [unsignedOf_of_no_point (by simpa [hafter] using hc)]

theorem signOf_isPrefix (cs : List Char) : signOf cs <+: cs := by
  unfold signOf
  split
  · simp
  · simp
  · exact List.nil_prefix

theorem Token.chars_number (spelling : List Char) : (Token.number spelling).chars = spelling := rfl

theorem Token.chars_quoted (quote : Char) (body : List Char) :
    (Token.quoted quote body).chars = quote :: body ++ [quote] := rfl

theorem numberOf?_isPrefix {spelling : List Char} (hnumber : numberOf? cs = some spelling) :
    spelling <+: cs := by
  simp only [numberOf?] at hnumber
  split at hnumber
  · cases hnumber
  · cases hnumber
    exact append_isPrefix_of_drop (signOf_isPrefix cs) (unsignedOf_isPrefix _)

theorem quotedToken?_isPrefix {token : Token} (hquoted : quotedToken? cs = some token) :
    token.chars <+: cs := by
  cases cs with
  | nil => cases hquoted
  | cons c cs =>
      simp only [quotedToken?] at hquoted
      split at hquoted
      · split at hquoted
        · next hclosed =>
          cases hquoted
          have hbody := List.takeWhile_append_dropWhile (p := (· != c)) (l := cs)
          cases hafter : cs.dropWhile (· != c) with
          | nil =>
              rw [hafter, List.append_nil] at hbody
              rw [hbody] at hclosed
              exact absurd hclosed (lt_irrefl _)
          | cons d later =>
              have hd : d = c := by
                have hstop := List.head?_dropWhile_not (· != c) cs
                rw [hafter] at hstop
                simpa using hstop
              subst hd
              rw [hafter] at hbody
              rw [Token.chars_quoted, List.cons_append, List.cons_prefix_cons]
              refine ⟨rfl, later, ?_⟩
              rw [List.append_assoc]
              exact hbody
        · cases hquoted
      · cases hquoted

theorem signToken?_isPrefix {token : Token} (hsign : signToken? cs = some token) :
    token.chars <+: cs := by
  unfold signToken? at hsign
  split at hsign <;> cases hsign <;> exact ⟨_, rfl⟩

theorem chars_of_tokenOfWord {word : List Char} {token : Token}
    (hword : tokenOfWord word = .ok token) : token.chars = word := by
  have hchars (text : String) (htext : String.ofList word = text) : text.toList = word := by
    rw [← htext, String.toList_ofList]
  unfold tokenOfWord at hword
  split at hword <;> cases hword <;> exact hchars _ ‹_›

theorem firstToken_isPrefix {token : Token} (hfound : firstToken cs = some (.ok token)) :
    token.chars <+: cs := by
  unfold firstToken at hfound
  split at hfound
  · next spelling hnumber =>
    cases hfound
    exact numberOf?_isPrefix hnumber
  · split at hfound
    · next found _ hquoted =>
      cases hfound
      exact quotedToken?_isPrefix hquoted
    · next found _ hsign =>
      cases hfound
      exact signToken?_isPrefix hsign
    · split at hfound
      · split at hfound
        · rw [chars_of_tokenOfWord (Option.some.inj hfound)]
          exact List.takeWhile_prefix _
        · cases hfound
      · cases hfound

end FirstToken

/-! ## All tokens -/

section Cutting

variable {last position skip : Nat} {c : Char} {cs rest : List Char} {found others : List Token}

theorem tokensFrom_of_blank (hblank : isBlank c = true) :
    tokensFrom last position 0 (c :: cs) = tokensFrom last (position + 1) 0 cs := by
  rw [tokensFrom, if_pos hblank]

theorem tokensFrom_of_token (hblank : isBlank c = false) {token : Token}
    (htoken : firstToken (c :: cs) = some (.ok token)) :
    tokensFrom last position 0 (c :: cs) = (do
      let others ← tokensFrom (position + token.chars.length) (position + 1)
        (token.chars.length - 1) cs
      pure (token :: others)) := by
  rw [tokensFrom, hblank, htoken]
  rfl

theorem exists_token_of_tokensFrom (hblank : isBlank c = false)
    (hfound : tokensFrom last position 0 (c :: cs) = .ok found) :
    ∃ token others, firstToken (c :: cs) = some (.ok token) ∧
      tokensFrom (position + token.chars.length) (position + 1) (token.chars.length - 1) cs =
        .ok others ∧ found = token :: others := by
  rw [tokensFrom, hblank] at hfound
  cases hfirst : firstToken (c :: cs) with
  | none =>
      rw [hfirst] at hfound
      cases hfound
  | some outcome =>
      rw [hfirst] at hfound
      obtain ⟨token, rfl, hafter⟩ := bind_eq_ok_iff.mp hfound
      obtain ⟨others, hothers, hall⟩ := bind_eq_ok_iff.mp hafter
      cases hall
      exact ⟨token, others, rfl, hothers, rfl⟩

/-- The places only matter for errors. -/
theorem tokensFrom_of_places (hfound : tokensFrom last position skip cs = .ok found)
    (last' position' : Nat) : tokensFrom last' position' skip cs = .ok found := by
  induction cs generalizing last position skip found last' position' with
  | nil => exact hfound
  | cons c cs ih =>
      cases skip with
      | succ skip => exact ih hfound _ _
      | zero =>
          cases hblank : isBlank c with
          | true =>
              rw [tokensFrom_of_blank hblank] at hfound ⊢
              exact ih hfound _ _
          | false =>
              obtain ⟨token, others, htoken, hothers, rfl⟩ :=
                exists_token_of_tokensFrom hblank hfound
              rw [tokensFrom_of_token hblank htoken, ih hothers _ _]
              rfl

/-- The tokens of two texts put together, where the second text makes no token of the first
longer.  The induction is on the first text, whose tokens are not changed by the second. -/
theorem tokensFrom_append (hfound : tokensFrom last position skip cs = .ok found)
    (hskip : skip ≤ cs.length) (hrest : EndsTokens rest)
    (hothers : tokensFrom 0 0 0 rest = .ok others) :
    tokensFrom last position skip (cs ++ rest) = .ok (found ++ others) := by
  induction cs generalizing last position skip found with
  | nil =>
      obtain rfl : skip = 0 := Nat.le_zero.mp hskip
      cases hfound
      exact tokensFrom_of_places hothers _ _
  | cons c cs ih =>
      rw [List.length_cons] at hskip
      cases skip with
      | succ skip => exact ih hfound (Nat.le_of_succ_le_succ hskip)
      | zero =>
          cases hblank : isBlank c with
          | true =>
              rw [List.cons_append, tokensFrom_of_blank hblank]
              rw [tokensFrom_of_blank hblank] at hfound
              exact ih hfound (Nat.zero_le _)
          | false =>
              obtain ⟨token, after, htoken, hafter, rfl⟩ :=
                exists_token_of_tokensFrom hblank hfound
              have hlength := (firstToken_isPrefix htoken).length_le
              rw [List.length_cons] at hlength
              have hfirst := firstToken_cons_append hrest htoken
              rw [List.cons_append] at hfirst ⊢
              rw [tokensFrom_of_token hblank hfirst, ih hafter (by omega)]
              rfl

theorem tokensFrom_of_rest (cs : List Char) : tokensFrom last position cs.length cs = .ok [] := by
  induction cs generalizing position with
  | nil => rfl
  | cons c cs ih => exact ih

theorem tokensFrom_of_single (hblank : isBlank c = false) {token : Token}
    (htoken : firstToken (c :: cs) = some (.ok token)) (hsize : token.chars.length = 1)
    (hothers : tokensFrom 0 0 0 cs = .ok others) :
    tokensFrom 0 0 0 (c :: cs) = .ok (token :: others) := by
  rw [tokensFrom_of_token hblank htoken, hsize, Nat.sub_self, tokensFrom_of_places hothers]
  rfl

/-- The tokens of a text in brackets, and of what follows it, are not changed by the brackets. -/
theorem tokensFrom_brackets (hfound : tokensFrom 0 0 0 cs = .ok found)
    (hothers : tokensFrom 0 0 0 rest = .ok others) :
    tokensFrom 0 0 0 ('(' :: (cs ++ ')' :: rest)) =
      .ok (.opening :: (found ++ .closing :: others)) := by
  have hclosing : tokensFrom 0 0 0 (')' :: rest) = .ok (.closing :: others) :=
    tokensFrom_of_single (by decide) rfl rfl hothers
  have hends : EndsTokens (')' :: rest) := by
    intro c hc
    cases hc
    rfl
  have hinner := tokensFrom_append hfound (Nat.zero_le _) hends hclosing
  exact tokensFrom_of_single (by decide) rfl rfl hinner

end Cutting

/-! ## Texts -/

theorem toNat_of_lengthens {c : Char} (hlong : lengthens c = true) :
    46 ≤ c.toNat ∧ c.toNat ≤ 122 := by
  simp only [lengthens, continuesWord, Bool.or_eq_true, beq_iff_eq] at hlong
  obtain ((hword | rfl) | rfl) | rfl := hlong
  · have hcode := toNat_of_isAlphanum hword
    omega
  · decide
  · decide
  · decide

theorem lengthens_of_isBlank {c : Char} (hblank : isBlank c = true) : lengthens c = false := by
  have hside := toNat_of_isBlank hblank
  by_contra hlong
  have hmiddle := toNat_of_lengthens (Bool.eq_true_of_not_eq_false hlong)
  omega

theorem tokensFrom_of_blanks {cs : List Char} (hblank : ∀ c ∈ cs, isBlank c = true) :
    tokensFrom 0 0 0 cs = .ok [] := by
  induction cs with
  | nil => rfl
  | cons c cs ih =>
      rw [List.forall_mem_cons] at hblank
      rw [tokensFrom_of_blank hblank.1]
      exact tokensFrom_of_places (ih hblank.2) _ _

/-- The tokens of two texts with a blank between them. -/
theorem tokensFrom_spaced {cs rest : List Char} {found others : List Token}
    (hfound : tokensFrom 0 0 0 cs = .ok found) (hothers : tokensFrom 0 0 0 rest = .ok others) :
    tokensFrom 0 0 0 (cs ++ ' ' :: rest) = .ok (found ++ others) := by
  have hends : EndsTokens (' ' :: rest) := by
    rintro c ⟨⟩
    rfl
  apply tokensFrom_append hfound (Nat.zero_le _) hends
  rw [tokensFrom_of_blank (by decide)]
  exact tokensFrom_of_places hothers _ _

/-- The blanks at the end of a condition may stay. -/
theorem tokensFrom_of_tokens {condition : String} {found : List Token}
    (hfound : tokens condition = .ok found) :
    condition.toList.all isAllowed = true ∧ tokensFrom 0 0 0 condition.toList = .ok found := by
  rw [tokens] at hfound
  split at hfound
  · next hallowed =>
    refine ⟨hallowed, ?_⟩
    have hblanks : ∀ c ∈ condition.toList.rtakeWhile isBlank, isBlank c = true :=
      fun c hc => List.mem_rtakeWhile_imp hc
    have hends : EndsTokens (condition.toList.rtakeWhile isBlank) := by
      intro c hc
      exact lengthens_of_isBlank (hblanks c (List.mem_of_mem_head? hc))
    have hwhole := tokensFrom_append hfound (Nat.zero_le _) hends (tokensFrom_of_blanks hblanks)
    rw [List.append_nil] at hwhole
    rwa [← List.rdropWhile_append_rtakeWhile (p := isBlank) (l := condition.toList)]
  · cases hfound

end SheetAudit.Condition
