import SheetAudit.Proofs.FieldArea
import SheetAudit.Proofs.PlainTexts

/-!
# Addresses and their texts

The letters of a column are the digits of its number in base 26 without a zero, so reading letters
and writing them are inverse to each other.  An address is read from every text that consists of
capital letters and digits which are not all zero, and its own text is that text without the zeros
in front of the digits.
-/

namespace SheetAudit

open Text Outcome

/-! ## Column letters -/

section Letters

variable {cs : List Char} {value number : Nat}

theorem toNat_columnLetter (hvalue : value < 26) : (columnLetter value).toNat = 65 + value := by
  have hvalid : (65 + value).isValidChar := Or.inl (by omega)
  rw [columnLetter, Char.ofNat, dif_pos hvalid]
  rfl

theorem isUpper_columnLetter (hvalue : value < 26) : (columnLetter value).isUpper = true := by
  have hcode := toNat_columnLetter hvalue
  have hcapital : 65 ≤ (columnLetter value).toNat ∧ (columnLetter value).toNat ≤ 90 := by omega
  exact decide_eq_true hcapital

theorem letterValue_columnLetter (hvalue : value < 26) :
    letterValue (columnLetter value) = value + 1 := by
  rw [letterValue, toNat_columnLetter hvalue]
  push_cast
  ring

theorem columnLetter_of_isUpper {c : Char} (hupper : c.isUpper = true) :
    columnLetter (c.toNat - 65) = c := by
  have hcode := toNat_of_isUpper hupper
  apply Char.toNat_inj.mp
  rw [toNat_columnLetter (by omega)]
  omega

/-- The last letter of a column comes first, those before it are the letters of a smaller number. -/
theorem lettersBefore_step (found : List Char) (hvalue : value < 26) :
    lettersBefore found (number * 26 + (value + 1)) =
      lettersBefore (columnLetter value :: found) number := by
  have hlast : (number * 26 + (value + 1) - 1) % 26 = value := by omega
  have hothers : (number * 26 + (value + 1) - 1) / 26 = number := by omega
  rw [lettersBefore, dif_neg (by omega), hlast, hothers]

theorem exists_letter_step (hnumber : number ≠ 0) :
    ∃ others value, value < 26 ∧ others < number ∧ number = others * 26 + (value + 1) :=
  ⟨(number - 1) / 26, (number - 1) % 26, by omega, by omega, by omega⟩

theorem lettersBefore_eq_append (found : List Char) (number : Nat) :
    lettersBefore found number = lettersBefore [] number ++ found := by
  induction number using Nat.strong_induction_on generalizing found with
  | _ number ih =>
      by_cases hnumber : number = 0
      · subst hnumber
        simp [lettersBefore]
      · obtain ⟨others, value, hvalue, hless, rfl⟩ := exists_letter_step hnumber
        rw [lettersBefore_step found hvalue, lettersBefore_step [] hvalue, ih others hless,
          ih others hless [columnLetter value], List.append_assoc, List.singleton_append]

/-- Reading the letters of a number gives the number. -/
theorem lettersValue_lettersBefore (number : Nat) :
    lettersValue (lettersBefore [] number) = number ∧
      ∀ c ∈ lettersBefore [] number, c.isUpper = true := by
  induction number using Nat.strong_induction_on with
  | _ number ih =>
      by_cases hnumber : number = 0
      · subst hnumber
        simp [lettersBefore, lettersValue]
      · obtain ⟨others, value, hvalue, hless, rfl⟩ := exists_letter_step hnumber
        obtain ⟨hread, hupper⟩ := ih others hless
        rw [lettersBefore_step [] hvalue, lettersBefore_eq_append]
        constructor
        · unfold lettersValue at hread ⊢
          rw [List.foldl_append, hread, List.foldl_cons, List.foldl_nil,
            letterValue_columnLetter hvalue]
          push_cast
          ring
        · intro c hc
          rcases List.mem_append.mp hc with hbefore | hlast
          · exact hupper c hbefore
          · rw [List.mem_singleton.mp hlast]
            exact isUpper_columnLetter hvalue

theorem lettersBefore_foldl (hupper : ∀ c ∈ cs, c.isUpper = true) (seen : Nat) :
    lettersBefore [] (cs.foldl (fun total c => total * 26 + letterValue c) (seen : Int)).toNat =
      lettersBefore [] seen ++ cs := by
  induction cs generalizing seen with
  | nil => simp
  | cons c cs ih =>
      have hcapital := hupper c (by simp)
      have hcode := toNat_of_isUpper hcapital
      have hvalue : c.toNat - 65 < 26 := by omega
      have hnext : (seen : Int) * 26 + letterValue c =
          ((seen * 26 + (c.toNat - 65 + 1) : Nat) : Int) := by
        unfold letterValue
        omega
      rw [List.foldl_cons, hnext, ih fun other hother => hupper other (by simp [hother]),
        lettersBefore_step [] hvalue, lettersBefore_eq_append, columnLetter_of_isUpper hcapital,
        List.append_assoc, List.singleton_append]

/-- Writing the number that letters denote gives the letters. -/
theorem lettersBefore_lettersValue (hupper : ∀ c ∈ cs, c.isUpper = true) :
    lettersBefore [] (lettersValue cs).toNat = cs := by
  have hnone : lettersBefore [] 0 = [] := by simp [lettersBefore]
  have hletters := lettersBefore_foldl hupper 0
  rwa [hnone, List.nil_append] at hletters

end Letters

/-! ## Texts in the form of an address -/

namespace Address

/-- A text in the form of an address: blanks at its ends aside, one or more capital letters and
then one or more digits. -/
structure WrittenAs (s : String) (letters digits : List Char) : Prop where
  trimmed : trimChars s.toList = letters ++ digits
  letters_ne : letters ≠ []
  digits_ne : digits ≠ []
  isUpper : ∀ c ∈ letters, c.isUpper = true
  isDigit : ∀ c ∈ digits, c.isDigit = true

variable {s s' : String} {letters digits letters' digits' : List Char} {address address' : Address}

/-- The letters end where the digits begin. -/
theorem takeWhile_letters (hupper : ∀ c ∈ letters, c.isUpper = true)
    (hdigit : ∀ c ∈ digits, c.isDigit = true) :
    (letters ++ digits).takeWhile Char.isUpper = letters ∧
      (letters ++ digits).dropWhile Char.isUpper = digits := by
  have hends : ∀ c ∈ digits.head?, c.isUpper = false :=
    fun c hc => not_isUpper_of_isDigit (hdigit c (List.mem_of_mem_head? hc))
  have hletters : letters.takeWhile Char.isUpper = letters := by simpa using hupper
  have htake : (letters ++ digits).takeWhile Char.isUpper = letters := by
    rw [takeWhile_append_of_head letters hends, hletters]
  refine ⟨htake, ?_⟩
  have hwhole := List.takeWhile_append_dropWhile (p := Char.isUpper) (l := letters ++ digits)
  rw [htake] at hwhole
  exact List.append_cancel_left hwhole

theorem WrittenAs.unique (hs : WrittenAs s letters digits) (hs' : WrittenAs s letters' digits') :
    letters = letters' ∧ digits = digits' := by
  have hparts := takeWhile_letters hs.isUpper hs.isDigit
  have hparts' := takeWhile_letters hs'.isUpper hs'.isDigit
  rw [← hs.trimmed] at hparts
  rw [← hs'.trimmed] at hparts'
  exact ⟨hparts.1.symm.trans hparts'.1, hparts.2.symm.trans hparts'.2⟩

theorem ofText_of_writtenAs (hs : WrittenAs s letters digits)
    (hlength : digits.length ≤ maxIntDigits) :
    Address.ofText s =
      .ok (if digitsValue digits < 1 then none
        else some ⟨digitsValue digits - 1, lettersValue letters - 1⟩) := by
  obtain ⟨hletters, hdigits⟩ := takeWhile_letters hs.isUpper hs.isDigit
  have hall : digits.all Char.isDigit = true := List.all_eq_true.mpr hs.isDigit
  have hform : (letters.isEmpty || digits.isEmpty || !digits.all Char.isDigit) = false := by
    simp [hs.letters_ne, hs.digits_ne, hall]
  unfold ofText
  simp only [hs.trimmed, hletters, hdigits, hform, Bool.false_eq_true, if_false]
  rw [if_neg (by omega)]
  split <;> rfl

/-- A text that is not in the form of an address is read as none. -/
theorem ofText_of_not_writtenAs (hs : ∀ letters digits, ¬ WrittenAs s letters digits) :
    Address.ofText s = .ok none := by
  unfold ofText
  simp only
  split
  · rfl
  · next hform =>
    simp only [Bool.or_eq_true, not_or, List.isEmpty_iff, Bool.not_eq_true', Bool.not_eq_false,
      List.all_eq_true] at hform
    exact absurd ⟨(List.takeWhile_append_dropWhile).symm, hform.1.1, hform.1.2,
      fun c hc => List.mem_takeWhile_imp hc, hform.2⟩ (hs _ _)

theorem length_le_of_ofText (hread : Address.ofText s = .ok (some address))
    (hs : WrittenAs s letters digits) : digits.length ≤ maxIntDigits := by
  obtain ⟨hletters, hdigits⟩ := takeWhile_letters hs.isUpper hs.isDigit
  unfold ofText at hread
  simp only [hs.trimmed, hletters, hdigits] at hread
  split at hread
  · cases hread
  · split at hread
    · cases hread
    · omega

/-! ## Texts of addresses -/

theorem text_of_letters (hletters : letters ≠ []) (hupper : ∀ c ∈ letters, c.isUpper = true)
    {number : Nat} (hlength : (decimalChars number).length ≤ maxIntDigits) :
    Address.text ⟨number - 1, lettersValue letters - 1⟩ =
      .ok (String.ofList (letters ++ decimalChars number)) := by
  have hpos := lettersValue_pos hletters hupper
  have hrow : intText number = .ok (String.ofList (decimalChars number)) := by
    unfold intText
    simp [hlength, Int.not_lt.mpr (Int.natCast_nonneg number)]
  unfold text columnLetters
  simp only [Int.sub_add_cancel]
  rw [if_neg (by omega), lettersBefore_lettersValue hupper, hrow]
  simp [AddressError.ofCell, String.ofList_append]

/-- An address as letters and a number. -/
theorem exists_letters (hplace : address.InQuadrant) :
    ∃ (letters : List Char) (number : Nat), letters ≠ [] ∧ (∀ c ∈ letters, c.isUpper = true) ∧
      1 ≤ number ∧ address.row + 1 = number ∧
      address = ⟨number - 1, lettersValue letters - 1⟩ := by
  obtain ⟨hrow, hcol⟩ := hplace
  obtain ⟨hvalue, hupper⟩ := lettersValue_lettersBefore (address.col + 1).toNat
  have hcolumn : lettersValue (lettersBefore [] (address.col + 1).toNat) = address.col + 1 := by
    rw [hvalue]
    omega
  refine ⟨lettersBefore [] (address.col + 1).toNat, (address.row + 1).toNat, ?_, hupper, by omega,
    by omega, ?_⟩
  · intro hnone
    rw [hnone] at hcolumn
    simp [lettersValue] at hcolumn
    omega
  · obtain ⟨row, col⟩ := address
    simp only at hrow hcol hcolumn ⊢
    rw [hcolumn, Address.mk.injEq]
    omega

/-- The text of an address is read as that address. -/
theorem ofText_text (hletters : letters ≠ []) (hupper : ∀ c ∈ letters, c.isUpper = true)
    {number : Nat} (hnumber : 1 ≤ number) (hlength : (decimalChars number).length ≤ maxIntDigits) :
    Address.ofText (String.ofList (letters ++ decimalChars number)) =
      .ok (some ⟨number - 1, lettersValue letters - 1⟩) := by
  have hblank : ∀ c ∈ letters ++ decimalChars number, isBlank c = false := by
    intro c hc
    rcases List.mem_append.mp hc with hletter | hdigit
    · have hcode := toNat_of_isUpper (hupper c hletter)
      exact isBlank_eq_false (by omega) (by omega)
    · have hcode := toNat_of_isDigit (isDigit_of_mem_decimalChars hdigit)
      exact isBlank_eq_false (by omega) (by omega)
  have hs : WrittenAs (String.ofList (letters ++ decimalChars number)) letters
      (decimalChars number) := {
    trimmed := by rw [String.toList_ofList, trimChars_eq_self hblank]
    letters_ne := hletters
    digits_ne := Nat.toDigits_ne_nil
    isUpper := hupper
    isDigit := fun c hc => isDigit_of_mem_decimalChars hc }
  rw [ofText_of_writtenAs hs hlength, digitsValue_decimalChars, if_neg (by omega)]

/-! ## Main statement -/

/-- Two texts of addresses are the same if their letters are and their digits are. -/
theorem ofList_letters_digits_inj (hupper : ∀ c ∈ letters, c.isUpper = true)
    (hupper' : ∀ c ∈ letters', c.isUpper = true) (hdigit : ∀ c ∈ digits, c.isDigit = true)
    (hdigit' : ∀ c ∈ digits', c.isDigit = true) :
    String.ofList (letters ++ digits) = String.ofList (letters' ++ digits') ↔
      letters = letters' ∧ digits = digits' := by
  obtain ⟨hletters, hdigits⟩ := takeWhile_letters hupper hdigit
  obtain ⟨hletters', hdigits'⟩ := takeWhile_letters hupper' hdigit'
  constructor
  · intro hsame
    have hchars : letters ++ digits = letters' ++ digits' := String.ofList_injective hsame
    rw [hchars, hletters'] at hletters
    rw [hchars, hdigits'] at hdigits
    exact ⟨hletters.symm, hdigits.symm⟩
  · rintro ⟨rfl, rfl⟩
    rfl

/-- A text that is read as an address shows it, the zeros in front of its digits aside, and that
text is read as the same address. -/
theorem text_of_ofText (hread : Address.ofText s = .ok (some address))
    (hs : WrittenAs s letters digits) :
    address.text = .ok (String.ofList (letters ++ digits.dropWhile (· == '0'))) ∧
      Address.ofText (String.ofList (letters ++ digits.dropWhile (· == '0'))) =
        .ok (some address) := by
  have hlength := length_le_of_ofText hread hs
  rw [ofText_of_writtenAs hs hlength] at hread
  split at hread
  · cases hread
  · next hnumber =>
    have hsome : ∃ c ∈ digits, c ≠ '0' := by
      by_contra hzeros
      push Not at hzeros
      have hvalue := digitsValue_eq_zero hzeros
      omega
    obtain ⟨hpos, hchars⟩ := decimalChars_digitsValue hs.isDigit hsome
    have hshort : (decimalChars (digitsValue digits)).length ≤ maxIntDigits := by
      rw [hchars]
      exact (List.dropWhile_suffix _).length_le.trans hlength
    cases hread
    rw [← hchars]
    exact ⟨text_of_letters hs.letters_ne hs.isUpper hshort,
      ofText_text hs.letters_ne hs.isUpper hpos hshort⟩

/-- Addresses and their texts determine each other.  The text of an address is read as that address.
A text is read as an address exactly if it has the form of one and its digits are not all zero; the
text of the address is then the trimmed text without the zeros in front of the digits, so two texts
are read as one address exactly if they agree up to blanks at the ends and those zeros.  Numbers of
rows are bounded by the digits that can be written and read. -/
theorem text_roundtrip :
    (∀ address : Address, address.InQuadrant →
      (decimalChars (address.row + 1).toNat).length ≤ maxIntDigits →
      ∃ text, address.text = .ok text ∧ Address.ofText text = .ok (some address)) ∧
    (∀ s, (∀ letters digits, WrittenAs s letters digits → digits.length ≤ maxIntDigits) →
      ∃ address?, Address.ofText s = .ok address? ∧
        (address?.isSome = true ↔
          ∃ letters digits, WrittenAs s letters digits ∧ ∃ c ∈ digits, c ≠ '0')) ∧
    (∀ s address letters digits, Address.ofText s = .ok (some address) →
      WrittenAs s letters digits →
      address.text = .ok (String.ofList (letters ++ digits.dropWhile (· == '0')))) ∧
    ∀ s s' address address' letters letters' digits digits',
      Address.ofText s = .ok (some address) → Address.ofText s' = .ok (some address') →
      WrittenAs s letters digits → WrittenAs s' letters' digits' →
      (address = address' ↔ letters = letters' ∧
        digits.dropWhile (· == '0') = digits'.dropWhile (· == '0')) := by
  refine ⟨?_, ?_, ?_, ?_⟩
  · intro address hplace hlength
    obtain ⟨letters, number, hletters, hupper, hnumber, hrow, rfl⟩ := exists_letters hplace
    rw [hrow, Int.toNat_natCast] at hlength
    exact ⟨_, text_of_letters hletters hupper hlength, ofText_text hletters hupper hnumber hlength⟩
  · intro s hshort
    by_cases hform : ∃ letters digits, WrittenAs s letters digits
    · obtain ⟨letters, digits, hs⟩ := hform
      refine ⟨_, ofText_of_writtenAs hs (hshort letters digits hs), ?_⟩
      have hdigits : (∃ letters digits, WrittenAs s letters digits ∧ ∃ c ∈ digits, c ≠ '0') ↔
          ∃ c ∈ digits, c ≠ '0' := by
        constructor
        · rintro ⟨others, more, hother, hsome⟩
          rwa [(hs.unique hother).2]
        · exact fun hsome => ⟨letters, digits, hs, hsome⟩
      rw [hdigits]
      by_cases hsome : ∃ c ∈ digits, c ≠ '0'
      · have hpos := (decimalChars_digitsValue hs.isDigit hsome).1
        rw [if_neg (by omega)]
        simp [hsome]
      · have hzeros := hsome
        push Not at hzeros
        rw [digitsValue_eq_zero hzeros]
        simp [hsome]
    · push Not at hform
      refine ⟨none, ofText_of_not_writtenAs hform, ?_⟩
      simp [hform]
  · intro s address letters digits hread hs
    exact (text_of_ofText hread hs).1
  · intro s s' address address' letters letters' digits digits' hread hread' hs hs'
    obtain ⟨htext, hback⟩ := text_of_ofText hread hs
    obtain ⟨htext', hback'⟩ := text_of_ofText hread' hs'
    rw [← ofList_letters_digits_inj hs.isUpper hs'.isUpper
      (fun c hc => hs.isDigit c ((List.dropWhile_suffix _).subset hc))
      (fun c hc => hs'.isDigit c ((List.dropWhile_suffix _).subset hc))]
    constructor
    · rintro rfl
      rw [htext] at htext'
      simpa using htext'
    · intro hsame
      rw [hsame, hback'] at hback
      simpa using hback.symm

/-- After `Z` come two letters, and zeros in front of a row number do not count. -/
theorem text_roundtrip_two_letters :
    (InQuadrant ⟨6, 26⟩ ∧ (decimalChars 7).length ≤ maxIntDigits ∧
      ∃ text, Address.text ⟨6, 26⟩ = .ok text ∧ Address.ofText text = .ok (some ⟨6, 26⟩)) ∧
    (∃ address?, Address.ofText " AA00 " = .ok address? ∧ address?.isSome = false) ∧
    Address.text ⟨6, 26⟩ = .ok "AA7" ∧
    (Address.ofText " AA007 " = .ok (some ⟨6, 26⟩) ∧ Address.ofText "AA7" = .ok (some ⟨6, 26⟩) ∧
      ['0', '0', '7'].dropWhile (· == '0') = ['7'].dropWhile (· == '0')) := by
  obtain ⟨hwrite, haccept, hshow, hsame⟩ := text_roundtrip
  have hlength : (decimalChars 7).length ≤ maxIntDigits := by decide
  have hread : Address.ofText " AA007 " = .ok (some ⟨6, 26⟩) := by decide +kernel
  have hread' : Address.ofText "AA7" = .ok (some ⟨6, 26⟩) := by decide +kernel
  have hform : WrittenAs " AA007 " ['A', 'A'] ['0', '0', '7'] :=
    ⟨by decide +kernel, by decide, by decide, List.all_eq_true.mp rfl, List.all_eq_true.mp rfl⟩
  have hform' : WrittenAs "AA7" ['A', 'A'] ['7'] :=
    ⟨by decide +kernel, by decide, by decide, List.all_eq_true.mp rfl, List.all_eq_true.mp rfl⟩
  have hzeros : WrittenAs " AA00 " ['A', 'A'] ['0', '0'] :=
    ⟨by decide +kernel, by decide, by decide, List.all_eq_true.mp rfl, List.all_eq_true.mp rfl⟩
  refine ⟨⟨⟨by decide, by decide⟩, hlength, hwrite _ ⟨by decide, by decide⟩ hlength⟩, ?_,
    hshow _ _ _ _ hread hform, hread, hread',
    ((hsame _ _ _ _ _ _ _ _ hread hread' hform hform').mp rfl).2⟩
  obtain ⟨address?, hfound, hsome⟩ := haccept " AA00 " fun letters digits hs => by
    rw [← (hzeros.unique hs).2]
    decide
  refine ⟨address?, hfound, ?_⟩
  rw [Bool.eq_false_iff, ne_eq, hsome]
  rintro ⟨letters, digits, hs, c, hc, hne⟩
  rw [← (hzeros.unique hs).2] at hc
  simp at hc
  exact hne hc

end Address

end SheetAudit
