import Mathlib.Data.List.TakeWhile
import Mathlib.Tactic
import SheetAudit.Pieces
import SheetAudit.Text.Character

/-!
# Letters, digits and numbers in texts

Letters and digits are no blanks, so trimming leaves them alone.  A text has its parts where a
separator stands and nowhere else.  The digits of a number read back as that number; digits that are
read are those of their number, zeros in front of them aside.
-/

namespace SheetAudit.Text

variable {c : Char} {cs rest : List Char}

/-! ## Classes of characters -/

theorem toNat_of_isBlank (hblank : isBlank c = true) : c.toNat ≤ 32 ∨ 133 ≤ c.toNat := by
  rw [isBlank, inIntervals_iff] at hblank
  obtain ⟨interval, hinterval, hlow, hhigh⟩ := hblank
  have hside : ∀ interval ∈ blankIntervals, interval.2 ≤ 32 ∨ 133 ≤ interval.1 := by decide
  have hends := hside interval hinterval
  omega

theorem toNat_of_isAlphanum (hword : c.isAlphanum = true) : 48 ≤ c.toNat ∧ c.toNat ≤ 122 := by
  rcases Bool.or_eq_true_iff.mp hword with hletter | hdigit
  · rcases Bool.or_eq_true_iff.mp hletter with hupper | hlower
    · have hcapital : 65 ≤ c.toNat ∧ c.toNat ≤ 90 := of_decide_eq_true hupper
      omega
    · obtain ⟨hfirst, hlast⟩ := Bool.and_eq_true_iff.mp hlower
      have hlow : 97 ≤ c.toNat := of_decide_eq_true hfirst
      have hhigh : c.toNat ≤ 122 := of_decide_eq_true hlast
      omega
  · have hnumeral : 48 ≤ c.toNat ∧ c.toNat ≤ 57 := Char.isDigit_iff_toNat.mp hdigit
    omega

theorem toNat_of_isUpper (hupper : c.isUpper = true) : 65 ≤ c.toNat ∧ c.toNat ≤ 90 :=
  of_decide_eq_true hupper

theorem toNat_of_isDigit (hdigit : c.isDigit = true) : 48 ≤ c.toNat ∧ c.toNat ≤ 57 :=
  Char.isDigit_iff_toNat.mp hdigit

theorem isBlank_eq_false (hlow : 32 < c.toNat) (hhigh : c.toNat < 133) : isBlank c = false := by
  by_contra hblank
  have hside := toNat_of_isBlank (Bool.eq_true_of_not_eq_false hblank)
  omega

theorem not_isUpper_of_isDigit (hdigit : c.isDigit = true) : c.isUpper = false := by
  have hcode := toNat_of_isDigit hdigit
  by_contra hupper
  have hcapital := toNat_of_isUpper (Bool.eq_true_of_not_eq_false hupper)
  omega

theorem toLower_of_isDigit (hdigit : c.isDigit = true) : c.toLower = c := by
  have hcode := toNat_of_isDigit hdigit
  have hdigits : ∀ code < 58, 48 ≤ code → (Char.ofNat code).toLower = Char.ofNat code := by decide
  simpa using hdigits c.toNat (by omega) hcode.1

/-! ## Starts of texts and their ends -/

theorem takeWhile_append_of_head {p : Char → Bool} (cs : List Char)
    (hrest : ∀ c ∈ rest.head?, p c = false) : (cs ++ rest).takeWhile p = cs.takeWhile p := by
  have hnone : rest.takeWhile p = [] := by
    cases rest with
    | nil => rfl
    | cons c later => rw [List.takeWhile_cons, hrest c rfl]; rfl
  rw [List.takeWhile_append, hnone, List.append_nil]
  split
  · next hlength =>
    rw [(List.takeWhile_prefix p).eq_of_length hlength]
  · rfl

theorem dropWhile_eq_self {p : Char → Bool} (hrest : ∀ c ∈ rest.head?, p c = false) :
    rest.dropWhile p = rest := by
  cases rest with
  | nil => rfl
  | cons c later => simp [hrest c rfl]

theorem forall_bne_of_notMem (hcs : c ∉ cs) : ∀ other ∈ cs, (other != c) = true := by
  intro other hother
  rw [bne_iff_ne]
  rintro rfl
  exact hcs hother

theorem takeWhile_ne_append (hcs : c ∉ cs) (after : List Char) :
    (cs ++ c :: after).takeWhile (· != c) = cs := by
  rw [List.takeWhile_append_of_pos (forall_bne_of_notMem hcs)]
  simp

theorem dropWhile_ne_append (hcs : c ∉ cs) (after : List Char) :
    (cs ++ c :: after).dropWhile (· != c) = c :: after := by
  rw [List.dropWhile_append_of_pos (forall_bne_of_notMem hcs)]
  simp

theorem dropWhile_ne_of_notMem (hcs : c ∉ cs) : cs.dropWhile (· != c) = [] :=
  List.dropWhile_eq_nil_iff.mpr (forall_bne_of_notMem hcs)

theorem trimChars_of_ends (hfirst : ∀ c ∈ cs.head?, isBlank c = false)
    (hlast : ∀ c ∈ cs.getLast?, isBlank c = false) : trimChars cs = cs := by
  have hback : cs.reverse.dropWhile isBlank = cs.reverse := by
    apply dropWhile_eq_self
    rw [List.head?_reverse]
    exact hlast
  rw [trimChars, dropWhile_eq_self hfirst, dropBlankEnd, hback, List.reverse_reverse]

theorem trimChars_eq_self (hcs : ∀ c ∈ cs, isBlank c = false) : trimChars cs = cs :=
  trimChars_of_ends (fun c hc => hcs c (List.mem_of_mem_head? hc))
    (fun c hc => hcs c (List.mem_of_mem_getLast? hc))

theorem trimChars_of_blank (hcs : ∀ c ∈ cs, isBlank c = true) : trimChars cs = [] := by
  have hnone : cs.dropWhile isBlank = [] := List.dropWhile_eq_nil_iff.mpr hcs
  rw [trimChars, hnone]
  rfl

theorem dropBlankEnd_cons (hblank : isBlank c = false) (cs : List Char) :
    dropBlankEnd (c :: cs) = c :: dropBlankEnd cs := by
  have hstop : [c].dropWhile isBlank = [c] := by rw [List.dropWhile_cons, hblank]; rfl
  rw [dropBlankEnd, dropBlankEnd, List.reverse_cons, List.dropWhile_append, hstop]
  split
  · next hnone => rw [List.isEmpty_iff.mp hnone]; rfl
  · rw [List.reverse_append, List.reverse_singleton, List.singleton_append]

theorem trimChars_cons (hblank : isBlank c = false) (cs : List Char) :
    trimChars (c :: cs) = c :: dropBlankEnd cs := by
  rw [trimChars, List.dropWhile_cons, hblank, ← dropBlankEnd_cons hblank]
  rfl

theorem mem_dropWhile_of_stop {p : Char → Bool} (hc : c ∈ cs) (hstop : p c = false) :
    c ∈ cs.dropWhile p := by
  rw [← List.takeWhile_append_dropWhile (p := p) (l := cs), List.mem_append] at hc
  rcases hc with hbefore | hafter
  · rw [List.mem_takeWhile_imp hbefore] at hstop
    cases hstop
  · exact hafter

theorem mem_trimChars (hc : c ∈ cs) (hblank : isBlank c = false) : c ∈ trimChars cs := by
  rw [trimChars, dropBlankEnd, List.mem_reverse]
  apply mem_dropWhile_of_stop _ hblank
  exact List.mem_reverse.mpr (mem_dropWhile_of_stop hc hblank)

theorem dropBlankEnd_append (hne : cs ≠ []) (hcs : ∀ c ∈ cs, isBlank c = false)
    (before : List Char) : dropBlankEnd (before ++ cs) = before ++ cs := by
  have hlast : ∀ c ∈ (before ++ cs).reverse.head?, isBlank c = false := by
    intro c hc
    rw [List.reverse_append, List.head?_append_of_ne_nil _ (by simpa using hne)] at hc
    exact hcs c (List.mem_reverse.mp (List.mem_of_mem_head? hc))
  rw [dropBlankEnd, dropWhile_eq_self hlast, List.reverse_reverse]

/-! ## Parts of a text -/

theorem partsBetween_eq_splitOnP (separator : Char) (cs : List Char) :
    partsBetween separator cs = cs.splitOnP (· == separator) := by
  induction cs with
  | nil => rfl
  | cons c cs ih =>
      rw [partsBetween, ih, List.splitOnP_cons_eq_if_modifyHead]
      cases hparts : cs.splitOnP (· == separator) with
      | nil => exact (List.splitOnP_ne_nil (· == separator) cs hparts).elim
      | cons part parts => rfl

theorem partsBetween_append (separator : Char) (above below : List Char) :
    partsBetween separator (above ++ separator :: below) =
      partsBetween separator above ++ partsBetween separator below := by
  simp only [partsBetween_eq_splitOnP]
  exact List.splitOnP_append_cons above below (beq_self_eq_true separator)

theorem partsBetween_of_notMem {separator : Char} (hcs : separator ∉ cs) :
    partsBetween separator cs = [cs] := by
  rw [partsBetween_eq_splitOnP]
  apply List.splitOnP_eq_singleton
  intro c hc
  simpa using forall_bne_of_notMem hcs c hc

/-! ## Digits of a number -/

theorem isDigit_of_mem_decimalChars {n : Nat} (hc : c ∈ decimalChars n) : c.isDigit = true :=
  Nat.isDigit_of_mem_toDigits (by decide) (by decide) hc

theorem foldl_digits_eq_ofDigitChars (cs : List Char) (seen : Nat) :
    cs.foldl (fun total c => total * 10 + (c.toNat - 48)) seen = Nat.ofDigitChars 10 cs seen := by
  rw [Nat.ofDigitChars_eq_foldl]
  simp only [Nat.mul_comm]
  rfl

@[simp] theorem digitsValue_decimalChars (n : Nat) : digitsValue (decimalChars n) = n := by
  rw [digitsValue, foldl_digits_eq_ofDigitChars, decimalChars, Nat.ofDigitChars_ten_toDigits]

theorem digitChar_of_isDigit (hdigit : c.isDigit = true) : Nat.digitChar (c.toNat - 48) = c := by
  have hcode := toNat_of_isDigit hdigit
  apply Char.toNat_inj.mp
  rw [Nat.toNat_digitChar_of_lt_ten (by omega)]
  omega

/-- Digits that are read after a positive number stand behind the digits of that number. -/
theorem decimalChars_foldl_digits (hcs : ∀ c ∈ cs, c.isDigit = true) {seen : Nat}
    (hseen : 0 < seen) :
    decimalChars (cs.foldl (fun total c => total * 10 + (c.toNat - 48)) seen) =
      decimalChars seen ++ cs := by
  induction cs generalizing seen with
  | nil => simp
  | cons c cs ih =>
      have hdigit := hcs c (by simp)
      have hvalue : c.toNat - 48 < 10 := by
        have hcode := toNat_of_isDigit hdigit
        omega
      have hnext : decimalChars (seen * 10 + (c.toNat - 48)) = decimalChars seen ++ [c] := by
        have happend := Nat.toDigits_append_toDigits (by decide) hseen hvalue
        rw [Nat.toDigits_of_lt_base hvalue, digitChar_of_isDigit hdigit] at happend
        rw [decimalChars, decimalChars, happend, Nat.mul_comm]
      rw [List.foldl_cons, ih (fun other hother => hcs other (by simp [hother])) (by omega), hnext,
        List.append_assoc, List.singleton_append]

theorem digitsValue_zero_cons (cs : List Char) : digitsValue ('0' :: cs) = digitsValue cs := rfl

/-- The digits of a number that is read are those that were read, without the zeros in front. -/
theorem decimalChars_digitsValue (hcs : ∀ c ∈ cs, c.isDigit = true) (hsome : ∃ c ∈ cs, c ≠ '0') :
    0 < digitsValue cs ∧ decimalChars (digitsValue cs) = cs.dropWhile (· == '0') := by
  induction cs with
  | nil => simp at hsome
  | cons c cs ih =>
      have hothers : ∀ other ∈ cs, other.isDigit = true :=
        fun other hother => hcs other (by simp [hother])
      by_cases hzero : c = '0'
      · subst hzero
        simpa [digitsValue_zero_cons] using ih hothers (by simpa using hsome)
      · have hdigit := hcs c (by simp)
        have hcode := toNat_of_isDigit hdigit
        have hpos : 0 < c.toNat - 48 := by
          have hne : c.toNat ≠ 48 := fun heq => hzero (Char.toNat_inj.mp heq)
          omega
        have hread : digitsValue (c :: cs) =
            cs.foldl (fun total c => total * 10 + (c.toNat - 48)) (c.toNat - 48) := by
          simp [digitsValue]
        have hchars : decimalChars (digitsValue (c :: cs)) = c :: cs := by
          rw [hread, decimalChars_foldl_digits hothers hpos, decimalChars,
            Nat.toDigits_of_lt_base (by omega), digitChar_of_isDigit hdigit,
            List.singleton_append]
        constructor
        · by_contra hnone
          have hvalue : digitsValue (c :: cs) = 0 := by omega
          rw [hvalue] at hchars
          cases hchars
          exact hzero rfl
        · simp [hchars, hzero]

theorem digitsValue_eq_zero (hcs : ∀ c ∈ cs, c = '0') : digitsValue cs = 0 := by
  induction cs with
  | nil => rfl
  | cons c cs ih =>
      rw [hcs c (by simp), digitsValue_zero_cons,
        ih fun other hother => hcs other (by simp [hother])]

end SheetAudit.Text
