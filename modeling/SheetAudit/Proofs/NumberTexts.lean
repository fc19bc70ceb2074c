import SheetAudit.Cell
import SheetAudit.Proofs.DoubleRounding
import SheetAudit.Proofs.PlainTexts

/-!
# Numbers of texts

The text of a whole number within the range of a double reads as the double nearest to that number.
A text with a colon reads as no number, and neither do digits with a dash behind them.
-/

namespace SheetAudit

open Text

variable {cs digits rest : List Char}

/-! ## Characters that are read as they stand -/

/-- A visible character of ASCII other than the low line. -/
def StandsAsIs (c : Char) : Prop := 32 < c.toNat ∧ c.toNat < 127 ∧ c ≠ '_'

instance (c : Char) : Decidable (StandsAsIs c) :=
  inferInstanceAs (Decidable (32 < c.toNat ∧ c.toNat < 127 ∧ c ≠ '_'))

theorem standsAsIs_of_isDigit {c : Char} (hdigit : c.isDigit = true) : StandsAsIs c := by
  have hcode := toNat_of_isDigit hdigit
  refine ⟨by omega, by omega, ?_⟩
  rintro rfl
  cases hdigit

/-- Of the decimal digits of all scripts only the first ten lie in ASCII. -/
theorem digitValue?_of_ascii {c : Char} (hascii : c.toNat < 127) :
    digitValue? c = if c.isDigit then some (c.toNat - 48) else none := by
  have hbeyond : ∀ interval ∈ digitIntervals.tail, 127 ≤ interval.1 := by decide +kernel
  have hothers : digitIntervals.tail.find?
      (fun interval => interval.1 ≤ c.toNat && c.toNat ≤ interval.2) = none := by
    rw [List.find?_eq_none]
    intro interval hinterval
    have hlow := hbeyond interval hinterval
    simp only [Bool.and_eq_true, decide_eq_true_eq]
    omega
  have hsplit : digitIntervals = (0x30, 0x39) :: digitIntervals.tail := rfl
  rw [digitValue?, hsplit, List.find?_cons]
  cases hdigit : c.isDigit with
  | true =>
      obtain ⟨hlow, hhigh⟩ := toNat_of_isDigit hdigit
      have hfirst : (decide (0x30 ≤ c.toNat) && decide (c.toNat ≤ 0x39)) = true := by
        simp [hlow, hhigh]
      simp only [hfirst, Option.map_some, if_pos]
      rw [Nat.mod_eq_of_lt (by omega)]
  | false =>
      have hfirst : (decide (0x30 ≤ c.toNat) && decide (c.toNat ≤ 0x39)) = false := by
        have hcode := mt Char.isDigit_iff_toNat.mpr (Bool.eq_false_iff.mp hdigit)
        simpa using hcode
      simp [hfirst, hothers]

theorem plainDigits_eq_self (hcs : ∀ c ∈ cs, StandsAsIs c) : plainDigits cs = cs := by
  rw [plainDigits]
  conv_rhs => rw [← List.map_id cs]
  apply List.map_congr_left
  intro c hc
  obtain ⟨-, hascii, -⟩ := hcs c hc
  rw [digitValue?_of_ascii (by omega)]
  cases hdigit : c.isDigit with
  | true =>
      have hcode := toNat_of_isDigit hdigit
      change Char.ofNat (48 + (c.toNat - 48)) = c
      rw [Nat.add_sub_cancel' hcode.1, Char.ofNat_toNat]
  | false => rfl

theorem joinDigits_eq_self (hcs : ∀ c ∈ cs, c ≠ '_') (last : Char) :
    joinDigits last cs = some cs := by
  induction cs generalizing last with
  | nil => rfl
  | cons c cs ih =>
      have hfirst : c ≠ '_' := hcs c (by simp)
      have hothers := ih (fun other hother => hcs other (by simp [hother])) c
      simp [joinDigits, hfirst, hothers]

theorem readDouble?_eq_readPlain? (hcs : ∀ c ∈ cs, StandsAsIs c) :
    readDouble? (String.ofList cs) = readPlain? cs := by
  have htrim : trimChars cs = cs := by
    apply trimChars_eq_self
    intro c hc
    obtain ⟨hlow, hhigh, -⟩ := hcs c hc
    exact isBlank_eq_false hlow (by omega)
  have hjoined : joinDigits ' ' cs = some cs :=
    joinDigits_eq_self (fun c hc => (hcs c hc).2.2) ' '
  rw [readDouble?, String.toList_ofList, htrim, plainDigits_eq_self hcs, hjoined, Option.bind_some]

/-! ## Digits at the start -/

theorem splitSign_of_digit {c : Char} (hdigit : c.isDigit = true) (cs : List Char) :
    splitSign (c :: cs) = (false, c :: cs) := by
  unfold splitSign
  split
  · next heq =>
    cases heq
    exact absurd hdigit (by decide)
  · next heq =>
    cases heq
    exact absurd hdigit (by decide)
  · rfl

theorem readDecimal?_append (hdigits : ∀ c ∈ digits, c.isDigit = true) (hne : digits ≠ [])
    (hrest : ∀ c ∈ rest.head?, c.isDigit = false ∧ c ≠ '.') (negative : Bool) :
    readDecimal? negative (digits ++ rest) =
      (readExponent? rest).map (Number.ofDecimal negative (digitsValue digits)) := by
  have hwhole : (digits ++ rest).takeWhile Char.isDigit = digits := by
    rw [takeWhile_append_of_head _ fun c hc => (hrest c hc).1]
    simpa using hdigits
  have hbehind : (digits ++ rest).dropWhile Char.isDigit = rest := by
    rw [List.dropWhile_append_of_pos hdigits]
    exact dropWhile_eq_self fun c hc => (hrest c hc).1
  have hfilled : digits.isEmpty = false := List.isEmpty_eq_false_iff.mpr hne
  unfold readDecimal?
  simp only [hwhole, hbehind]
  split
  · exact absurd rfl (hrest '.' rfl).2
  · simp [hfilled]

/-- What is read of digits and what stands behind them. -/
theorem readPlain?_append {negative : Bool} (hsign : splitSign cs = (negative, digits ++ rest))
    (hdigits : ∀ c ∈ digits, c.isDigit = true) (hne : digits ≠ [])
    (hrest : ∀ c ∈ rest.head?, c.isDigit = false ∧ c ≠ '.') :
    readPlain? cs = (readExponent? rest).map fun exponent =>
      .number (Number.ofDecimal negative (digitsValue digits) exponent) := by
  obtain ⟨first, others, rfl⟩ := List.exists_cons_of_ne_nil hne
  have hfirst : first.isDigit = true := hdigits first (by simp)
  have hlower := toLower_of_isDigit hfirst
  have hletters : first ≠ 'i' ∧ first ≠ 'n' := by
    constructor <;> rintro rfl <;> exact absurd hfirst (by decide)
  unfold readPlain?
  simp only [hsign, readDecimal?_append hdigits hne hrest, Option.map_map]
  simp [hlower, hletters]
  rfl

/-- Digits with a dash behind them read as no number. -/
theorem readPlain?_dash (hdigits : ∀ c ∈ digits, c.isDigit = true) (hne : digits ≠ []) :
    readPlain? (digits ++ '-' :: rest) = none := by
  have hsign : splitSign (digits ++ '-' :: rest) = (false, digits ++ '-' :: rest) := by
    obtain ⟨first, others, rfl⟩ := List.exists_cons_of_ne_nil hne
    exact splitSign_of_digit (hdigits first (by simp)) _
  have hdash : ∀ c ∈ ('-' :: rest).head?, c.isDigit = false ∧ c ≠ '.' := by
    rintro _ ⟨⟩
    decide
  rw [readPlain?_append hsign hdigits hne hdash]
  rfl

/-! ## Colons -/

theorem mem_of_joinDigits {c last : Char} {joined : List Char}
    (hjoined : joinDigits last cs = some joined) (hc : c ∈ cs) (hline : c ≠ '_') : c ∈ joined := by
  -- a low line between digits is left out, any other one is refused, the rest is kept
  fun_induction joinDigits last cs generalizing joined with
  | case1 => cases hc
  | case2 last first rest hdigits ih =>
      obtain ⟨others, hothers, rfl⟩ := Option.map_eq_some_iff.mp hjoined
      simp only [List.mem_cons, hline, false_or] at hc ⊢
      exact hc.imp_right (ih hothers)
  | case3 => cases hjoined
  | case4 => cases hjoined
  | case5 last first rest _ hfirst ih =>
      obtain ⟨others, hothers, rfl⟩ := Option.map_eq_some_iff.mp hjoined
      simp only [List.mem_cons] at hc ⊢
      exact hc.imp_right (ih hothers)

theorem mem_splitSign (hcolon : ':' ∈ cs) : ':' ∈ (splitSign cs).2 := by
  unfold splitSign
  split <;> simpa using hcolon

theorem readExponent?_of_colon (hcolon : ':' ∈ cs) : readExponent? cs = none := by
  cases cs with
  | nil => cases hcolon
  | cons mark rest =>
      unfold readExponent?
      simp only [ite_eq_right_iff, reduceCtorEq, imp_false, Bool.and_eq_true, not_and]
      intro hmark hdigits
      rcases List.mem_cons.mp hcolon with rfl | hrest
      · exact absurd hmark.1 (by decide)
      · have hread := List.all_eq_true.mp hdigits _ (mem_splitSign hrest)
        exact absurd hread (by decide)

theorem readDecimal?_of_colon (hcolon : ':' ∈ cs) (negative : Bool) :
    readDecimal? negative cs = none := by
  have hbehind : ':' ∈ cs.dropWhile Char.isDigit := mem_dropWhile_of_stop hcolon (by decide)
  unfold readDecimal?
  simp only [ite_eq_left_iff, Option.map_eq_none_iff]
  intro _
  -- whether or not a point is passed, the colon stands in what is left for the exponent
  apply readExponent?_of_colon
  split
  · next rest heq =>
    rw [heq] at hbehind
    exact mem_dropWhile_of_stop (by simpa using hbehind) (by decide)
  · exact hbehind

theorem readPlain?_of_colon (hcolon : ':' ∈ cs) : readPlain? cs = none := by
  have hsigned := mem_splitSign hcolon
  have hword : ':' ∈ (splitSign cs).2.map Char.toLower := List.mem_map.mpr ⟨':', hsigned, rfl⟩
  have hunlike : ∀ word : List Char, ':' ∉ word →
      ((splitSign cs).2.map Char.toLower == word) = false := by
    intro word hnone
    rw [beq_eq_false_iff_ne]
    rintro rfl
    exact hnone hword
  unfold readPlain?
  simp only [hunlike _ (by decide : ':' ∉ "inf".toList),
    hunlike _ (by decide : ':' ∉ "infinity".toList), hunlike _ (by decide : ':' ∉ "nan".toList),
    readDecimal?_of_colon hsigned]
  rfl

/-- A text with a colon reads as no number. -/
theorem readDouble?_of_colon {s : String} (hcolon : ':' ∈ s.toList) : readDouble? s = none := by
  have hplain : ':' ∈ plainDigits (trimChars s.toList) :=
    List.mem_map.mpr ⟨':', mem_trimChars hcolon (by decide), by decide⟩
  rw [readDouble?, Option.bind_eq_none_iff]
  intro joined hjoined
  exact readPlain?_of_colon (mem_of_joinDigits hjoined hplain (by decide))

/-! ## Whole numbers -/

namespace Number

variable {n : Int}

/-- A whole number whose double is finite has few digits. -/
theorem length_decimalChars_of_finite (hfinite : (ofInt n).isInfinite = false) :
    (decimalChars n.natAbs).length ≤ 310 := by
  rw [decimalChars, Nat.length_toDigits_le_iff (by decide) (by decide)]
  by_contra hlarge
  have htop : topRank ≤ nearestRank (10 ^ 310) 1 := by decide +kernel
  have hmono : nearestRank (10 ^ 310) 1 ≤ nearestRank n.natAbs 1 :=
    nearestRank_mono one_pos one_pos (by omega)
  have hrank : (ofInt n).rank = topRank := min_eq_right (htop.trans hmono)
  simp [isInfinite, hrank] at hfinite

theorem isZero_ofInt : (ofInt n).isZero = decide (n = 0) := by
  by_cases hzero : n = 0
  · subst hzero
    decide +kernel
  · have hone : 0 < nearestRank 1 1 := by decide +kernel
    have hmono : nearestRank 1 1 ≤ nearestRank n.natAbs 1 :=
      nearestRank_mono one_pos one_pos (by omega)
    have htop : 0 < topRank := by decide
    have hrank : (ofInt n).rank ≠ 0 := by
      change min (nearestRank n.natAbs 1) topRank ≠ 0
      omega
    simp [isZero, hrank, hzero]

/-- The digits of a whole number, read without an exponent, give the double nearest to it. -/
theorem ofDecimal_natAbs (hfinite : (ofInt n).isInfinite = false) :
    ofDecimal (decide (n < 0)) n.natAbs 0 = ofInt n := by
  by_cases hzero : n = 0
  · subst hzero
    decide +kernel
  · have hlength : (Nat.toDigits 10 n.natAbs).length ≤ 310 := length_decimalChars_of_finite hfinite
    have hsome : (n.natAbs == 0) = false := by simpa using hzero
    have hlow : ¬ ((Nat.toDigits 10 n.natAbs).length : Int) + 0 > 310 := by omega
    have hhigh : ¬ ((Nat.toDigits 10 n.natAbs).length : Int) + 0 < -330 := by omega
    unfold ofDecimal
    simp only [hsome, Bool.false_eq_true, if_false, if_neg hlow, if_neg hhigh]
    change ofRatio _ (n.natAbs * 1) 1 = _
    rw [Nat.mul_one, ofInt]

end Number

/-- A whole number within the range of a double has a text, and the text reads as its double. -/
theorem exists_intText_of_finite {n : Int} (hfinite : (Number.ofInt n).isInfinite = false) :
    ∃ s, intText n = .ok s ∧ s ≠ "" ∧ readDouble? s = some (.number (Number.ofInt n)) := by
  let digits := decimalChars n.natAbs
  let cs := if n < 0 then '-' :: digits else digits
  have hlength : digits.length ≤ maxIntDigits :=
    (Number.length_decimalChars_of_finite hfinite).trans (by decide)
  have hdigits : ∀ c ∈ digits, c.isDigit = true := fun c hc => isDigit_of_mem_decimalChars hc
  have hne : digits ≠ [] := Nat.toDigits_ne_nil
  have hsign : splitSign cs = (decide (n < 0), digits ++ []) := by
    rw [List.append_nil]
    by_cases hnegative : n < 0
    · simp only [cs, if_pos hnegative, hnegative, decide_true]
      rfl
    · obtain ⟨first, others, hcons⟩ := List.exists_cons_of_ne_nil hne
      simp only [cs, if_neg hnegative, hnegative, decide_false, hcons]
      exact splitSign_of_digit (hdigits first (by simp [hcons])) others
  have hchars : ∀ c ∈ cs, StandsAsIs c := by
    have hplain : ∀ c ∈ digits, StandsAsIs c := fun c hc => standsAsIs_of_isDigit (hdigits c hc)
    by_cases hnegative : n < 0
    · simp only [cs, if_pos hnegative, List.forall_mem_cons]
      exact ⟨by decide, hplain⟩
    · simpa only [cs, if_neg hnegative] using hplain
  refine ⟨String.ofList cs, ?_, ?_, ?_⟩
  · unfold intText
    exact if_pos hlength
  · intro hempty
    have hnil : cs = [] := by simpa using congrArg String.toList hempty
    rw [hnil, List.append_nil] at hsign
    exact hne (Prod.ext_iff.mp hsign).2.symm
  · rw [readDouble?_eq_readPlain? hchars, readPlain?_append hsign hdigits hne (by simp),
      digitsValue_decimalChars]
    simp [readExponent?, Number.ofDecimal_natAbs hfinite]

end SheetAudit
