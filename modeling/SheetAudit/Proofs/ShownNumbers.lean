import SheetAudit.Proofs.CellTexts
import SheetAudit.Proofs.Numerals
import SheetAudit.Proofs.RangeBounds

/-!
# Texts of cells that count as numbers

The text that a cell shows reads as a number if and only if the cell counts as one.  The texts of
numbers are numerals or words for infinity, and no other text that a typed cell shows is.
-/

namespace SheetAudit

open Text

variable {digits magnitude exponent : List Char}

/-! ## Digits -/

theorem allDigits_decimalChars (n : Nat) : AllDigits (decimalChars n) :=
  fun _ hc => isDigit_of_mem_decimalChars hc

theorem decimalChars_ne_nil (n : Nat) : decimalChars n ≠ [] := Nat.toDigits_ne_nil

theorem allDigits_zeros (count : Nat) : AllDigits (List.replicate count '0') := by
  intro c hc
  rw [List.eq_of_mem_replicate hc]
  rfl

theorem AllDigits.take (hdigits : AllDigits digits) (count : Nat) : AllDigits (digits.take count) :=
  fun c hc => hdigits c (List.mem_of_mem_take hc)

theorem AllDigits.drop (hdigits : AllDigits digits) (count : Nat) : AllDigits (digits.drop count) :=
  fun c hc => hdigits c (List.mem_of_mem_drop hc)

/-- Digits cut in two with a point between. -/
theorem AllDigits.isMagnitude_cut (hdigits : AllDigits digits) (hne : digits ≠ []) (count : Nat) :
    IsMagnitude (digits.take count ++ '.' :: digits.drop count) := by
  apply IsMagnitude.point (hdigits.take count) (hdigits.drop count)
  by_contra! hnone
  apply hne
  rw [← List.take_append_drop count digits, hnone.1, hnone.2, List.append_nil]

/-- Digits behind a point and some zeros. -/
theorem AllDigits.isMagnitude_zero (hdigits : AllDigits digits) (count : Nat) :
    IsMagnitude ('0' :: '.' :: List.replicate count '0' ++ digits) := by
  have hfraction := (allDigits_zeros count).append hdigits
  exact IsMagnitude.point (allDigits_zeros 1) hfraction (.inl (by decide))

theorem IsMagnitude.isNumeral_signed (hmagnitude : IsMagnitude magnitude)
    (hexponent : IsExponent exponent) (negative : Bool) :
    IsNumeral (if negative then '-' :: (magnitude ++ exponent) else magnitude ++ exponent) := by
  cases negative with
  | true => exact ⟨['-'], magnitude, exponent, .inr (.inl rfl), hmagnitude, hexponent, rfl⟩
  | false => exact ⟨[], magnitude, exponent, .inl rfl, hmagnitude, hexponent, rfl⟩

/-! ## Whole numbers -/

theorem toString_int (n : Int) : toString n =
    String.ofList (if n < 0 then '-' :: decimalChars n.natAbs else decimalChars n.natAbs) := by
  cases n with
  | ofNat n =>
      have hpositive : ¬ Int.ofNat n < 0 := Int.not_lt.mpr (Int.natCast_nonneg n)
      rw [if_neg hpositive]
      rfl
  | negSucc n =>
      rw [if_pos (Int.negSucc_lt_zero n), String.ofList_cons]
      rfl

theorem exists_readDouble?_toString (n : Int) :
    ∃ x, readDouble? (toString n) = some (.number x) := by
  have hwhole : IsMagnitude (decimalChars n.natAbs) :=
    .whole (allDigits_decimalChars _) (decimalChars_ne_nil _)
  have hnumeral := hwhole.isNumeral_signed .absent (decide (n < 0))
  rw [List.append_nil] at hnumeral
  rw [toString_int]
  simpa only [decide_eq_true_eq] using hnumeral.exists_readDouble?

/-! ## Decimal numbers -/

namespace Decimal

theorem isExponent_exponentText (exponent : Int) : IsExponent (exponentText exponent) := by
  have hdigits := allDigits_decimalChars exponent.natAbs
  have hne := decimalChars_ne_nil exponent.natAbs
  unfold exponentText
  split
  · exact .present (.inr rfl) (.inr (.inl rfl)) hdigits hne
  · exact .present (.inr rfl) (.inr (.inr rfl)) hdigits hne

theorem exists_finiteText (coefficient : Nat) (exponent : Int) :
    ∃ magnitude tail, IsMagnitude magnitude ∧ IsExponent tail ∧
      finiteText coefficient exponent = magnitude ++ tail := by
  have hdigits := allDigits_decimalChars coefficient
  have hne := decimalChars_ne_nil coefficient
  unfold finiteText
  extract_lets digits left point body
  have hbody : IsMagnitude body := by
    unfold body
    split
    · exact hdigits.isMagnitude_zero _
    · split
      · exact .whole (hdigits.append (allDigits_zeros _)) (List.append_ne_nil_of_left_ne_nil hne _)
      · exact hdigits.isMagnitude_cut hne _
  split
  · exact ⟨body, [], hbody, .absent, (List.append_nil _).symm⟩
  · exact ⟨body, _, hbody, isExponent_exponentText _, rfl⟩

theorem exists_readDouble?_finite (negative : Bool) (coefficient : Nat) (exponent : Int) :
    ∃ x, readDouble? (Decimal.finite negative coefficient exponent).text = some (.number x) := by
  obtain ⟨magnitude, tail, hmagnitude, htail, htext⟩ := exists_finiteText coefficient exponent
  rw [text, htext]
  exact (hmagnitude.isNumeral_signed htail negative).exists_readDouble?

end Decimal

theorem joinDigits_cons {c : Char} (hline : c ≠ '_') (last : Char) (cs : List Char) :
    joinDigits last (c :: cs) = (joinDigits c cs).map (c :: ·) := by
  simp [joinDigits, hline]

/-- A text that starts with a letter of the word for a NaN reads as no number: it is that word, or
nothing that could be read. -/
theorem textNumber_of_word {sign : List Char} (hsign : sign = [] ∨ sign = ['-'])
    (rest : List Char) : Cell.textNumber (String.ofList (sign ++ 'N' :: rest)) = none := by
  have hword : ∀ negative cs later, splitSign cs = (negative, 'N' :: later) →
      (readPlain? cs).bind Double.toNumber? = none := by
    intro negative cs later hsplit
    have hdecimal : readDecimal? negative ('N' :: later) = none := rfl
    unfold readPlain?
    simp only [hsplit, hdecimal]
    split
    · next hinfinite => simp at hinfinite
    · split <;> rfl
  have hletter : ∀ later, plainDigits ('N' :: later) = 'N' :: plainDigits later := fun _ => rfl
  rw [Cell.textNumber, readDouble?, String.toList_ofList, Option.bind_assoc]
  rcases hsign with rfl | rfl
  · rw [List.nil_append, trimChars_cons (by decide), hletter, joinDigits_cons (by decide),
      Option.bind_map, Option.bind_eq_none_iff]
    intro later _
    exact hword false _ later rfl
  · have hdash : ∀ later, plainDigits ('-' :: later) = '-' :: plainDigits later := fun _ => rfl
    rw [List.singleton_append, trimChars_cons (by decide), dropBlankEnd_cons (by decide), hdash,
      hletter, joinDigits_cons (by decide), joinDigits_cons (by decide), Option.map_map,
      Option.bind_map, Option.bind_eq_none_iff]
    intro later _
    exact hword true _ later rfl

namespace Decimal

theorem exists_readDouble?_infinite (negative : Bool) :
    ∃ x, readDouble? (Decimal.infinite negative).text = some (.number x) := by
  cases negative
  · exact ⟨.infinity false, by decide +kernel⟩
  · exact ⟨.infinity true, by decide +kernel⟩

theorem textNumber_nan (negative : Bool) (payload : List Char) :
    Cell.textNumber (Decimal.nan negative false payload).text = none := by
  cases negative with
  | false => exact textNumber_of_word (.inl rfl) ('a' :: 'N' :: payload)
  | true => exact textNumber_of_word (.inr rfl) ('a' :: 'N' :: payload)

end Decimal

/-! ## Floating-point numbers -/

theorem unitsOfRank_pos {rank : Nat} (hrank : 0 < rank) : 0 < unitsOfRank rank := by
  have hone : unitsOfRank 1 = 1 := by decide
  have hmono := unitsOfRank_mono (show 1 ≤ rank from hrank)
  omega

theorem scaleByTen_zero (den : Nat) (power : Int) : (scaleByTen 0 den power).1 = 0 := by
  cases power <;> simp [scaleByTen]

theorem scaleByTen_den_pos (num : Nat) (power : Int) : 0 < (scaleByTen num 1 power).2 := by
  cases power with
  | ofNat e => exact one_pos
  | negSucc e => simp [scaleByTen, tenPow]

/-- Zero reads back as no other number. -/
theorem readsBack_zero {rank den : Nat} (hrank : 0 < rank) (hden : 0 < den) :
    readsBack rank 0 den = false := by
  unfold readsBack
  extract_lets twice low high
  have htwice : twice = 0 := by simp [twice]
  have hlow : 0 < low := Nat.mul_pos (Nat.add_pos_right _ (unitsOfRank_pos hrank)) hden
  split
  · rw [htwice, decide_eq_false (Nat.not_le.mpr hlow), Bool.false_and]
  · rw [htwice, decide_eq_false (Nat.not_lt_zero low), Bool.false_and]

theorem gridPoint?_pos {rank count value : Nat} {point : Int} (hrank : 0 < rank)
    (hvalue : gridPoint? rank point count = some value) : 0 < value := by
  by_contra hnone
  have hzero : value = 0 := by omega
  have hfits : readsBack rank (scaleByTen value 1 (point - count)).1
      (scaleByTen value 1 (point - count)).2 = true := by
    unfold gridPoint? at hvalue
    grind
  rw [hzero, scaleByTen_zero, readsBack_zero hrank (scaleByTen_den_pos _ _)] at hfits
  cases hfits

theorem AllDigits.dropFinalZeros (hdigits : AllDigits digits) :
    AllDigits (dropFinalZeros digits) := by
  intro c hc
  rw [SheetAudit.dropFinalZeros, List.mem_reverse] at hc
  exact hdigits c (List.mem_reverse.mp ((List.dropWhile_suffix _).subset hc))

theorem dropFinalZeros_ne_nil {n : Nat} (hn : 0 < n) : dropFinalZeros (decimalChars n) ≠ [] := by
  intro hnil
  rw [dropFinalZeros, List.reverse_eq_nil_iff, List.dropWhile_eq_nil_iff] at hnil
  have hzero : digitsValue (decimalChars n) = 0 := by
    apply digitsValue_eq_zero
    intro c hc
    simpa using hnil c (List.mem_reverse.mpr hc)
  rw [digitsValue_decimalChars] at hzero
  omega

theorem digits_shortestFrom {rank : Nat} (hrank : 0 < rank) (point : Int) (count tries : Nat) :
    AllDigits (shortestFrom rank point count tries).digits ∧
      (shortestFrom rank point count tries).digits ≠ [] := by
  induction tries generalizing count with
  | zero => exact ⟨allDigits_zeros 1, by simp [shortestFrom]⟩
  | succ tries ih =>
      rw [shortestFrom]
      split
      · next value hvalue =>
        exact ⟨(allDigits_decimalChars value).dropFinalZeros,
          dropFinalZeros_ne_nil (gridPoint?_pos hrank hvalue)⟩
      · exact ih (count + 1)

theorem digits_shortest {rank : Nat} (hrank : 0 < rank) :
    AllDigits (shortest rank).digits ∧ (shortest rank).digits ≠ [] :=
  digits_shortestFrom hrank _ 1 17

namespace Significant

variable {s : Significant}

theorem isMagnitude_positional (hdigits : AllDigits s.digits) (hne : s.digits ≠ []) :
    IsMagnitude (positional s) := by
  unfold positional
  split
  · exact hdigits.isMagnitude_zero _
  · exact hdigits.isMagnitude_zero 0
  · split
    · exact .point (hdigits.append (allDigits_zeros _)) (allDigits_zeros 1) (.inr (by decide))
    · exact hdigits.isMagnitude_cut hne _

theorem exists_scientific (hdigits : AllDigits s.digits) (hne : s.digits ≠ []) :
    ∃ magnitude tail, IsMagnitude magnitude ∧ IsExponent tail ∧
      scientific s = magnitude ++ tail := by
  unfold scientific
  extract_lets exponent places sign fraction
  have hplaces : AllDigits (List.replicate (2 - places.length) '0' ++ places) :=
    (allDigits_zeros _).append (allDigits_decimalChars _)
  have hplacesNe : List.replicate (2 - places.length) '0' ++ places ≠ [] :=
    List.append_ne_nil_of_right_ne_nil _ (decimalChars_ne_nil _)
  have htail : IsExponent ('e' :: sign :: (List.replicate (2 - places.length) '0' ++ places)) := by
    unfold sign
    split
    · exact .present (.inl rfl) (.inr (.inl rfl)) hplaces hplacesNe
    · exact .present (.inl rfl) (.inr (.inr rfl)) hplaces hplacesNe
  have hfirst : s.digits.take 1 ≠ [] := by simp [hne]
  have hmagnitude : IsMagnitude
      (s.digits.take 1 ++ if fraction.isEmpty then [] else '.' :: fraction) := by
    split
    · rw [List.append_nil]
      exact .whole (hdigits.take 1) hfirst
    · exact .point (hdigits.take 1) (hdigits.drop 1) (.inl hfirst)
  exact ⟨_, _, hmagnitude, htail, List.append_assoc ..⟩

end Significant

namespace Number

variable {x : Number}

theorem exists_text (hfinite : x.isInfinite = false) :
    ∃ magnitude tail, IsMagnitude magnitude ∧ IsExponent tail ∧ x.text =
      String.ofList (if x.negative then '-' :: (magnitude ++ tail) else magnitude ++ tail) := by
  unfold text
  simp only [hfinite, Bool.false_eq_true, if_false]
  cases hzero : x.isZero with
  | true =>
      have hmagnitude : IsMagnitude "0.0".toList :=
        .point (allDigits_zeros 1) (allDigits_zeros 1) (.inl (by decide))
      exact ⟨_, [], hmagnitude, .absent, by simp⟩
  | false =>
      have hrank : 0 < x.rank := by
        rw [isZero, beq_eq_false_iff_ne] at hzero
        omega
      obtain ⟨hdigits, hne⟩ := digits_shortest hrank
      cases hplace : isPositional (shortest x.rank) with
      | true =>
          have hmagnitude := Significant.isMagnitude_positional hdigits hne
          exact ⟨_, [], hmagnitude, .absent, by simp⟩
      | false =>
          obtain ⟨magnitude, tail, hmagnitude, htail, htext⟩ :=
            Significant.exists_scientific hdigits hne
          exact ⟨magnitude, tail, hmagnitude, htail, by simp [htext]⟩

theorem exists_readDouble?_text (x : Number) :
    ∃ y, readDouble? x.text = some (.number y) := by
  cases hinfinite : x.isInfinite with
  | true =>
      unfold text
      simp only [hinfinite, if_true]
      cases x.negative
      · exact ⟨infinity false, by decide +kernel⟩
      · exact ⟨infinity true, by decide +kernel⟩
  | false =>
      obtain ⟨magnitude, tail, hmagnitude, htail, htext⟩ := exists_text hinfinite
      rw [htext]
      exact (hmagnitude.isNumeral_signed htail x.negative).exists_readDouble?

end Number

theorem exists_readDouble?_shownDouble (x : Number) :
    ∃ y, readDouble? (Cell.shownDouble (.number x)) = some (.number y) := by
  simp only [Cell.shownDouble]
  split
  · exact exists_readDouble?_toString _
  · exact x.exists_readDouble?_text

/-! ## Cells -/

namespace Cell

variable {cell : Cell} {number? : Option Number}

theorem ne_empty_of_textNumber {s : String} (hs : (textNumber s).isSome = true) : s ≠ "" := by
  rintro rfl
  rw [textNumber_empty] at hs
  cases hs

theorem textNumber_isSome_of_read {s : String} (hread : ∃ x, readDouble? s = some (.number x)) :
    (textNumber s).isSome = true := by
  obtain ⟨x, hx⟩ := hread
  rw [textNumber, hx]
  rfl

/-- A cell shows a text that reads as a number if and only if the cell counts as one, and that is
empty if and only if the cell counts as nothing. -/
structure Shows (cell : Cell) (s : String) (number? : Option Number) : Prop where
  shown : cell.shown = .ok s
  reads : (textNumber s).isSome = number?.isSome
  isEmpty_iff : cell.isEmpty = true ↔ s = ""

theorem IsTyped.exists_shows (htyped : cell.IsTyped) (hnumber : cell.number = .ok number?) :
    ∃ s, cell.Shows s number? := by
  obtain ⟨s, hshown, hne, hread⟩ := htyped.exists_text
  rw [hread] at hnumber
  cases hnumber
  exact ⟨s, hshown, rfl, by simp [htyped.isEmpty_eq_false, hne]⟩

theorem shows_of_read {s : String} (hread : ∃ x, readDouble? s = some (.number x))
    (hshown : cell.shown = .ok s) (hfilled : cell.isEmpty = false) (x : Number) :
    cell.Shows s (some x) := by
  have htext := textNumber_isSome_of_read hread
  exact ⟨hshown, by rw [htext, Option.isSome_some],
    by simp [hfilled, ne_empty_of_textNumber htext]⟩

theorem shows_nothing (hshown : cell.shown = .ok "") (hempty : cell.isEmpty = true) :
    cell.Shows "" none :=
  ⟨hshown, by rw [textNumber_empty], by simp [hempty]⟩

theorem exists_shows_decimal {value : Decimal} (hnumber : decimalNumber value = .ok number?) :
    ∃ s, (Cell.decimal value).Shows s number? := by
  cases value with
  | finite negative coefficient exponent =>
      cases hnumber
      exact ⟨_, shows_of_read (Decimal.exists_readDouble?_finite ..) rfl rfl _⟩
  | infinite negative =>
      cases hnumber
      exact ⟨_, shows_of_read (Decimal.exists_readDouble?_infinite negative) rfl rfl _⟩
  | nan negative signaling payload =>
      cases signaling with
      | true => cases hnumber
      | false =>
          cases hnumber
          have hletter : 'N' ∈ (Decimal.nan negative false payload).text.toList := by
            cases negative <;> simp [Decimal.text]
          have hfilled : (Cell.decimal (.nan negative false payload)).isEmpty = false := rfl
          exact ⟨_, rfl, by rw [Decimal.textNumber_nan], by simp [hfilled, ne_empty_of_mem hletter]⟩

/-- Every scalar cell that can be asked for its number shows a text. -/
theorem exists_shows (hscalar : cell.IsScalar) (hnumber : cell.number = .ok number?) :
    ∃ s, cell.Shows s number? := by
  cases cell with
  | empty =>
      cases hnumber
      exact ⟨"", shows_nothing rfl rfl⟩
  | bool truth => exact (IsTyped.bool truth).exists_shows hnumber
  | int n =>
      cases hfinite : (Number.ofInt n).isInfinite with
      | true =>
          rw [number, hfinite] at hnumber
          cases hnumber
      | false => exact (IsTyped.int hfinite).exists_shows hnumber
  | double value =>
      cases value with
      | nan =>
          cases hnumber
          exact ⟨"", shows_nothing rfl rfl⟩
      | number x =>
          cases hnumber
          exact ⟨_, shows_of_read (exists_readDouble?_shownDouble x) rfl rfl x⟩
  | decimal value => exact exists_shows_decimal hnumber
  | text s =>
      cases hnumber
      exact ⟨s, rfl, rfl, by by_cases hs : s = "" <;> simp [isEmpty, normalized, hs]⟩
  | date d => exact (IsTyped.date d).exists_shows hnumber
  | dateTime t => exact (IsTyped.dateTime t).exists_shows hnumber
  | clock t => exact (IsTyped.clock t).exists_shows hnumber
  | duration d => exact (IsTyped.duration d).exists_shows hnumber
  | list items => exact absurd rfl (hscalar items)

end Cell

end SheetAudit
