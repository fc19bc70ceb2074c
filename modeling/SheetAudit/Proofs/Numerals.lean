import SheetAudit.Proofs.NumberTexts

/-!
# Numerals

A numeral is a sign, if any, then digits with at most one point before, among or behind them, and an
exponent, if any.  Every numeral reads as a number.
-/

namespace SheetAudit

open Text

/-- Nothing but ASCII digits. -/
def AllDigits (cs : List Char) : Prop := ∀ c ∈ cs, c.isDigit = true

/-- A sign or nothing. -/
def IsSign (cs : List Char) : Prop := cs = [] ∨ cs = ['-'] ∨ cs = ['+']

/-- Digits, or digits with a point and at least one digit on either side of it. -/
inductive IsMagnitude : List Char → Prop where
  | whole {digits : List Char} (hdigits : AllDigits digits) (hne : digits ≠ []) :
      IsMagnitude digits
  | point {digits fraction : List Char} (hdigits : AllDigits digits)
      (hfraction : AllDigits fraction) (hsome : digits ≠ [] ∨ fraction ≠ []) :
      IsMagnitude (digits ++ '.' :: fraction)

/-- A letter, a sign, if any, and digits; or nothing. -/
inductive IsExponent : List Char → Prop where
  | absent : IsExponent []
  | present {mark : Char} {sign digits : List Char} (hmark : mark = 'e' ∨ mark = 'E')
      (hsign : IsSign sign) (hdigits : AllDigits digits) (hne : digits ≠ []) :
      IsExponent (mark :: (sign ++ digits))

/-- A sign, if any, a magnitude and an exponent, if any. -/
def IsNumeral (cs : List Char) : Prop :=
  ∃ sign magnitude exponent, IsSign sign ∧ IsMagnitude magnitude ∧ IsExponent exponent ∧
    cs = sign ++ (magnitude ++ exponent)

variable {cs digits fraction sign magnitude exponent rest : List Char}

/-! ## Characters -/

theorem AllDigits.append (hdigits : AllDigits digits) (hfraction : AllDigits fraction) :
    AllDigits (digits ++ fraction) :=
  List.forall_mem_append.mpr ⟨hdigits, hfraction⟩

theorem AllDigits.standsAsIs (hdigits : AllDigits digits) : ∀ c ∈ digits, StandsAsIs c :=
  fun c hc => standsAsIs_of_isDigit (hdigits c hc)

theorem IsSign.standsAsIs (hsign : IsSign sign) : ∀ c ∈ sign, StandsAsIs c := by
  have hmarks : StandsAsIs '-' ∧ StandsAsIs '+' := by decide
  rcases hsign with rfl | rfl | rfl <;> simp [hmarks]

theorem IsMagnitude.standsAsIs (hmagnitude : IsMagnitude magnitude) :
    ∀ c ∈ magnitude, StandsAsIs c := by
  cases hmagnitude with
  | whole hdigits _ => exact hdigits.standsAsIs
  | point hdigits hfraction _ =>
      rw [List.forall_mem_append, List.forall_mem_cons]
      exact ⟨hdigits.standsAsIs, by decide, hfraction.standsAsIs⟩

theorem IsExponent.standsAsIs (hexponent : IsExponent exponent) :
    ∀ c ∈ exponent, StandsAsIs c := by
  cases hexponent with
  | absent => simp
  | present hmark hsign hdigits _ =>
      rw [List.forall_mem_cons, List.forall_mem_append]
      refine ⟨?_, hsign.standsAsIs, hdigits.standsAsIs⟩
      rcases hmark with rfl | rfl <;> decide

theorem IsNumeral.standsAsIs (hcs : IsNumeral cs) : ∀ c ∈ cs, StandsAsIs c := by
  obtain ⟨sign, magnitude, exponent, hsign, hmagnitude, hexponent, rfl⟩ := hcs
  rw [List.forall_mem_append, List.forall_mem_append]
  exact ⟨hsign.standsAsIs, hmagnitude.standsAsIs, hexponent.standsAsIs⟩

/-- A magnitude starts with a digit or with the point. -/
theorem IsMagnitude.exists_first (hmagnitude : IsMagnitude magnitude) :
    ∃ first others, magnitude = first :: others ∧ (first.isDigit = true ∨ first = '.') := by
  cases hmagnitude with
  | whole hdigits hne =>
      obtain ⟨first, others, rfl⟩ := List.exists_cons_of_ne_nil hne
      exact ⟨first, others, rfl, .inl (hdigits first (by simp))⟩
  | @point digits fraction hdigits _ _ =>
      cases digits with
      | nil => exact ⟨'.', fraction, rfl, .inr rfl⟩
      | cons first others => exact ⟨first, _, rfl, .inl (hdigits first (by simp))⟩

/-! ## Signs and exponents -/

theorem exists_splitSign (hsign : IsSign sign) (hmagnitude : IsMagnitude magnitude)
    (rest : List Char) :
    ∃ negative, splitSign (sign ++ (magnitude ++ rest)) = (negative, magnitude ++ rest) := by
  rcases hsign with rfl | rfl | rfl
  · obtain ⟨first, others, rfl, hdigit | rfl⟩ := hmagnitude.exists_first
    · exact ⟨false, splitSign_of_digit hdigit _⟩
    · exact ⟨false, rfl⟩
  · exact ⟨true, rfl⟩
  · exact ⟨false, rfl⟩

theorem exists_splitSign_digits (hsign : IsSign sign) (hdigits : AllDigits digits)
    (hne : digits ≠ []) : ∃ negative, splitSign (sign ++ digits) = (negative, digits) := by
  have hsplit := exists_splitSign hsign (.whole hdigits hne) []
  rwa [List.append_nil] at hsplit

theorem IsExponent.exists_value (hexponent : IsExponent exponent) :
    ∃ value, readExponent? exponent = some value := by
  cases hexponent with
  | absent => exact ⟨0, rfl⟩
  | @present mark sign digits hmark hsign hdigits hne =>
      obtain ⟨negative, hsplit⟩ := exists_splitSign_digits hsign hdigits hne
      have hlower : mark.toLower = 'e' := by rcases hmark with rfl | rfl <;> rfl
      have hall : digits.all Char.isDigit = true := List.all_eq_true.mpr hdigits
      refine ⟨if negative then -(digitsValue digits : Int) else digitsValue digits, ?_⟩
      unfold readExponent?
      simp [hsplit, hlower, hne, hall]

theorem IsExponent.head (hexponent : IsExponent exponent) :
    ∀ c ∈ exponent.head?, c.isDigit = false ∧ c ≠ '.' := by
  cases hexponent with
  | absent => simp
  | present hmark =>
      rintro c ⟨⟩
      rcases hmark with rfl | rfl <;> decide

/-! ## Reading -/

theorem isEmpty_and_eq_false (hsome : digits ≠ [] ∨ fraction ≠ []) :
    (digits.isEmpty && fraction.isEmpty) = false := by
  simpa [imp_iff_not_or] using hsome

theorem readDecimal?_point (hdigits : AllDigits digits) (hfraction : AllDigits fraction)
    (hsome : digits ≠ [] ∨ fraction ≠ []) (hrest : ∀ c ∈ rest.head?, c.isDigit = false)
    (negative : Bool) :
    readDecimal? negative (digits ++ '.' :: (fraction ++ rest)) =
      (readExponent? rest).map fun exponent =>
        Number.ofDecimal negative (digitsValue (digits ++ fraction))
          (exponent - fraction.length) := by
  have hpoint : ∀ c ∈ ('.' :: (fraction ++ rest)).head?, c.isDigit = false := by
    rintro c ⟨⟩
    rfl
  have hwhole : (digits ++ '.' :: (fraction ++ rest)).takeWhile Char.isDigit = digits := by
    rw [takeWhile_append_of_head _ hpoint]
    exact List.takeWhile_eq_self_iff.mpr hdigits
  have hbehind :
      (digits ++ '.' :: (fraction ++ rest)).dropWhile Char.isDigit = '.' :: (fraction ++ rest) := by
    rw [List.dropWhile_append_of_pos hdigits]
    exact dropWhile_eq_self hpoint
  have htake : (fraction ++ rest).takeWhile Char.isDigit = fraction := by
    rw [takeWhile_append_of_head _ hrest]
    exact List.takeWhile_eq_self_iff.mpr hfraction
  have hdrop : (fraction ++ rest).dropWhile Char.isDigit = rest := by
    rw [List.dropWhile_append_of_pos hfraction]
    exact dropWhile_eq_self hrest
  unfold readDecimal?
  simp only [hwhole, hbehind, htake, hdrop, isEmpty_and_eq_false hsome, Bool.false_eq_true,
    if_false]

theorem exists_readDecimal? (hmagnitude : IsMagnitude magnitude) (hexponent : IsExponent exponent)
    (negative : Bool) : ∃ x, readDecimal? negative (magnitude ++ exponent) = some x := by
  obtain ⟨value, hvalue⟩ := hexponent.exists_value
  cases hmagnitude with
  | whole hdigits hne =>
      rw [readDecimal?_append hdigits hne hexponent.head, hvalue]
      exact ⟨_, rfl⟩
  | point hdigits hfraction hsome =>
      rw [List.append_assoc, List.cons_append,
        readDecimal?_point hdigits hfraction hsome fun c hc => (hexponent.head c hc).1, hvalue]
      exact ⟨_, rfl⟩

/-- Every numeral reads as a number. -/
theorem IsNumeral.exists_readPlain? (hcs : IsNumeral cs) :
    ∃ x, readPlain? cs = some (.number x) := by
  obtain ⟨sign, magnitude, exponent, hsign, hmagnitude, hexponent, rfl⟩ := hcs
  obtain ⟨negative, hsplit⟩ := exists_splitSign hsign hmagnitude exponent
  obtain ⟨x, hread⟩ := exists_readDecimal? hmagnitude hexponent negative
  obtain ⟨first, others, rfl, hfirst⟩ := hmagnitude.exists_first
  have hletters : first.toLower ≠ 'i' ∧ first.toLower ≠ 'n' := by
    rcases hfirst with hdigit | rfl
    · rw [toLower_of_isDigit hdigit]
      constructor <;> rintro rfl <;> cases hdigit
    · decide
  refine ⟨x, ?_⟩
  unfold readPlain?
  simp only [hsplit, hread]
  simp [hletters]

theorem IsNumeral.exists_readDouble? (hcs : IsNumeral cs) :
    ∃ x, readDouble? (String.ofList cs) = some (.number x) := by
  rw [readDouble?_eq_readPlain? hcs.standsAsIs]
  exact hcs.exists_readPlain?

end SheetAudit
