import Mathlib.Tactic
import SheetAudit.Proofs.DoubleRounding

/-!
# The double nearest to a number

Rounding gives the nearest of all doubles, and of two that are equally near the one with the even
rank.  Doubles with the same last bit lie a fixed distance apart, and all smaller ones lie below
the least significand with that bit, so a rounded significand has no nearer rival.  A number that
is a double already is kept.
-/

namespace SheetAudit

/-! ## Ranks -/

section Ranks

variable {num den rank : Nat}

theorem roundHalfEven_nearest (num : Nat) (hden : 0 < den) (whole : Nat) :
    |(roundHalfEven num den : ℚ) - num / den| ≤ |(whole : ℚ) - num / den| ∧
      (|(roundHalfEven num den : ℚ) - num / den| = |(whole : ℚ) - num / den| →
        whole = roundHalfEven num den ∨ roundHalfEven num den % 2 = 0) := by
  obtain ⟨hhalf, heven⟩ := roundHalfEven_spec num hden
  by_cases hsame : whole = roundHalfEven num den
  · simp [hsame]
  · have hapart : (1 : ℚ) ≤ |(whole : ℚ) - roundHalfEven num den| := by
      have hwhole : (1 : Int) ≤ |(whole : Int) - roundHalfEven num den| := by
        apply Int.one_le_abs
        omega
      exact_mod_cast hwhole
    have htriangle := abs_sub_le (whole : ℚ) (num / den) (roundHalfEven num den)
    rw [abs_sub_comm ((num : ℚ) / den)] at htriangle
    refine ⟨by linarith, fun htie => .inr (heven ?_)⟩
    linarith

/-- The value of a rank is a significand with a given shift, or lies below the least one. -/
theorem unitsOfRank_cases (rank shift : Nat) :
    (∃ digits : Nat, unitsOfRank rank = digits * 2 ^ shift) ∨
      (0 < shift ∧ unitsOfRank rank < 2 ^ 52 * 2 ^ shift) := by
  obtain ⟨own, digits, rfl, hdigits, hown⟩ := exists_shift rank
  rw [unitsOfRank_eq hdigits.le hown]
  rcases Nat.lt_or_ge own shift with hless | hgreater
  · right
    refine ⟨by omega, ?_⟩
    calc digits * 2 ^ own < 2 ^ 53 * 2 ^ own := Nat.mul_lt_mul_of_pos_right hdigits (by positivity)
      _ = 2 ^ 52 * 2 ^ (own + 1) := by ring
      _ ≤ 2 ^ 52 * 2 ^ shift := Nat.mul_le_mul_left _ (Nat.pow_le_pow_right two_pos hless)
  · left
    obtain ⟨more, rfl⟩ := Nat.exists_eq_add_of_le hgreater
    exact ⟨digits * 2 ^ more, by ring⟩

/-- Among the significands with its own shift, that of a rounded quotient is nearest. -/
theorem significand_nearest (num : Nat) (hden : 0 < den) (digits : Nat) :
    |(unitsOfRank (nearestRank num den) : ℚ) - num * unitsPerOne / den| ≤
        |(digits * 2 ^ shiftOf num den : ℚ) - num * unitsPerOne / den| ∧
      (|(unitsOfRank (nearestRank num den) : ℚ) - num * unitsPerOne / den| =
          |(digits * 2 ^ shiftOf num den : ℚ) - num * unitsPerOne / den| →
        digits = significand num den ∨ significand num den % 2 = 0) := by
  have hden' : 0 < den * 2 ^ shiftOf num den := by positivity
  have hlast : (0 : ℚ) < 2 ^ shiftOf num den := by positivity
  have hpos : (0 : ℚ) < den := by exact_mod_cast hden
  have hscaled : ∀ count : ℚ, |count * 2 ^ shiftOf num den - num * unitsPerOne / den| =
      |count - (num * unitsPerOne : Nat) / (den * 2 ^ shiftOf num den : Nat)| *
        2 ^ shiftOf num den := by
    intro count
    rw [← abs_of_pos hlast, ← abs_mul, abs_of_pos hlast]
    push_cast
    -- The count of units is never to be computed.
    generalize (unitsPerOne : ℚ) = one
    congr 1
    field_simp
  obtain ⟨hnearest, htie⟩ := roundHalfEven_nearest (num * unitsPerOne) hden' digits
  rw [units_nearestRank hden, Nat.cast_mul, Nat.cast_pow, Nat.cast_ofNat, hscaled, hscaled]
  constructor
  · exact mul_le_mul_of_nonneg_right hnearest hlast.le
  · intro hequal
    exact htie (mul_right_cancel₀ hlast.ne' hequal)

/-- No rank is nearer to a quotient than the one that the quotient is rounded to. -/
theorem nearestRank_nearest (num : Nat) (hden : 0 < den) (rank : Nat) :
    |(unitsOfRank (nearestRank num den) : ℚ) - num * unitsPerOne / den| ≤
        |(unitsOfRank rank : ℚ) - num * unitsPerOne / den| ∧
      (|(unitsOfRank (nearestRank num den) : ℚ) - num * unitsPerOne / den| =
          |(unitsOfRank rank : ℚ) - num * unitsPerOne / den| →
        rank = nearestRank num den ∨ nearestRank num den % 2 = 0) := by
  rcases unitsOfRank_cases rank (shiftOf num den) with ⟨digits, hdigits⟩ | ⟨hshift, hbelow⟩
  · obtain ⟨hnearest, htie⟩ := significand_nearest num hden digits
    rw [hdigits, Nat.cast_mul, Nat.cast_pow, Nat.cast_ofNat]
    refine ⟨hnearest, fun hequal => ?_⟩
    rcases htie hequal with hsame | heven
    · left
      apply unitsOfRank_strictMono.injective
      rw [hdigits, units_nearestRank hden, hsame]
    · right
      rw [nearestRank_eq]
      omega
  · have hleast := (significand_nearest num hden (2 ^ 52)).1
    have hspec : (2 ^ 52 : ℚ) * 2 ^ shiftOf num den ≤ num * unitsPerOne / den := by
      have hbound : (2 ^ 52 : ℚ) * (den * 2 ^ shiftOf num den) ≤ num * unitsPerOne := by
        exact_mod_cast shiftOf_spec hden hshift
      rw [le_div_iff₀ (by exact_mod_cast hden)]
      linarith
    have hunits : (unitsOfRank rank : ℚ) < (2 ^ 52 : ℚ) * 2 ^ shiftOf num den := by
      exact_mod_cast hbelow
    rw [Nat.cast_pow, Nat.cast_ofNat, abs_of_nonpos (sub_nonpos.mpr hspec)] at hleast
    have hfarther : |(unitsOfRank (nearestRank num den) : ℚ) - num * unitsPerOne / den| <
        |(unitsOfRank rank : ℚ) - num * unitsPerOne / den| := by
      rw [abs_of_neg (by linarith : (unitsOfRank rank : ℚ) - num * unitsPerOne / den < 0)]
      linarith
    exact ⟨hfarther.le, fun hequal => absurd hequal hfarther.ne⟩

/-- A quotient that is the value of a rank is rounded to that rank. -/
theorem nearestRank_of_units (hden : 0 < den)
    (hexact : num * unitsPerOne = unitsOfRank rank * den) : nearestRank num den = rank := by
  have hpos : (den : ℚ) ≠ 0 := by exact_mod_cast hden.ne'
  have hquotient : (num : ℚ) * unitsPerOne / den = unitsOfRank rank := by
    rw [div_eq_iff hpos]
    exact_mod_cast hexact
  have hnearest := (nearestRank_nearest num hden rank).1
  rw [hquotient, sub_self, abs_zero, abs_nonpos_iff, sub_eq_zero] at hnearest
  apply unitsOfRank_strictMono.injective
  exact_mod_cast hnearest

end Ranks

/-! ## Numbers -/

namespace Number

/-- The value of a finite number. -/
def value (x : Number) : ℚ := if x.negative then -x.magnitude else x.magnitude

/-- No number is nearer to a value, and one that is as near has the same value, or else the rank is
even. -/
structure IsNearest (x : Number) (q : ℚ) : Prop where
  finite : x.isInfinite = false
  le : ∀ y : Number, y.isInfinite = false → |x.value - q| ≤ |y.value - q|
  even : ∀ y : Number, y.isInfinite = false → |x.value - q| = |y.value - q| →
    y.value = x.value ∨ x.rank % 2 = 0

variable {x y : Number} {n : Int}

theorem ext_iff : x = y ↔ x.negative = y.negative ∧ x.rank = y.rank := by
  cases x
  cases y
  rw [mk.injEq]

theorem abs_value (x : Number) : |x.value| = x.magnitude := by
  unfold value
  split
  · rw [abs_neg, abs_of_nonneg x.magnitude_nonneg]
  · exact abs_of_nonneg x.magnitude_nonneg

theorem isNearest_value (hfinite : x.isInfinite = false) : x.IsNearest x.value := by
  refine ⟨hfinite, fun y _ => ?_, fun y _ hequal => .inl ?_⟩
  · rw [sub_self, abs_zero]
    exact abs_nonneg _
  · rw [sub_self, abs_zero, eq_comm, abs_eq_zero] at hequal
    exact sub_eq_zero.mp hequal

theorem value_eq_or_of_rank (hrank : y.rank = x.rank) : y.value = x.value ∨ y.value = -x.value := by
  have hmagnitude : y.magnitude = x.magnitude := by
    rw [magnitude, magnitude, units, units, hrank]
  unfold value
  rw [hmagnitude]
  cases x.negative <;> cases y.negative <;> simp

/-! ### Whole numbers -/

theorem rank_ofInt (hfinite : (ofInt n).isInfinite = false) :
    (ofInt n).rank = nearestRank n.natAbs 1 := by
  have hrank : (ofInt n).rank = min (nearestRank n.natAbs 1) topRank := rfl
  rw [isInfinite, beq_eq_false_iff_ne, hrank] at hfinite
  rw [hrank]
  omega

theorem abs_value_ofInt_sub (n : Int) :
    |(ofInt n).value - n| = |(ofInt n).magnitude - n.natAbs| := by
  have hsign : (ofInt n).negative = decide (n < 0) := rfl
  rw [value, hsign, Nat.cast_natAbs, Int.cast_abs]
  by_cases hnegative : n < 0
  · have hcast : (n : ℚ) < 0 := by exact_mod_cast hnegative
    rw [decide_eq_true hnegative, if_pos rfl, abs_of_neg hcast, ← abs_neg]
    congr 1
    ring
  · have hcast : (0 : ℚ) ≤ n := by exact_mod_cast Int.not_lt.mp hnegative
    rw [decide_eq_false hnegative, if_neg Bool.false_ne_true, abs_of_nonneg hcast]

theorem abs_magnitude_sub_le_abs_value_sub (y : Number) (n : Int) :
    |y.magnitude - n.natAbs| ≤ |y.value - n| := by
  rw [← abs_value, Nat.cast_natAbs, Int.cast_abs]
  exact abs_abs_sub_abs_le _ _

/-- The magnitude of a rounded whole number is the nearest magnitude. -/
theorem magnitude_ofInt_nearest (hfinite : (ofInt n).isInfinite = false) (y : Number) :
    |(ofInt n).magnitude - n.natAbs| ≤ |y.magnitude - n.natAbs| ∧
      (|(ofInt n).magnitude - n.natAbs| = |y.magnitude - n.natAbs| →
        y.rank = (ofInt n).rank ∨ (ofInt n).rank % 2 = 0) := by
  have hone : (0 : ℚ) < unitsPerOne := by exact_mod_cast unitsPerOne_pos
  have hscaled : ∀ z : Number, |z.magnitude - n.natAbs| =
      |(unitsOfRank z.rank : ℚ) - n.natAbs * unitsPerOne / (1 : Nat)| / unitsPerOne := by
    intro z
    rw [magnitude, units, Nat.cast_one, div_one, ← abs_of_pos hone, ← abs_div, abs_of_pos hone,
      sub_div, mul_div_cancel_right₀ _ hone.ne']
  obtain ⟨hnearest, htie⟩ := nearestRank_nearest n.natAbs one_pos y.rank
  rw [← rank_ofInt hfinite] at hnearest htie
  rw [hscaled, hscaled, div_left_inj' hone.ne']
  exact ⟨div_le_div_of_nonneg_right hnearest hone.le, htie⟩

/-- A whole number is rounded to the number nearest to it. -/
theorem isNearest_ofInt (hfinite : (ofInt n).isInfinite = false) : (ofInt n).IsNearest n := by
  refine ⟨hfinite, fun y _ => ?_, fun y _ hequal => ?_⟩
  · rw [abs_value_ofInt_sub]
    exact (magnitude_ofInt_nearest hfinite y).1.trans (abs_magnitude_sub_le_abs_value_sub y n)
  · obtain ⟨hnearest, htie⟩ := magnitude_ofInt_nearest hfinite y
    have hbound := abs_magnitude_sub_le_abs_value_sub y n
    rw [← hequal, abs_value_ofInt_sub] at hbound
    rcases htie (le_antisymm hnearest hbound) with hrank | heven
    · rcases value_eq_or_of_rank hrank with hsame | hopposite
      · exact .inl hsame
      -- A number and its opposite are equally near only to zero, or if they are zero.
      · rw [hopposite, abs_eq_abs] at hequal
        rcases hequal with hzero | hwhole
        · left
          rw [hopposite]
          linarith
        · have hn : n = 0 := by
            have hcast : (n : ℚ) = 0 := by linarith
            exact_mod_cast hcast
          right
          rw [hn]
          decide +kernel
    · exact .inr heven

/-! ### Numbers with a whole value -/

theorem magnitude_of_value (hvalue : x.value = n) : x.magnitude = n.natAbs := by
  rw [← abs_value, hvalue, Nat.cast_natAbs, Int.cast_abs]

theorem units_of_value (hvalue : x.value = n) : x.units = n.natAbs * unitsPerOne := by
  have hone : (unitsPerOne : ℚ) ≠ 0 := by exact_mod_cast unitsPerOne_pos.ne'
  have hmagnitude := magnitude_of_value hvalue
  rw [magnitude, div_eq_iff hone] at hmagnitude
  exact_mod_cast hmagnitude

theorem signed_of_value (hvalue : x.value = n) :
    (if x.negative then -(n.natAbs : Int) else n.natAbs) = n := by
  apply Rat.intCast_injective
  rw [← hvalue, value, magnitude_of_value hvalue, apply_ite Int.cast, Int.cast_neg,
    Int.cast_natCast]

theorem toInt?_of_value (hfinite : x.isInfinite = false) (hvalue : x.value = n) :
    x.toInt? = some n := by
  have hsigned := signed_of_value hvalue
  unfold toInt?
  rw [hfinite, units_of_value hvalue, Nat.mul_mod_left, Nat.mul_div_cancel _ unitsPerOne_pos]
  simpa using hsigned

theorem rank_ofInt_of_value (hvalue : x.value = n) : (ofInt n).rank = x.rank := by
  have hexact : n.natAbs * unitsPerOne = unitsOfRank x.rank * 1 := by
    rw [← units_of_value hvalue, Nat.mul_one, units]
  have hnearest : nearestRank n.natAbs 1 = x.rank := nearestRank_of_units one_pos hexact
  change min (nearestRank n.natAbs 1) topRank = x.rank
  rw [hnearest]
  exact min_eq_left x.rank_le

/-- A number with a whole value other than zero is what the value is rounded to. -/
theorem ofInt_of_value (hvalue : x.value = n) (hsome : x.isZero = false) : ofInt n = x := by
  have hrank := rank_ofInt_of_value hvalue
  have hn : n ≠ 0 := by
    rintro rfl
    have hzero : (ofInt 0).rank = 0 := by decide +kernel
    rw [hzero] at hrank
    simp [isZero, ← hrank] at hsome
  have hsign : (ofInt n).negative = x.negative := by
    have hsigned := signed_of_value hvalue
    change decide (n < 0) = x.negative
    cases hnegative : x.negative with
    | true =>
        simp only [hnegative, if_true] at hsigned
        exact decide_eq_true (by omega)
    | false =>
        simp only [hnegative, Bool.false_eq_true, if_false] at hsigned
        exact decide_eq_false (by omega)
  rw [Number.ext_iff]
  exact ⟨hsign, hrank⟩

end Number

end SheetAudit
