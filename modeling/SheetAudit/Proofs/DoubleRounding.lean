import Mathlib.Tactic
import SheetAudit.Number.Double

/-!
# Order and error of rounding

A quotient is rounded to a significand of at most 53 bits, so a greater quotient is never rounded to
a lesser number, and the error is small beside the quotient.
-/

namespace SheetAudit

/-! ## Rounding to a whole number -/

section Whole

variable {num den num' den' : Nat}

theorem div_add_mod_eq_div (num : Nat) (hden : 0 < den) :
    ((num / den : Nat) : ℚ) + ((num % den : Nat) : ℚ) / den = num / den := by
  have hpos : (0 : ℚ) < den := by exact_mod_cast hden
  have hsum : (den : ℚ) * (num / den : Nat) + (num % den : Nat) = num := by
    exact_mod_cast Nat.div_add_mod num den
  rw [← hsum]
  field_simp

/-- A quotient lies within a half of the whole number that it is rounded to, and if it lies a half
away, that number is even. -/
theorem roundHalfEven_spec (num : Nat) (hden : 0 < den) :
    |(roundHalfEven num den : ℚ) - num / den| ≤ 1 / 2 ∧
      (|(roundHalfEven num den : ℚ) - num / den| = 1 / 2 → roundHalfEven num den % 2 = 0) := by
  have hpos : (0 : ℚ) < den := by exact_mod_cast hden
  have hsplit := div_add_mod_eq_div num hden
  have hlow : (0 : ℚ) ≤ ((num % den : Nat) : ℚ) / den := by positivity
  have hhigh : ((num % den : Nat) : ℚ) / den < 1 := by
    rw [div_lt_one hpos]
    exact_mod_cast Nat.mod_lt num hden
  have hbelow : 2 * (num % den) < den ↔ ((num % den : Nat) : ℚ) / den < 1 / 2 := by
    rw [div_lt_div_iff₀ hpos two_pos, one_mul, mul_comm]
    exact_mod_cast Iff.rfl
  have habove : den < 2 * (num % den) ↔ 1 / 2 < ((num % den : Nat) : ℚ) / den := by
    rw [div_lt_div_iff₀ two_pos hpos, one_mul, mul_comm]
    exact_mod_cast Iff.rfl
  unfold roundHalfEven
  simp only [hbelow, habove, beq_iff_eq]
  generalize ((num % den : Nat) : ℚ) / den = part at hsplit hlow hhigh ⊢
  rw [← hsplit]
  split_ifs with hless hmore heven
  · have hclose : |((num / den : Nat) : ℚ) - ((num / den : Nat) + part)| < 1 / 2 := by
      rw [abs_lt]
      constructor <;> linarith
    exact ⟨hclose.le, fun htie => absurd htie hclose.ne⟩
  · have hclose : |((num / den + 1 : Nat) : ℚ) - ((num / den : Nat) + part)| < 1 / 2 := by
      rw [abs_lt]
      push_cast
      constructor <;> linarith
    exact ⟨hclose.le, fun htie => absurd htie hclose.ne⟩
  · refine ⟨?_, fun _ => heven⟩
    rw [abs_le]
    constructor <;> linarith
  · refine ⟨?_, fun _ => by omega⟩
    rw [abs_le]
    push_cast
    constructor <;> linarith

theorem roundHalfEven_mono (hden : 0 < den) (hden' : 0 < den')
    (hle : num * den' ≤ num' * den) : roundHalfEven num den ≤ roundHalfEven num' den' := by
  have hquotient : (num : ℚ) / den ≤ num' / den' := by
    rw [div_le_div_iff₀ (by exact_mod_cast hden) (by exact_mod_cast hden')]
    exact_mod_cast hle
  obtain ⟨hnear, htie⟩ := roundHalfEven_spec num hden
  obtain ⟨hnear', htie'⟩ := roundHalfEven_spec num' hden'
  by_contra hlt
  have hstep : (roundHalfEven num' den' : ℚ) + 1 ≤ roundHalfEven num den := by
    exact_mod_cast Nat.lt_of_not_le hlt
  have hupper := (abs_le.mp hnear).2
  have hlower := (abs_le.mp hnear').1
  -- Both quotients lie a half from their numbers, which are neighbours and hence not both even.
  have heven : roundHalfEven num den % 2 = 0 := by
    apply htie
    rw [abs_of_nonneg (by linarith)]
    linarith
  have heven' : roundHalfEven num' den' % 2 = 0 := by
    apply htie'
    rw [abs_of_nonpos (by linarith)]
    linarith
  have hnext : roundHalfEven num den = roundHalfEven num' den' + 1 := by
    have hsame : (roundHalfEven num den : ℚ) = roundHalfEven num' den' + 1 := by linarith
    exact_mod_cast hsame
  omega

theorem roundHalfEven_one (num : Nat) : roundHalfEven num 1 = num := by
  simp [roundHalfEven, Nat.mod_one]

theorem roundHalfEven_le {whole : Nat} (hden : 0 < den) (hle : num ≤ whole * den) :
    roundHalfEven num den ≤ whole := by
  rw [← roundHalfEven_one whole]
  exact roundHalfEven_mono hden one_pos (by rwa [Nat.mul_one])

theorem le_roundHalfEven {whole : Nat} (hden : 0 < den) (hle : whole * den ≤ num) :
    whole ≤ roundHalfEven num den := by
  rw [← roundHalfEven_one whole]
  exact roundHalfEven_mono one_pos hden (by rwa [Nat.mul_one])

end Whole

/-! ## Significands -/

theorem twoPow_eq (exponent : Nat) : twoPow exponent = 2 ^ exponent := rfl

theorem twoPow_mono : Monotone twoPow := fun _ _ => Nat.pow_le_pow_right two_pos

theorem twoPow_le_unitsPerOne : twoPow 52 ≤ unitsPerOne := twoPow_mono (by decide)

theorem unitsPerOne_pos : 0 < unitsPerOne :=
  lt_of_lt_of_le (by decide) twoPow_le_unitsPerOne

/-- How many bits a quotient has in units before the last of its significand. -/
def shiftOf (num den : Nat) : Nat := Nat.log2 (num * unitsPerOne / den) - 52

/-- The significand that a quotient is rounded to. -/
def significand (num den : Nat) : Nat :=
  roundHalfEven (num * unitsPerOne) (den * 2 ^ shiftOf num den)

section Significand

variable {num den num' den' : Nat}

theorem nearestRank_eq (num den : Nat) :
    nearestRank num den = shiftOf num den * 2 ^ 52 + significand num den := rfl

theorem significand_le (num : Nat) (hden : 0 < den) : significand num den ≤ 2 ^ 53 := by
  have hlog : num * unitsPerOne / den < 2 ^ (52 + shiftOf num den + 1) := by
    apply Nat.lt_log2_self.trans_le
    exact Nat.pow_le_pow_right two_pos (by rw [shiftOf]; omega)
  have hbound := (Nat.div_lt_iff_lt_mul hden).mp hlog
  apply roundHalfEven_le (by positivity)
  calc num * unitsPerOne ≤ 2 ^ (52 + shiftOf num den + 1) * den := hbound.le
    _ = 2 ^ 53 * (den * 2 ^ shiftOf num den) := by ring

theorem shiftOf_spec (hden : 0 < den) (hshift : 0 < shiftOf num den) :
    2 ^ 52 * (den * 2 ^ shiftOf num den) ≤ num * unitsPerOne := by
  have hlog : Nat.log2 (num * unitsPerOne / den) = 52 + shiftOf num den := by
    rw [shiftOf] at hshift ⊢
    omega
  have hquotient : num * unitsPerOne / den ≠ 0 := by
    intro hzero
    rw [hzero, Nat.log2_zero] at hlog
    omega
  have hbound := Nat.log2_self_le hquotient
  rw [hlog, Nat.le_div_iff_mul_le hden] at hbound
  calc 2 ^ 52 * (den * 2 ^ shiftOf num den) = 2 ^ (52 + shiftOf num den) * den := by ring
    _ ≤ num * unitsPerOne := hbound

theorem le_significand (hden : 0 < den) (hshift : 0 < shiftOf num den) :
    2 ^ 52 ≤ significand num den :=
  le_roundHalfEven (by positivity) (shiftOf_spec hden hshift)

theorem unitsOfRank_normal {binade digits : Nat} (hlow : 2 ^ 52 ≤ digits)
    (hhigh : digits < 2 ^ 53) : unitsOfRank (binade * 2 ^ 52 + digits) = digits * 2 ^ binade := by
  have hquotient : (binade * 2 ^ 52 + digits) / 2 ^ 52 - 1 = binade := by omega
  have hremainder : 2 ^ 52 + (binade * 2 ^ 52 + digits) % 2 ^ 52 = digits := by omega
  have hnormal : ¬ binade * 2 ^ 52 + digits < 2 ^ 52 := by omega
  rw [unitsOfRank, twoPow_eq, twoPow_eq, if_neg hnormal, hquotient, hremainder]

/-- A significand rounded up to 53 bits and one more is that of the next power of two. -/
theorem unitsOfRank_eq {shift digits : Nat} (hdigits : digits ≤ 2 ^ 53)
    (hshift : 0 < shift → 2 ^ 52 ≤ digits) :
    unitsOfRank (shift * 2 ^ 52 + digits) = digits * 2 ^ shift := by
  by_cases hsmall : digits < 2 ^ 52
  · have hzero : shift = 0 := by
      by_contra hne
      have := hshift (Nat.pos_of_ne_zero hne)
      omega
    rw [hzero, Nat.zero_mul, Nat.zero_add, pow_zero, Nat.mul_one]
    exact if_pos hsmall
  · rcases Nat.lt_or_eq_of_le hdigits with hlt | hcarry
    · exact unitsOfRank_normal (by omega) hlt
    · have hnext : shift * 2 ^ 52 + digits = (shift + 1) * 2 ^ 52 + 2 ^ 52 := by omega
      rw [hnext, unitsOfRank_normal le_rfl (by decide), hcarry]
      ring

/-- A rank as a shift and a significand; only without a shift can the significand be small. -/
theorem exists_shift (rank : Nat) : ∃ shift digits, rank = shift * 2 ^ 52 + digits ∧
    digits < 2 ^ 53 ∧ (0 < shift → 2 ^ 52 ≤ digits) := by
  by_cases hsmall : rank < 2 ^ 52
  · exact ⟨0, rank, by omega, by omega, by omega⟩
  · exact ⟨rank / 2 ^ 52 - 1, rank % 2 ^ 52 + 2 ^ 52, by omega, by omega, by omega⟩

theorem unitsOfRank_strictMono : StrictMono unitsOfRank := by
  apply strictMono_nat_of_lt_succ
  intro rank
  obtain ⟨shift, digits, hrank, hdigits, hshift⟩ := exists_shift rank
  have hsucc : rank + 1 = shift * 2 ^ 52 + (digits + 1) := by omega
  rw [hsucc, hrank, unitsOfRank_eq hdigits.le hshift, unitsOfRank_eq hdigits (by omega)]
  exact Nat.mul_lt_mul_of_pos_right (Nat.lt_succ_self digits) (by positivity)

theorem unitsOfRank_mono : Monotone unitsOfRank := unitsOfRank_strictMono.monotone

theorem units_nearestRank (hden : 0 < den) :
    unitsOfRank (nearestRank num den) = significand num den * 2 ^ shiftOf num den :=
  unitsOfRank_eq (significand_le num hden) (le_significand hden)

/-! ## Order -/

theorem shiftOf_mono (hden : 0 < den) (hden' : 0 < den')
    (hle : num * den' ≤ num' * den) : shiftOf num den ≤ shiftOf num' den' := by
  have hquotient : num * unitsPerOne / den ≤ num' * unitsPerOne / den' := by
    rw [Nat.le_div_iff_mul_le hden']
    apply Nat.le_of_mul_le_mul_right _ hden
    calc num * unitsPerOne / den * den' * den
        = num * unitsPerOne / den * den * den' := by ring
      _ ≤ num * unitsPerOne * den' := Nat.mul_le_mul_right _ (Nat.div_mul_le_self ..)
      _ = num * den' * unitsPerOne := by ring
      _ ≤ num' * den * unitsPerOne := Nat.mul_le_mul_right _ hle
      _ = num' * unitsPerOne * den := by ring
  have hlog : Nat.log2 (num * unitsPerOne / den) ≤ Nat.log2 (num' * unitsPerOne / den') := by
    rw [Nat.log2_eq_log_two, Nat.log2_eq_log_two]
    exact Nat.log_mono_right hquotient
  exact Nat.sub_le_sub_right hlog 52

theorem nearestRank_mono (hden : 0 < den) (hden' : 0 < den')
    (hle : num * den' ≤ num' * den) : nearestRank num den ≤ nearestRank num' den' := by
  rw [nearestRank_eq, nearestRank_eq]
  rcases Nat.lt_or_eq_of_le (shiftOf_mono hden hden' hle) with hlt | hsame
  · have hdigits := significand_le num hden
    have hdigits' := le_significand hden' (Nat.zero_lt_of_lt hlt)
    have hshift : (shiftOf num den + 1) * 2 ^ 52 ≤ shiftOf num' den' * 2 ^ 52 :=
      Nat.mul_le_mul_right _ hlt
    omega
  · rw [hsame]
    apply Nat.add_le_add_left
    unfold significand
    rw [hsame]
    apply roundHalfEven_mono (by positivity) (by positivity)
    calc num * unitsPerOne * (den' * 2 ^ shiftOf num' den')
        = num * den' * (unitsPerOne * 2 ^ shiftOf num' den') := by ring
      _ ≤ num' * den * (unitsPerOne * 2 ^ shiftOf num' den') := Nat.mul_le_mul_right _ hle
      _ = num' * unitsPerOne * (den * 2 ^ shiftOf num' den') := by ring

end Significand

/-! ## Error -/

section Error

variable {num den : Nat}

/-- The last bit of a significand is worth at most a share of the quotient, or one unit. -/
theorem two_pow_shiftOf_le (num : Nat) (hden : 0 < den) :
    (2 ^ shiftOf num den : ℚ) / unitsPerOne * 2 ^ 52 ≤ num / den + 1 := by
  have hone : (0 : ℚ) < unitsPerOne := by exact_mod_cast unitsPerOne_pos
  have hunit : (2 : ℚ) ^ 52 ≤ unitsPerOne := by exact_mod_cast twoPow_le_unitsPerOne
  have hspec (hshift : 0 < shiftOf num den) :
      (2 : ℚ) ^ 52 * (den * 2 ^ shiftOf num den) ≤ num * unitsPerOne := by
    exact_mod_cast shiftOf_spec hden hshift
  -- The count of units is never to be computed.
  generalize (unitsPerOne : ℚ) = one at hone hunit hspec ⊢
  have hpos : (0 : ℚ) < den := by exact_mod_cast hden
  rcases Nat.eq_zero_or_pos (shiftOf num den) with hzero | hshift
  · have hlast : 1 / one * 2 ^ 52 ≤ 1 := by
      rwa [one_div_mul_eq_div, div_le_one hone]
    have hquotient : (0 : ℚ) ≤ num / den := by positivity
    rw [hzero, pow_zero]
    linarith
  · have hshare : (2 ^ shiftOf num den : ℚ) / one * 2 ^ 52 ≤ num / den := by
      rw [div_mul_eq_mul_div, div_le_div_iff₀ hone hpos]
      linarith [hspec hshift]
    linarith

/-- The rounding error of a quotient in the format. -/
theorem abs_units_sub_le (hden : 0 < den) :
    |(unitsOfRank (nearestRank num den) : ℚ) / unitsPerOne - num / den| ≤
      (num / den + 1) / 2 ^ 53 := by
  have hone : (0 : ℚ) < unitsPerOne := by exact_mod_cast unitsPerOne_pos
  have hspread := two_pow_shiftOf_le num hden
  have hden' : 0 < den * 2 ^ shiftOf num den := by positivity
  obtain ⟨hnear, -⟩ := roundHalfEven_spec (num * unitsPerOne) hden'
  change |(significand num den : ℚ) - _| ≤ 1 / 2 at hnear
  rw [units_nearestRank hden]
  push_cast at hnear ⊢
  generalize (unitsPerOne : ℚ) = one at hone hspread hnear ⊢
  have hpos : (0 : ℚ) < den := by exact_mod_cast hden
  have hlast : 0 < 2 ^ shiftOf num den / one := by positivity
  have hscaled : (significand num den : ℚ) * 2 ^ shiftOf num den / one - num / den =
      2 ^ shiftOf num den / one *
        (significand num den - num * one / (den * 2 ^ shiftOf num den)) := by
    field_simp
  rw [hscaled, abs_mul, abs_of_pos hlast]
  calc 2 ^ shiftOf num den / one *
        |(significand num den : ℚ) - num * one / (den * 2 ^ shiftOf num den)|
      ≤ 2 ^ shiftOf num den / one * (1 / 2) := mul_le_mul_of_nonneg_left hnear hlast.le
    _ ≤ (num / den + 1) / 2 ^ 53 := by linarith

theorem abs_mul_sub_mul_le {x y a b d e : ℚ} (hx : |x - a| ≤ d) (hy : |y - b| ≤ e) (hlow : 0 ≤ a)
    (hhigh : a ≤ 1) : |x * y - a * b| ≤ d * |y| + e := by
  calc |x * y - a * b| = |(x - a) * y + a * (y - b)| := by ring_nf
    _ ≤ |x - a| * |y| + |a| * |y - b| := by
      rw [← abs_mul, ← abs_mul]
      exact abs_add_le _ _
    _ = |x - a| * |y| + a * |y - b| := by rw [abs_of_nonneg hlow]
    _ ≤ d * |y| + 1 * e := by gcongr
    _ = d * |y| + e := by rw [one_mul]

end Error

/-! ## Numbers -/

namespace Number

/-- The value of a finite number without its sign. -/
def magnitude (x : Number) : ℚ := x.units / unitsPerOne

variable {x x' y y' : Number} {num den num' den' : Nat}

theorem magnitude_nonneg (x : Number) : 0 ≤ x.magnitude :=
  div_nonneg (Nat.cast_nonneg _) (Nat.cast_nonneg _)

theorem units_ofRatio_mono {negative negative' : Bool} (hden : 0 < den) (hden' : 0 < den')
    (hle : num * den' ≤ num' * den) :
    (ofRatio negative num den).units ≤ (ofRatio negative' num' den').units :=
  unitsOfRank_mono (min_le_min_right _ (nearestRank_mono hden hden' hle))

/-- Quotients up to a thousand are far from the end of the format. -/
theorem units_ofRatio (negative : Bool) (hden : 0 < den) (hle : num ≤ 1000 * den) :
    (ofRatio negative num den).units = unitsOfRank (nearestRank num den) := by
  have hbound : nearestRank num den ≤ nearestRank 1000 1 :=
    nearestRank_mono hden one_pos (by rwa [Nat.mul_one])
  have htop : nearestRank 1000 1 ≤ topRank := by decide +kernel
  exact congrArg unitsOfRank (min_eq_left (hbound.trans htop))

theorem abs_magnitude_ofRatio_sub_le (negative : Bool) (hden : 0 < den)
    (hle : num ≤ 1000 * den) :
    |(ofRatio negative num den).magnitude - num / den| ≤ (num / den + 1) / 2 ^ 53 := by
  rw [magnitude, units_ofRatio negative hden hle]
  exact abs_units_sub_le hden

theorem units_mul_mono (hx : x.units ≤ x'.units) (hy : y.units ≤ y'.units) :
    (x.mul y).units ≤ (x'.mul y').units := by
  have hone := Nat.mul_pos unitsPerOne_pos unitsPerOne_pos
  exact units_ofRatio_mono hone hone (Nat.mul_le_mul_right _ (Nat.mul_le_mul hx hy))

theorem abs_magnitude_mul_sub_le (hle : x.magnitude * y.magnitude ≤ 1000) :
    |(x.mul y).magnitude - x.magnitude * y.magnitude| ≤
      (x.magnitude * y.magnitude + 1) / 2 ^ 53 := by
  have hone := Nat.mul_pos unitsPerOne_pos unitsPerOne_pos
  have hratio : x.magnitude * y.magnitude =
      (x.units * y.units : Nat) / (unitsPerOne * unitsPerOne : Nat) := by
    rw [magnitude, magnitude, div_mul_div_comm]
    push_cast
    rfl
  have hbound : x.units * y.units ≤ 1000 * (unitsPerOne * unitsPerOne) := by
    rw [hratio, div_le_iff₀ (by exact_mod_cast hone)] at hle
    exact_mod_cast hle
  rw [hratio]
  exact abs_magnitude_ofRatio_sub_le _ hone hbound

theorem nearestInt_of_not_negative (hx : x.negative = false) :
    x.nearestInt = roundHalfEven x.units unitsPerOne := by
  rw [nearestInt, hx, if_neg Bool.false_ne_true]

theorem nearestInt_mono (hx : x.negative = false) (hx' : x'.negative = false)
    (hle : x.units ≤ x'.units) : x.nearestInt ≤ x'.nearestInt := by
  rw [nearestInt_of_not_negative hx, nearestInt_of_not_negative hx']
  apply Int.ofNat_le.mpr
  exact roundHalfEven_mono unitsPerOne_pos unitsPerOne_pos (Nat.mul_le_mul_right _ hle)

theorem abs_nearestInt_sub_le (hx : x.negative = false) :
    |(x.nearestInt : ℚ) - x.magnitude| ≤ 1 / 2 := by
  rw [nearestInt_of_not_negative hx, Int.cast_natCast]
  exact (roundHalfEven_spec _ unitsPerOne_pos).1

/-! ## A product of two quotients -/

/-- The whole number nearest to the product of two quotients, all of it with double precision. -/
def ofShares (num den num' den' : Nat) : Int :=
  ((ofRatio false num den).mul (ofRatio false num' den')).nearestInt

theorem ofShares_mono {more less more' less' : Nat} (hden : 0 < den) (hless : 0 < less)
    (hden' : 0 < den') (hless' : 0 < less') (hle : num * less ≤ more * den)
    (hle' : num' * less' ≤ more' * den') :
    ofShares num den num' den' ≤ ofShares more less more' less' :=
  nearestInt_mono rfl rfl
    (units_mul_mono (units_ofRatio_mono hden hless hle) (units_ofRatio_mono hden' hless' hle'))

/-- The three roundings before the last one hardly count. -/
theorem abs_ofShares_sub_le (hden : 0 < den) (hden' : 0 < den') (hle : num ≤ den)
    (hle' : num' ≤ 80 * den') :
    |(ofShares num den num' den' : ℚ) - num / den * (num' / den')| ≤ 1 / 2 + 1 / 1000 := by
  have hfirst := abs_magnitude_ofRatio_sub_le false hden (by omega : num ≤ 1000 * den)
  have hsecond := abs_magnitude_ofRatio_sub_le false hden' (by omega : num' ≤ 1000 * den')
  have hwhole : (num : ℚ) / den ≤ 1 := by
    rw [div_le_one (by exact_mod_cast hden)]
    exact_mod_cast hle
  have heighty : (num' : ℚ) / den' ≤ 80 := by
    rw [div_le_iff₀ (by exact_mod_cast hden')]
    exact_mod_cast hle'
  have hlow : (0 : ℚ) ≤ num / den := by positivity
  have hlow' : (0 : ℚ) ≤ num' / den' := by positivity
  have hnearest : |(ofShares num den num' den' : ℚ) - _| ≤ 1 / 2 := abs_nearestInt_sub_le rfl
  have hy := magnitude_nonneg (ofRatio false num' den')
  generalize ofRatio false num den = x at hfirst hnearest
  generalize ofRatio false num' den' = y at hsecond hnearest hy
  generalize (num : ℚ) / den = a at *
  generalize (num' : ℚ) / den' = b at *
  have hlimit : y.magnitude ≤ 81 := by linarith [(abs_le.mp hsecond).2]
  have hproduct : |x.magnitude * y.magnitude - a * b| ≤ 243 / 2 ^ 53 := by
    have herror : |x.magnitude - a| ≤ 2 / 2 ^ 53 := by linarith
    have hbound := abs_mul_sub_mul_le herror hsecond hlow hwhole
    rw [abs_of_nonneg hy] at hbound
    linarith
  have hab : a * b ≤ 1 * 80 := by gcongr
  have hxy : x.magnitude * y.magnitude ≤ 81 := by linarith [(abs_le.mp hproduct).2]
  have hthird : |(x.mul y).magnitude - x.magnitude * y.magnitude| ≤ 82 / 2 ^ 53 := by
    linarith [abs_magnitude_mul_sub_le (hxy.trans (by norm_num))]
  rw [abs_le] at hnearest hthird hproduct ⊢
  constructor <;> linarith

end Number

end SheetAudit
