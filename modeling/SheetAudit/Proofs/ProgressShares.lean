import SheetAudit.Audit.Submission
import SheetAudit.Proofs.DoubleRounding

/-!
# Shares of progress

The percentage of a rule is that of its sheet and a share on top, both rounded.  It never passes the
percentage at which the last sheet is to end, and passes that at which its own sheet is to end by at
most one; it does not pass it if all shares are whole percentages or less than a half.
-/

namespace SheetAudit

namespace Progress

open Number

variable {place rules sheets : Nat}

theorem ofSheet_eq (place sheets : Nat) : ofSheet place sheets = 10 + ofShares place sheets 80 1 :=
  rfl

theorem ofRule_eq (start : Int) (place rules sheets : Nat) :
    ofRule start place rules sheets = start + ofShares place rules 80 sheets :=
  rfl

theorem ofSheet_mono {later : Nat} (hsheets : 0 < sheets) (hle : place ≤ later) :
    ofSheet place sheets ≤ ofSheet later sheets := by
  rw [ofSheet_eq, ofSheet_eq]
  have := ofShares_mono hsheets hsheets one_pos one_pos (Nat.mul_le_mul_right sheets hle)
    (le_refl (80 * 1))
  omega

theorem ofRule_mono (start : Int) {later : Nat} (hrules : 0 < rules) (hsheets : 0 < sheets)
    (hle : place ≤ later) :
    ofRule start place rules sheets ≤ ofRule start later rules sheets := by
  rw [ofRule_eq, ofRule_eq]
  have := ofShares_mono hrules hrules hsheets hsheets (Nat.mul_le_mul_right rules hle)
    (le_refl (80 * sheets))
  omega

/-- A sheet starts at its share of the percentages, but for the rounding. -/
theorem abs_ofSheet_sub_le (hplace : place ≤ sheets) (hsheets : 0 < sheets) :
    |(ofSheet place sheets : ℚ) - (10 + 80 * place / sheets)| ≤ 1 / 2 + 1 / 1000 := by
  have hshare := abs_ofShares_sub_le hsheets one_pos hplace (le_refl (80 * 1))
  rw [ofSheet_eq]
  convert hshare using 2
  push_cast
  ring

/-- A rule takes at most the share of its sheet, but for the rounding. -/
theorem ofRule_le (start : Int) (hplace : place ≤ rules) (hrules : 0 < rules)
    (hsheets : 0 < sheets) :
    (ofRule start place rules sheets : ℚ) ≤ start + 80 / sheets + (1 / 2 + 1 / 1000) := by
  have hshare := abs_ofShares_sub_le hrules hsheets hplace
    (Nat.le_mul_of_pos_right 80 hsheets)
  have hwhole : (place : ℚ) / rules ≤ 1 := by
    rw [div_le_one (by exact_mod_cast hrules)]
    exact_mod_cast hplace
  have hpart : (place : ℚ) / rules * ((80 : Nat) / sheets) ≤ 1 * (80 / sheets) := by
    push_cast
    gcongr
  rw [ofRule_eq]
  push_cast
  linarith [(abs_le.mp hshare).2]

theorem eq_of_abs_sub_lt_one {whole other : Int} (hclose : |(whole : ℚ) - other| < 1) :
    whole = other := by
  have hdifference : |whole - other| < 1 := by exact_mod_cast hclose
  rw [Int.abs_lt_one_iff] at hdifference
  omega

theorem ofRule_zero (start : Int) (hrules : 0 < rules) (hsheets : 0 < sheets) :
    ofRule start 0 rules sheets = start := by
  have hshare := abs_ofShares_sub_le hrules hsheets (Nat.zero_le rules)
    (Nat.le_mul_of_pos_right 80 hsheets)
  rw [Nat.cast_zero, zero_div, zero_mul] at hshare
  have hzero : ofShares 0 rules 80 sheets = 0 := by
    apply eq_of_abs_sub_lt_one
    rw [Int.cast_zero]
    exact hshare.trans_lt (by norm_num)
  rw [ofRule_eq, hzero, add_zero]

theorem ofSheet_zero (hsheets : 0 < sheets) : ofSheet 0 sheets = 10 := by
  have hclose := abs_ofSheet_sub_le (Nat.zero_le sheets) hsheets
  rw [Nat.cast_zero, mul_zero, zero_div, add_zero] at hclose
  apply eq_of_abs_sub_lt_one
  push_cast
  exact hclose.trans_lt (by norm_num)

theorem ten_le_ofSheet (place : Nat) (hsheets : 0 < sheets) : 10 ≤ ofSheet place sheets := by
  rw [← ofSheet_zero hsheets]
  exact ofSheet_mono hsheets (Nat.zero_le place)

variable {rule : Nat}

theorem start_le_ofRule (start : Int) (rule : Nat) (hrules : 0 < rules) (hsheets : 0 < sheets) :
    start ≤ ofRule start rule rules sheets := by
  conv_lhs => rw [← ofRule_zero start hrules hsheets]
  exact ofRule_mono start hrules hsheets (Nat.zero_le rule)

theorem ofRule_le_ofSheet_succ (hplace : place < sheets) (hrule : rule ≤ rules)
    (hrules : 0 < rules) :
    ofRule (ofSheet place sheets) rule rules sheets ≤ ofSheet (place + 1) sheets + 1 := by
  have hsheets : 0 < sheets := Nat.zero_lt_of_lt hplace
  have hstart := (abs_le.mp (abs_ofSheet_sub_le hplace.le hsheets)).2
  have hend := (abs_le.mp (abs_ofSheet_sub_le hplace hsheets)).1
  have hrule := ofRule_le (ofSheet place sheets) hrule hrules hsheets
  have hshares : (80 : ℚ) * (place + 1 : Nat) / sheets = 80 * place / sheets + 80 / sheets := by
    push_cast
    ring
  have hlt : (ofRule (ofSheet place sheets) rule rules sheets : ℚ) <
      ofSheet (place + 1) sheets + 2 := by linarith
  have hlt : ofRule (ofSheet place sheets) rule rules sheets < ofSheet (place + 1) sheets + 2 := by
    exact_mod_cast hlt
  omega

theorem ofSheet_of_mul_eq {share : Nat} (hshare : sheets * share = 80) (hplace : place ≤ sheets) :
    ofSheet place sheets = 10 + share * place := by
  have hsheets : 0 < sheets := Nat.pos_of_ne_zero (by rintro rfl; omega)
  have hexact : (80 : ℚ) * place / sheets = share * place := by
    have hshare : (sheets : ℚ) * share = 80 := by exact_mod_cast hshare
    rw [← hshare]
    field_simp
  have hclose := abs_ofSheet_sub_le hplace hsheets
  rw [hexact] at hclose
  apply eq_of_abs_sub_lt_one
  push_cast
  exact hclose.trans_lt (by norm_num)

/-- Shares that are whole percentages are met without an error. -/
theorem ofRule_le_ofSheet_succ_of_dvd (hdvd : sheets ∣ 80) (hplace : place < sheets)
    (hrule : rule ≤ rules) (hrules : 0 < rules) :
    ofRule (ofSheet place sheets) rule rules sheets ≤ ofSheet (place + 1) sheets := by
  obtain ⟨share, hshare⟩ := hdvd
  have hsheets : 0 < sheets := Nat.zero_lt_of_lt hplace
  have hrule := ofRule_le (ofSheet place sheets) hrule hrules hsheets
  have hexact : (80 : ℚ) / sheets = share := by
    have hshare : (80 : ℚ) = sheets * share := by exact_mod_cast hshare
    rw [hshare]
    field_simp
  have hlt : (ofRule (ofSheet place sheets) rule rules sheets : ℚ) <
      ofSheet place sheets + share + 1 := by linarith
  have hlt : ofRule (ofSheet place sheets) rule rules sheets <
      ofSheet place sheets + share + 1 := by exact_mod_cast hlt
  rw [ofSheet_of_mul_eq hshare.symm hplace.le] at hlt ⊢
  rw [ofSheet_of_mul_eq hshare.symm hplace]
  push_cast
  linarith

theorem ofRule_le_start (start : Int) (hsheets : 160 < sheets) (hrule : rule ≤ rules)
    (hrules : 0 < rules) : ofRule start rule rules sheets ≤ start := by
  have hrule := ofRule_le start hrule hrules (by omega : 0 < sheets)
  have hshare : (80 : ℚ) / sheets ≤ 80 / 161 := by
    have hcount : (161 : ℚ) ≤ sheets := by exact_mod_cast hsheets
    gcongr
  have hlt : (ofRule start rule rules sheets : ℚ) < start + 1 := by linarith
  exact Int.lt_add_one_iff.mp (by exact_mod_cast hlt)

/-- A share of a half percentage and some whole ones is possible only for two counts of sheets. -/
theorem eq_of_mul_odd_eq {odd : Nat} (hodd : odd % 2 = 1) (hproduct : sheets * odd = 160) :
    sheets = 32 ∨ sheets = 160 := by
  have hcoprime : Nat.Coprime odd (2 ^ 5) :=
    Nat.Coprime.pow_right 5 (Nat.coprime_two_right.mpr (Nat.odd_iff.mpr hodd))
  have hdvd : odd ∣ 2 ^ 5 * 5 := ⟨sheets, by linarith⟩
  have hfive : odd ∣ 5 := hcoprime.dvd_of_dvd_mul_left hdvd
  rcases (Nat.dvd_prime Nat.prime_five).mp hfive with rfl | rfl
  · exact .inr (by omega)
  · exact .inl (by omega)

/-- The share of the last rule of all can pass the end only if both roundings go up from a half. -/
theorem eq_of_overrun {start share : Int} (hsheets : 0 < sheets) (hfew : sheets ≤ 160)
    (hstart : (start : ℚ) ≤ 90 - 80 / sheets + (1 / 2 + 1 / 1000))
    (hshare : (share : ℚ) ≤ 80 / sheets + (1 / 2 + 1 / 1000)) (hover : 91 ≤ start + share) :
    sheets = 32 ∨ sheets = 160 := by
  have hpos : (0 : ℚ) < sheets := by exact_mod_cast hsheets
  have hover : (91 : ℚ) ≤ start + share := by exact_mod_cast hover
  have hcount : (sheets : ℚ) ≤ 160 := by exact_mod_cast hfew
  have hwhole : (sheets : ℚ) * (80 / sheets) = 80 := by field_simp
  have hodd : (sheets : Int) * (181 - 2 * start) = 160 := by
    apply eq_of_abs_sub_lt_one
    push_cast
    have hhigh : (sheets : ℚ) * (181 - 2 * start) ≤ sheets * (2 * (80 / sheets) + 1 / 500) :=
      mul_le_mul_of_nonneg_left (by linarith) hpos.le
    have hlow : (sheets : ℚ) * (2 * (80 / sheets) - 1 / 500) ≤ sheets * (181 - 2 * start) :=
      mul_le_mul_of_nonneg_left (by linarith) hpos.le
    rw [abs_lt]
    constructor <;> linarith
  have hproduct : 0 < (sheets : Int) * (181 - 2 * start) := by omega
  have hpositive : 0 < 181 - 2 * start :=
    (pos_iff_pos_of_mul_pos hproduct).mp (by exact_mod_cast hsheets)
  obtain ⟨odd, hcast⟩ := Int.eq_ofNat_of_zero_le hpositive.le
  have hparity : odd % 2 = 1 := by omega
  rw [hcast] at hodd
  exact eq_of_mul_odd_eq hparity (by exact_mod_cast hodd)

/-- Every sheet leaves the share of the last one, but for the rounding. -/
theorem ofSheet_le_of_lt (hplace : place < sheets) :
    (ofSheet place sheets : ℚ) ≤ 90 - 80 / sheets + (1 / 2 + 1 / 1000) := by
  have hsheets : 0 < sheets := Nat.zero_lt_of_lt hplace
  have hstart := (abs_le.mp (abs_ofSheet_sub_le hplace.le hsheets)).2
  have hends : (80 : ℚ) * place / sheets + 80 / sheets ≤ 80 := by
    have hpos : (0 : ℚ) < sheets := by exact_mod_cast hsheets
    have hnext : (place : ℚ) + 1 ≤ sheets := by exact_mod_cast hplace
    rw [← add_div, div_le_iff₀ hpos]
    linarith
  linarith

theorem ofRule_le_ninety (hplace : place < sheets) (hrule : rule ≤ rules) (hrules : 0 < rules) :
    ofRule (ofSheet place sheets) rule rules sheets ≤ 90 := by
  have hsheets : 0 < sheets := Nat.zero_lt_of_lt hplace
  have hstart := ofSheet_le_of_lt hplace
  have hshare := ofRule_le 0 hrule hrules hsheets
  rw [ofRule_eq, Int.cast_zero, zero_add, zero_add] at hshare
  rw [ofRule_eq]
  generalize ofSheet place sheets = start at hstart
  have hninety : start < 91 := by
    have hlt : (start : ℚ) < 91 := by
      have hpart : (0 : ℚ) ≤ 80 / sheets := by positivity
      linarith
    exact_mod_cast hlt
  by_contra hbeyond
  have hover : 91 ≤ start + ofShares rule rules 80 sheets := by omega
  rcases Nat.lt_or_ge 160 sheets with hmany | hfew
  · have hnone := ofRule_le_start 0 hmany hrule hrules
    rw [ofRule_eq, zero_add] at hnone
    omega
  · have hfull := ofShares_mono hrules one_pos hsheets hsheets (by omega : rule * 1 ≤ 1 * rules)
      (le_refl (80 * sheets))
    -- In both cases the share of a sheet ends in a half, which goes down to the even neighbour.
    rcases eq_of_overrun hsheets hfew hstart hshare hover with rfl | rfl
    · have hround : ofShares 1 1 80 32 = 2 := by decide +kernel
      have hstart : start < 89 := by
        have hlt : (start : ℚ) < 89 := by
          norm_num at hstart
          linarith
        exact_mod_cast hlt
      omega
    · have hround : ofShares 1 1 80 160 = 0 := by decide +kernel
      omega

end Progress

end SheetAudit
