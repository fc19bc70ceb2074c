import SheetAudit.Proofs.CoercibleRows
import SheetAudit.Proofs.NearestDouble
import SheetAudit.Proofs.NumberTexts
import SheetAudit.Proofs.ShownNumbers

/-!
# Cells with whole numbers

A cell with a whole number counts as the double nearest to it.  It shows all of its digits, however
many there are, and the text is read as that double again.  Only the sign of zero is not shown.
-/

namespace SheetAudit

open Text Number

variable {n : Int} {cell : Cell} {x : Number}

/-! ## Texts of whole numbers -/

/-- The text of a whole number within the range of a double is read as the double nearest to it. -/
theorem intText_of_finite (hfinite : (ofInt n).isInfinite = false) :
    intText n = .ok (toString n) ∧ readDouble? (toString n) = some (.number (ofInt n)) := by
  obtain ⟨s, hshown, -, hread⟩ := exists_intText_of_finite hfinite
  have hdigits : (decimalChars n.natAbs).length ≤ maxIntDigits :=
    (length_decimalChars_of_finite hfinite).trans (by decide)
  have hs : s = toString n := by
    rw [intText, if_pos hdigits, ← toString_int] at hshown
    exact (Except.ok.inj hshown).symm
  rw [← hs]
  exact ⟨hshown, hread⟩

theorem number_toString (hfinite : (ofInt n).isInfinite = false) :
    (Cell.text (toString n)).number = .ok (some (ofInt n)) := by
  rw [Cell.number, Cell.textNumber, (intText_of_finite hfinite).2]
  rfl

/-! ## Cells -/

namespace Cell

/-- A cell with a whole number: an integer that is not rounded to infinity, or a finite double. -/
inductive IsWhole (n : Int) : Cell → Prop where
  | int (hrange : n.natAbs < overflowBound) : IsWhole n (.int n)
  | double {x : Number} (hfinite : x.isInfinite = false) (hvalue : x.value = n) :
    IsWhole n (.double (.number x))

theorem IsWhole.isInfinite_ofInt (hwhole : cell.IsWhole n) : (ofInt n).isInfinite = false := by
  cases hwhole with
  | int hrange =>
      rw [Bool.eq_false_iff, ne_eq, isInfinite_ofInt_iff]
      omega
  | double hfinite hvalue => rw [isInfinite, rank_ofInt_of_value hvalue, ← isInfinite, hfinite]

theorem IsWhole.shown (hwhole : cell.IsWhole n) : cell.shown = .ok (toString n) := by
  have hrounded := hwhole.isInfinite_ofInt
  cases hwhole with
  | int hrange => exact (intText_of_finite hrounded).1
  | double hfinite hvalue =>
      rw [Cell.shown, shownDouble, toInt?_of_value hfinite hvalue]
      rfl

/-- The double that a cell with a whole number counts as. -/
theorem IsWhole.exists_number (hwhole : cell.IsWhole n) :
    ∃ x, cell.number = .ok (some x) ∧ x.IsNearest n ∧ (ofInt n).eq x = true ∧
      (x.isZero = false → ofInt n = x) := by
  have hrounded := hwhole.isInfinite_ofInt
  cases hwhole with
  | int hrange =>
      refine ⟨ofInt n, ?_, isNearest_ofInt hrounded, ?_, fun _ => rfl⟩
      · rw [Cell.number, hrounded]
        rfl
      · rw [Number.eq, beq_self_eq_true]
  | @double x hfinite hvalue =>
      refine ⟨x, rfl, ?_, ?_, ofInt_of_value hvalue⟩
      · rw [← hvalue]
        exact isNearest_value hfinite
      · cases hzero : x.isZero with
        | true =>
            rw [isZero, beq_iff_eq] at hzero
            simp [Number.eq, key, rank_ofInt_of_value hvalue, hzero]
        | false => rw [ofInt_of_value hvalue hzero, Number.eq, beq_self_eq_true]

/-- A cell with a whole number shows its digits.  The text is read as the double that the cell
counts as, which is the one nearest to the whole number; the two have the same sign unless they are
zero. -/
theorem number_shown_of_isWhole (hwhole : cell.IsWhole n) :
    cell.shown = .ok (toString n) ∧ ∃ x y,
      cell.number = .ok (some x) ∧ (Cell.text (toString n)).number = .ok (some y) ∧
      y.eq x = true ∧ (x.isZero = false → y = x) ∧ x.IsNearest n ∧ y.IsNearest n := by
  have hrounded := hwhole.isInfinite_ofInt
  obtain ⟨x, hnumber, hnearest, hequal, hsame⟩ := hwhole.exists_number
  exact ⟨hwhole.shown, x, ofInt n, hnumber, number_toString hrounded, hequal, hsame, hnearest,
    isNearest_ofInt hrounded⟩

/-- The first whole number that is no double, and the greatest finite double. -/
theorem number_shown_of_isWhole_large :
    (IsWhole 9007199254740993 (.int 9007199254740993) ∧ ∃ x y,
      (Cell.int 9007199254740993).number = .ok (some x) ∧
      (Cell.text (toString (9007199254740993 : Int))).number = .ok (some y) ∧
      y.eq x = true ∧ x.IsNearest (9007199254740993 : Int)) ∧
    let n : Int := (2 ^ 53 - 1) * 2 ^ 971
    let x := Number.ofRank false (topRank - 1)
    IsWhole n (.double (.number x)) ∧ (Cell.double (.number x)).shown = .ok (toString n) ∧
      (Cell.text (toString n)).number = .ok (some x) := by
  have hint : IsWhole 9007199254740993 (.int 9007199254740993) := .int (by decide +kernel)
  obtain ⟨-, x, y, hx, hy, hequal, -, hnearest, -⟩ := number_shown_of_isWhole hint
  refine ⟨⟨hint, x, y, hx, hy, hequal, hnearest⟩, ?_⟩
  intro n greatest
  have hunits : greatest.units = n.natAbs * unitsPerOne := by decide +kernel
  have hvalue : greatest.value = n := by
    have hone : (unitsPerOne : ℚ) ≠ 0 := by exact_mod_cast unitsPerOne_pos.ne'
    have hmagnitude : greatest.magnitude = n.natAbs := by
      rw [magnitude, hunits, Nat.cast_mul, mul_div_cancel_right₀ _ hone]
    have hpositive : |n| = n := by decide +kernel
    rw [value, if_neg (by decide), hmagnitude, Nat.cast_natAbs, hpositive]
  have hdouble : IsWhole n (.double (.number greatest)) := .double (by decide +kernel) hvalue
  obtain ⟨hshown, x, y, hx, hy, -, hsame, -, -⟩ := number_shown_of_isWhole hdouble
  cases hx
  have hback : y = greatest := hsame (by decide +kernel)
  rw [hback] at hy
  exact ⟨hdouble, hshown, hy⟩

end Cell

end SheetAudit
