import SheetAudit.Proofs.ComparisonOrder
import SheetAudit.Proofs.ConditionComposition
import SheetAudit.Proofs.ListVerdicts
import SheetAudit.Proofs.Numerals

/-!
# Two ways to write an interval

The numbers between two decimals are given by the bounds of a range, and by a condition that
compares the value with both.  A value passes the two rules alike, and comes to the same error.
-/

namespace SheetAudit

open Outcome Text

/-- A sign, if any, and digits with at most one point before, among or behind them. -/
def IsDecimal (cs : List Char) : Prop :=
  ∃ sign magnitude, IsSign sign ∧ IsMagnitude magnitude ∧ cs = sign ++ magnitude

variable {cs sign magnitude digits fraction : List Char}

/-! ## Characters of decimals -/

theorem IsMagnitude.chars (hmagnitude : IsMagnitude magnitude) :
    ∀ c ∈ magnitude, c.isDigit = true ∨ c = '.' := by
  cases hmagnitude with
  | whole hdigits _ => exact fun c hc => .inl (hdigits c hc)
  | point hdigits hfraction _ =>
      rw [List.forall_mem_append, List.forall_mem_cons]
      exact ⟨fun c hc => .inl (hdigits c hc), .inr rfl, fun c hc => .inl (hfraction c hc)⟩

namespace IsDecimal

theorem chars (hcs : IsDecimal cs) :
    ∀ c ∈ cs, c.isDigit = true ∨ c = '.' ∨ c = '-' ∨ c = '+' := by
  obtain ⟨sign, magnitude, hsign, hmagnitude, rfl⟩ := hcs
  rw [List.forall_mem_append]
  constructor
  · rcases hsign with rfl | rfl | rfl <;> simp
  · exact fun c hc => (hmagnitude.chars c hc).imp_right .inl

theorem isBlank_eq_false (hcs : IsDecimal cs) : ∀ c ∈ cs, isBlank c = false := by
  intro c hc
  rcases hcs.chars c hc with hdigit | rfl | rfl | rfl
  · have hcode := toNat_of_isDigit hdigit
    exact Text.isBlank_eq_false (by omega) (by omega)
  all_goals decide

theorem isAllowed (hcs : IsDecimal cs) : cs.all Condition.isAllowed = true := by
  rw [List.all_eq_true]
  intro c hc
  rcases hcs.chars c hc with hdigit | rfl | rfl | rfl
  · simp [Condition.isAllowed, Char.isAlphanum, hdigit]
  all_goals decide

theorem comma_notMem (hcs : IsDecimal cs) : ',' ∉ cs := by
  intro hc
  exact absurd (hcs.chars ',' hc) (by decide)

theorem ne_nil (hcs : IsDecimal cs) : cs ≠ [] := by
  obtain ⟨sign, magnitude, -, hmagnitude, rfl⟩ := hcs
  obtain ⟨first, others, rfl, -⟩ := hmagnitude.exists_first
  simp

theorem isNumeral (hcs : IsDecimal cs) : IsNumeral cs := by
  obtain ⟨sign, magnitude, hsign, hmagnitude, rfl⟩ := hcs
  exact ⟨sign, magnitude, [], hsign, hmagnitude, .absent, by rw [List.append_nil]⟩

theorem readDouble?_eq {s : String} (hs : IsDecimal s.toList) :
    readDouble? s = readPlain? s.toList := by
  rw [← readDouble?_eq_readPlain? hs.isNumeral.standsAsIs, String.ofList_toList]

end IsDecimal

/-! ## The bounds -/

namespace Bounds

theorem gives_decimal (side : Side) (hcs : IsDecimal cs) {x : Number}
    (hx : readPlain? cs = some (.number x)) :
    Gives (side.key.toList ++ ':' :: cs) side (.number x) := by
  refine ⟨String.ofList cs, ⟨side.key.toList, cs, rfl, ?_, ?_, ?_⟩, ?_⟩
  · cases side <;> decide
  · cases side <;> decide +kernel
  · rw [trimChars_eq_self hcs.isBlank_eq_false]
  · rw [readDouble?_eq_readPlain? hcs.isNumeral.standsAsIs, hx]

theorem parts_interval {a b : String} (ha : IsDecimal a.toList) (hb : IsDecimal b.toList) :
    parts ("min:" ++ a ++ ",max:" ++ b) =
      [Side.least.key.toList ++ ':' :: a.toList, Side.greatest.key.toList ++ ':' :: b.toList] := by
  have hchars : ("min:" ++ a ++ ",max:" ++ b).toList =
      (Side.least.key.toList ++ ':' :: a.toList) ++
        ',' :: (Side.greatest.key.toList ++ ':' :: b.toList) := by
    simp [Side.key]
  have hleast : ',' ∉ Side.least.key.toList ++ ':' :: a.toList := by
    simpa [Side.key] using ha.comma_notMem
  have hgreatest : ',' ∉ Side.greatest.key.toList ++ ':' :: b.toList := by
    simpa [Side.key] using hb.comma_notMem
  rw [parts, hchars, partsBetween_append, partsBetween_of_notMem hleast,
    partsBetween_of_notMem hgreatest]
  rfl

theorem ofText_interval {a b : String} {x y : Number} (ha : IsDecimal a.toList)
    (hb : IsDecimal b.toList) (hx : readPlain? a.toList = some (.number x))
    (hy : readPlain? b.toList = some (.number y)) :
    ofText ("min:" ++ a ++ ",max:" ++ b) = .ok ⟨some (.number x), some (.number y)⟩ := by
  have hleast := gives_decimal .least ha hx
  have hgreatest := gives_decimal .greatest hb hy
  rw [ofText_eq_ok_iff, lastOn, lastOn, parts_interval ha hb]
  refine ⟨?_, ?_⟩
  · rw [List.forall_mem_cons, List.forall_mem_singleton]
    exact ⟨hleast.readable, hgreatest.readable⟩
  · simp [boundsOn, hleast.bound?_eq, hgreatest.bound?_eq]

theorem allow_numbers (x y z : Number) :
    allow ⟨some (.number x), some (.number y)⟩ z = (x.le z && z.le y) := by
  rw [Number.le_eq_not_lt, Number.le_eq_not_lt]
  rfl

end Bounds

namespace Condition

/-! ## The condition -/

theorem signOf_append (hsign : IsSign sign) (hmagnitude : IsMagnitude magnitude) :
    signOf (sign ++ magnitude) = sign := by
  rcases hsign with rfl | rfl | rfl
  · obtain ⟨first, others, rfl, hfirst⟩ := hmagnitude.exists_first
    rw [List.nil_append]
    unfold signOf
    split
    · next heq =>
      cases heq
      exact absurd hfirst (by decide)
    · next heq =>
      cases heq
      exact absurd hfirst (by decide)
    · rfl
  · rfl
  · rfl

theorem digitsOf_eq_self (hdigits : AllDigits digits) : digitsOf digits = digits :=
  List.takeWhile_eq_self_iff.mpr hdigits

theorem unsignedOf_magnitude (hmagnitude : IsMagnitude magnitude) :
    unsignedOf magnitude = magnitude := by
  cases hmagnitude with
  | whole hdigits _ =>
      have hwhole := digitsOf_eq_self hdigits
      rw [unsignedOf_of_no_point (by simp [hwhole]), hwhole]
  | @point digits fraction hdigits hfraction hsome =>
      have hwhole : digitsOf (digits ++ '.' :: fraction) = digits := by
        rw [digitsOf, takeWhile_append_of_head _ (by rintro c ⟨⟩; rfl)]
        exact digitsOf_eq_self hdigits
      rw [unsignedOf_of_point (by rw [hwhole, List.drop_left]), hwhole, digitsOf_eq_self hfraction,
        isEmpty_and_eq_false hsome]
      rfl

theorem numberOf?_decimal (hcs : IsDecimal cs) : numberOf? cs = some cs := by
  obtain ⟨sign, magnitude, hsign, hmagnitude, rfl⟩ := hcs
  obtain ⟨first, others, hfirst, -⟩ := hmagnitude.exists_first
  have hfilled : magnitude.isEmpty = false := by rw [hfirst]; rfl
  unfold numberOf?
  simp only [signOf_append hsign hmagnitude, List.drop_left, unsignedOf_magnitude hmagnitude,
    hfilled, Bool.false_eq_true, if_false]

theorem tokensFrom_decimal (hcs : IsDecimal cs) : tokensFrom 0 0 0 cs = .ok [.number cs] := by
  have hnumber := numberOf?_decimal hcs
  obtain ⟨c, others, rfl⟩ := List.exists_cons_of_ne_nil hcs.ne_nil
  have htoken : firstToken (c :: others) = some (.ok (.number (c :: others))) := by
    rw [firstToken, hnumber]
    rfl
  rw [tokensFrom_of_token (hcs.isBlank_eq_false c (by simp)) htoken]
  simp [Token.chars_number, tokensFrom_of_rest]

namespace Derivation

/-- The value compared with a number. -/
def bound (sign : Comparison) (spelling : List Char) : Derivation .negation :=
  .primary (.comparison (.compare .value sign (.number spelling)))

/-- The value at least one number and at most another. -/
def interval (least greatest : List Char) : Derivation .disjunction :=
  .lastDisjunct (.and (bound .greaterOrEqual least) (.lastConjunct (bound .lessOrEqual greatest)))

theorem tree_interval (least greatest : List Char) :
    (interval least greatest).tree =
      .all [.compare .greaterOrEqual .value (.literal (numberCell least)),
        .compare .lessOrEqual .value (.literal (numberCell greatest))] := rfl

end Derivation

theorem tokens_interval {a b : String} (ha : IsDecimal a.toList) (hb : IsDecimal b.toList) :
    tokens ("value >= " ++ a ++ " AND value <= " ++ b) =
      .ok (Derivation.interval a.toList b.toList).tokens := by
  have hleast : tokensFrom 0 0 0 "value >=".toList = .ok [.value, .comparison .greaterOrEqual] := by
    decide
  have hgreatest : tokensFrom 0 0 0 "AND value <=".toList =
      .ok [.and, .value, .comparison .lessOrEqual] := by
    decide
  have hsecond := tokensFrom_spaced hgreatest (tokensFrom_decimal hb)
  have hwhole := tokensFrom_spaced hleast (tokensFrom_spaced (tokensFrom_decimal ha) hsecond)
  have hchars : ("value >= " ++ a ++ " AND value <= " ++ b).toList =
      "value >=".toList ++ ' ' ::
        (a.toList ++ ' ' :: ("AND value <=".toList ++ ' ' :: b.toList)) := by
    simp
  have hallowed : ("value >= " ++ a ++ " AND value <= " ++ b).toList.all isAllowed = true := by
    simp only [hchars, List.all_append, List.all_cons, ha.isAllowed, hb.isAllowed]
    decide
  have hend : dropBlankEnd ("value >= " ++ a ++ " AND value <= " ++ b).toList =
      ("value >= " ++ a ++ " AND value <= " ++ b).toList := by
    rw [String.toList_append]
    exact dropBlankEnd_append hb.ne_nil hb.isBlank_eq_false _
  rw [tokens, if_pos hallowed, hend, hchars, hwhole]
  rfl

/-! ## Truth -/

/-- An order between a cell and a number holds if the cell counts as a number that is so ordered. -/
theorem compareCells_number {sign : Comparison}
    (hsign : sign ∈ [Comparison.less, .lessOrEqual, .greater, .greaterOrEqual]) (cell : Cell)
    (y : Number) : compareCells sign cell (.double (.number y)) = (do
      let x? ← cell.number
      pure (x?.any (sign.holds · y))) := by
  have hy : (Cell.double (.number y)).number = .ok (some y) := rfl
  cases hx : cell.number with
  | error e =>
      unfold compareCells
      rw [hx]
      rfl
  | ok x? =>
      cases x? with
      | none => exact compareCells_order_of_no_number hx hy (.inl rfl) hsign
      | some x => exact compareCells_of_numbers hx hy sign

theorem holds_interval {a b : String} {x y : Number} (hx : readPlain? a.toList = some (.number x))
    (hy : readPlain? b.toList = some (.number y)) (cell : Cell) :
    (Derivation.interval a.toList b.toList).tree.holds cell = (do
      let z? ← cell.number
      pure (z?.any (Bounds.allow ⟨some (.number x), some (.number y)⟩))) := by
  have hleast : numberCell a.toList = .double (.number x) := by rw [numberCell, hx]; rfl
  have hgreatest : numberCell b.toList = .double (.number y) := by rw [numberCell, hy]; rfl
  rw [Derivation.tree_interval, hleast, hgreatest, Tree.holds_all_pair, Tree.holds, Tree.holds,
    Operand.cell, Operand.cell, Operand.cell, compareCells_number (by simp),
    compareCells_number (by simp), Cell.number_normalized]
  cases cell.number with
  | error e => rfl
  | ok z? =>
      cases z? with
      | none => rfl
      | some z =>
          simp only [ok_bind, pure_eq_ok, Option.any_some, Bounds.allow_numbers, Comparison.holds]
          cases x.le z <;> rfl

end Condition

/-! ## Main statement -/

namespace Verdict

variable {a b : String} {x y : Number} {cell : Cell}

theorem evaluate_interval_of_isScalar (ha : IsDecimal a.toList) (hb : IsDecimal b.toList)
    (hscalar : cell.IsScalar) :
    evaluate (some "range") (some ("min:" ++ a ++ ",max:" ++ b)) cell =
      evaluate (some "custom") (some ("value >= " ++ a ++ " AND value <= " ++ b)) cell := by
  obtain ⟨x, hx⟩ := ha.isNumeral.exists_readPlain?
  obtain ⟨y, hy⟩ := hb.isNumeral.exists_readPlain?
  have hrange : (some "range").bind RuleType.ofText? = some .range := rfl
  have hcustom : (some "custom").bind RuleType.ofText? = some .custom := rfl
  have hholds : Condition.holds (some ("value >= " ++ a ++ " AND value <= " ++ b)) cell =
      ((Condition.Derivation.interval a.toList b.toList).tree.holds cell).mapError .cell :=
    Condition.holds_of_tokens (Condition.tokens_interval ha hb) (Nat.zero_le _) cell
  rw [evaluate_of_type hrange, evaluate_of_type hcustom, reach, reach, Option.getD_some,
    Bounds.ofText_interval ha hb hx hy, mapError_ok, ok_bind, range_of_isScalar _ hscalar,
    custom_of_isScalar _ hscalar, hholds, Condition.holds_interval hx hy]
  cases cell.number <;> rfl

theorem evaluate_range_interval_iff (ha : IsDecimal a.toList) (hb : IsDecimal b.toList)
    (hx : readPlain? a.toList = some (.number x)) (hy : readPlain? b.toList = some (.number y))
    (hscalar : cell.IsScalar) :
    evaluate (some "range") (some ("min:" ++ a ++ ",max:" ++ b)) cell = .ok true ↔
      ∃ z, cell.number = .ok (some z) ∧ x.le z = true ∧ z.le y = true := by
  have hrange : RuleType.ofText? "range" = some .range := rfl
  rw [evaluate_eq_ok_true_iff hrange, reach, Option.getD_some, Bounds.ofText_interval ha hb hx hy,
    mapError_ok, ok_bind, mapError_eq_ok_iff, range_eq_ok_true_iff hscalar]
  simp only [Bounds.allow_numbers, Bool.and_eq_true]

/-- The range between two decimals and the condition to be at least the one and at most the other
give every value the same verdict or the same error.  A value passes if it is not the empty list and
all of its cells count as numbers between the two. -/
theorem evaluate_interval (a b : String) (ha : IsDecimal a.toList) (hb : IsDecimal b.toList) :
    ∃ x y : Number, readDouble? a = some (.number x) ∧ readDouble? b = some (.number y) ∧
      ∀ value : Cell, value.IsFlat →
        evaluate (some "range") (some ("min:" ++ a ++ ",max:" ++ b)) value =
          evaluate (some "custom") (some ("value >= " ++ a ++ " AND value <= " ++ b)) value ∧
        (evaluate (some "range") (some ("min:" ++ a ++ ",max:" ++ b)) value = .ok true ↔
          value ≠ .list [] ∧ ∀ cell ∈ value.cells, ∃ z, cell.number = .ok (some z) ∧
            x.le z = true ∧ z.le y = true) := by
  obtain ⟨x, hx⟩ := ha.isNumeral.exists_readPlain?
  obtain ⟨y, hy⟩ := hb.isNumeral.exists_readPlain?
  refine ⟨x, y, by rw [ha.readDouble?_eq, hx], by rw [hb.readDouble?_eq, hy], ?_⟩
  intro value hflat
  constructor
  · by_cases hnil : value = .list []
    · subst hnil
      rw [evaluate_nil_of_no_fault, evaluate_nil_of_no_fault]
      · rintro ⟨e, hfault⟩
        exact absurd hfault.type_eq (by decide)
      · rintro ⟨e, hfault⟩
        exact absurd hfault.type_eq (by decide)
    · rw [evaluate_of_isFlat _ _ hflat hnil, evaluate_of_isFlat _ _ hflat hnil]
      exact inTurn_congr fun cell hcell => evaluate_interval_of_isScalar ha hb (hflat cell hcell)
  · rw [evaluate_flat_eq_ok_true_iff hflat]
    apply and_congr_right
    intro _
    apply forall₂_congr
    intro cell hcell
    exact evaluate_range_interval_iff ha hb hx hy (hflat cell hcell)

theorem evaluate_interval_to_ten :
    let a := "-.5"
    let b := "+10."
    let value : Cell := .list [.text " 3.5", .int (tenPow 400), .decimal (.finite false 35 (-1))]
    IsDecimal a.toList ∧ IsDecimal b.toList ∧ value.IsFlat ∧
      evaluate (some "range") (some ("min:" ++ a ++ ",max:" ++ b)) value =
        evaluate (some "custom") (some ("value >= " ++ a ++ " AND value <= " ++ b)) value := by
  intro a b value
  have hhalf : IsMagnitude ([] ++ '.' :: ['5']) :=
    .point (by simp [AllDigits]) (by simp [AllDigits]) (by simp)
  have hten : IsMagnitude (['1', '0'] ++ '.' :: []) :=
    .point (by simp [AllDigits]) (by simp [AllDigits]) (by simp)
  have ha : IsDecimal a.toList := ⟨['-'], _, .inr (.inl rfl), hhalf, by simp [a]⟩
  have hb : IsDecimal b.toList := ⟨['+'], _, .inr (.inr rfl), hten, by simp [b]⟩
  have hflat : value.IsFlat := by
    simp [value, Cell.IsFlat, Cell.cells, Cell.IsScalar]
  obtain ⟨x, y, -, -, hvalues⟩ := evaluate_interval a b ha hb
  exact ⟨ha, hb, hflat, (hvalues value hflat).1⟩

end Verdict

end SheetAudit
