import SheetAudit.Proofs.ConditionTruth
import SheetAudit.Proofs.ShownNumbers

/-!
# The order that comparisons give

A cell has the place of the number that it counts as or, if it counts as none, the text that it
shows.  Two cells are equal if and only if these agree: no cell without a number shows the text of a
cell with one.  Two numbers are ordered by their places, and other cells not at all.
-/

namespace SheetAudit

open Outcome

variable {a b : Cell} {s t : String} {x y : Number} {x? y? : Option Number}

/-! ## Places of cells -/

namespace Cell

/-- The place of the number that a cell counts as or, if there is none, the text that it shows. -/
def place (cell : Cell) : Except CellError (Int ⊕ String) := do
  match ← cell.number with
  | some x => pure (.inl x.key)
  | none => do
    let shown ← cell.shown
    pure (.inr shown)

/-- A scalar cell that can be asked for its number. -/
structure Comparable where
  cell : Cell
  isScalar : cell.IsScalar
  exists_number : ∃ x?, cell.number = .ok x?

theorem place_of_number (hx : a.number = .ok (some x)) : a.place = .ok (.inl x.key) := by
  rw [place, hx]
  rfl

namespace Shows

theorem place (ha : a.Shows s none) (hx : a.number = .ok none) : a.place = .ok (.inr s) := by
  rw [Cell.place, hx, ok_bind, ha.shown]
  rfl

theorem isEmpty (ha : a.Shows s x?) : a.isEmpty = (s == "") := by
  rw [Bool.eq_iff_iff, beq_iff_eq]
  exact ha.isEmpty_iff

/-- A cell with a number and one without show different texts. -/
theorem ne_of_number (ha : a.Shows s (some x)) (hb : b.Shows t none) : s ≠ t := by
  rintro rfl
  have hreads := ha.reads.symm.trans hb.reads
  cases hreads

end Shows

theorem Comparable.readable (a : Comparable) : Condition.Readable a.cell := by
  obtain ⟨x?, hx⟩ := a.exists_number
  obtain ⟨s, ha⟩ := exists_shows a.isScalar hx
  exact ⟨⟨s, ha.shown⟩, x?, hx⟩

end Cell

theorem Number.le_eq_not_lt (x y : Number) : x.le y = !y.lt x := by
  rw [Bool.eq_iff_iff]
  simp [le, lt]

namespace Condition

/-! ## Comparisons of numbers -/

theorem Comparison.holds_same : same.holds x y = true ↔ x.key = y.key := by
  rw [holds, Number.eq, beq_iff_eq]

/-- Of two numbers one is less than the other, or they are equal. -/
theorem Comparison.existsUnique_holds (x y : Number) :
    ∃! sign, sign ∈ [less, same, greater] ∧ sign.holds x y = true := by
  rcases lt_trichotomy x.key y.key with hless | hsame | hgreater
  · refine ⟨.less, ?_, ?_⟩ <;> simp [holds, Number.lt, Number.eq] <;> omega
  · refine ⟨.same, ?_, ?_⟩ <;> simp [holds, Number.lt, Number.eq] <;> omega
  · refine ⟨.greater, ?_, ?_⟩ <;> simp [holds, Number.lt, Number.eq] <;> omega

theorem Comparison.holds_lessOrEqual : lessOrEqual.holds x y = !greater.holds x y :=
  Number.le_eq_not_lt x y

theorem Comparison.holds_greaterOrEqual : greaterOrEqual.holds x y = !less.holds x y :=
  Number.le_eq_not_lt y x

/-! ## Comparisons of cells -/

theorem compareCells_of_numbers (hx : a.number = .ok (some x)) (hy : b.number = .ok (some y))
    (sign : Comparison) : compareCells sign a b = .ok (sign.holds x y) := by
  unfold compareCells
  rw [hx, hy]
  rfl

theorem compareCells_same_of_no_number (hx : a.number = .ok x?) (hy : b.number = .ok y?)
    (hnone : x? = none ∨ y? = none) : compareCells .same a b = isSame a b := by
  unfold compareCells
  rw [hx, hy]
  rcases hnone with rfl | rfl
  · rfl
  · cases x? <;> rfl

/-- Cells that are not both numbers are not ordered. -/
theorem compareCells_order_of_no_number (hx : a.number = .ok x?) (hy : b.number = .ok y?)
    (hnone : x? = none ∨ y? = none) {sign : Comparison}
    (hsign : sign ∈ [Comparison.less, .lessOrEqual, .greater, .greaterOrEqual]) :
    compareCells sign a b = .ok false := by
  unfold compareCells
  rw [hx, hy]
  simp only [List.mem_cons, List.not_mem_nil, or_false] at hsign
  rcases hnone with rfl | rfl
  · rcases hsign with rfl | rfl | rfl | rfl <;> rfl
  · cases x? <;> rcases hsign with rfl | rfl | rfl | rfl <;> rfl

theorem compareCells_notEqual (a b : Cell) :
    compareCells .notEqual a b = (compareCells .same a b).map (!·) := by
  unfold compareCells
  cases a.number with
  | error e => rfl
  | ok x? =>
      cases b.number with
      | error e => rfl
      | ok y? => cases x? <;> cases y? <;> rfl

theorem isSame_of_shows (ha : a.Shows s x?) (hb : b.Shows t y?) : isSame a b = .ok (s == t) := by
  unfold isSame
  split
  · have hs : s = "" := ha.isEmpty_iff.mp rfl
    rw [ha.isEmpty, hb.isEmpty, hs]
    simp [eq_comm]
  · have ht : t = "" := hb.isEmpty_iff.mp rfl
    rw [ha.isEmpty, hb.isEmpty, ht]
    simp
  · rw [ha.shown, hb.shown]
    rfl

/-- Cells are equal if and only if they stand in one place. -/
theorem compareCells_same (ha : a.Shows s x?) (hx : a.number = .ok x?) (hb : b.Shows t y?)
    (hy : b.number = .ok y?) :
    ∃ same, compareCells .same a b = .ok same ∧ (same = true ↔ a.place = b.place) := by
  have htexts : x? = none ∨ y? = none → compareCells .same a b = .ok (s == t) := by
    intro hnone
    rw [compareCells_same_of_no_number hx hy hnone, isSame_of_shows ha hb]
  cases x? with
  | some x =>
      rw [Cell.place_of_number hx]
      cases y? with
      | some y =>
          refine ⟨_, compareCells_of_numbers hx hy .same, ?_⟩
          rw [Comparison.holds_same, Cell.place_of_number hy]
          simp
      | none =>
          refine ⟨_, htexts (.inr rfl), ?_⟩
          rw [hb.place hy]
          simp [ha.ne_of_number hb]
  | none =>
      refine ⟨_, htexts (.inl rfl), ?_⟩
      rw [ha.place hx]
      cases y? with
      | some y =>
          rw [Cell.place_of_number hy]
          simp [(hb.ne_of_number ha).symm]
      | none =>
          rw [hb.place hy]
          simp

/-! ## Main statement -/

/-- A comparison of two cells is true. -/
def Holds (sign : Comparison) (a b : Cell.Comparable) : Prop :=
  compareCells sign a.cell b.cell = .ok true

theorem exists_compareCells (sign : Comparison) (a b : Cell.Comparable) :
    ∃ truth, compareCells sign a.cell b.cell = .ok truth :=
  (a.readable.upTo.compareCells b.readable.upTo sign).exists_ok

theorem holds_same_iff (a b : Cell.Comparable) :
    Holds .same a b ↔ a.cell.place = b.cell.place := by
  obtain ⟨x?, hx⟩ := a.exists_number
  obtain ⟨y?, hy⟩ := b.exists_number
  obtain ⟨s, ha⟩ := Cell.exists_shows a.isScalar hx
  obtain ⟨t, hb⟩ := Cell.exists_shows b.isScalar hy
  obtain ⟨same, hsame, hiff⟩ := compareCells_same ha hx hb hy
  unfold Holds
  rw [← hiff, hsame, Except.ok.injEq]

theorem equivalence_holds_same : Equivalence (Holds .same) := by
  have hplaces : Equivalence fun a b : Cell.Comparable => a.cell.place = b.cell.place :=
    eq_equivalence.comap _
  have hsame : Holds .same = fun a b => a.cell.place = b.cell.place :=
    funext₂ fun a b => propext (holds_same_iff a b)
  rwa [hsame]

theorem holds_notEqual_iff (a b : Cell.Comparable) : Holds .notEqual a b ↔ ¬ Holds .same a b := by
  obtain ⟨same, hsame⟩ := exists_compareCells .same a b
  unfold Holds
  rw [compareCells_notEqual, hsame]
  cases same <;> simp [Except.map]

theorem holds_iff_of_numbers {a b : Cell.Comparable} (hx : a.cell.number = .ok (some x))
    (hy : b.cell.number = .ok (some y)) (sign : Comparison) :
    Holds sign a b ↔ sign.holds x y = true := by
  unfold Holds
  rw [compareCells_of_numbers hx hy, Except.ok.injEq]

/-- On scalar cells that can be asked for their numbers every comparison succeeds.  Equality, of
either sign, is an equivalence relation, and inequality is its complement.  Two cells with numbers
are ordered in exactly one way, and cells of which one has no number are not ordered. -/
theorem comparisons_coherent :
    Equivalence (Holds .same) ∧
    ∀ a b : Cell.Comparable,
      (∀ sign, ∃ truth, compareCells sign a.cell b.cell = .ok truth) ∧
      (Holds .equal a b ↔ Holds .same a b) ∧
      (Holds .notEqual a b ↔ ¬ Holds .same a b) ∧
      ((∃ x y, a.cell.number = .ok (some x) ∧ b.cell.number = .ok (some y)) →
        (∃! sign, sign ∈ [Comparison.less, .same, .greater] ∧ Holds sign a b) ∧
        (Holds .lessOrEqual a b ↔ ¬ Holds .greater a b) ∧
        (Holds .greaterOrEqual a b ↔ ¬ Holds .less a b)) ∧
      (a.cell.number = .ok none ∨ b.cell.number = .ok none →
        ∀ sign ∈ [Comparison.less, .lessOrEqual, .greater, .greaterOrEqual],
          ¬ Holds sign a b) := by
  refine ⟨equivalence_holds_same, fun a b => ⟨fun sign => exists_compareCells sign a b, Iff.rfl,
    holds_notEqual_iff a b, ?_, ?_⟩⟩
  · rintro ⟨x, y, hx, hy⟩
    simp only [holds_iff_of_numbers hx hy, Comparison.holds_lessOrEqual,
      Comparison.holds_greaterOrEqual, Bool.not_eq_true']
    exact ⟨Comparison.existsUnique_holds x y, by simp, by simp⟩
  · intro hnone sign hsign htrue
    obtain ⟨x?, hx⟩ := a.exists_number
    obtain ⟨y?, hy⟩ := b.exists_number
    rw [hx, hy, Except.ok.injEq, Except.ok.injEq] at hnone
    rw [Holds, compareCells_order_of_no_number hx hy hnone hsign] at htrue
    cases htrue

theorem comparisons_coherent_thousand :
    ∃ a b c : Cell.Comparable,
      a.cell = .text "1e3" ∧ b.cell = .int 1000 ∧ c.cell = .text "1e3 t" ∧
      (∃ x y, a.cell.number = .ok (some x) ∧ b.cell.number = .ok (some y)) ∧
      (Holds .lessOrEqual a b ↔ ¬ Holds .greater a b) ∧
      c.cell.number = .ok none ∧ ¬ Holds .lessOrEqual b c := by
  have hx : (Cell.text "1e3").number = .ok (some (.ofInt 1000)) := by decide +kernel
  have hy : (Cell.int 1000).number = .ok (some (.ofInt 1000)) := by decide +kernel
  have hz : (Cell.text "1e3 t").number = .ok none := by decide +kernel
  let a : Cell.Comparable := ⟨.text "1e3", by simp [Cell.IsScalar], _, hx⟩
  let b : Cell.Comparable := ⟨.int 1000, by simp [Cell.IsScalar], _, hy⟩
  let c : Cell.Comparable := ⟨.text "1e3 t", by simp [Cell.IsScalar], _, hz⟩
  obtain ⟨-, -, -, horder, -⟩ := comparisons_coherent.2 a b
  obtain ⟨-, -, -, -, hnone⟩ := comparisons_coherent.2 b c
  refine ⟨a, b, c, rfl, rfl, rfl, ⟨_, _, hx, hy⟩, (horder ⟨_, _, hx, hy⟩).2.1, hz, ?_⟩
  exact hnone (.inr hz) .lessOrEqual (by simp)

end Condition

end SheetAudit
