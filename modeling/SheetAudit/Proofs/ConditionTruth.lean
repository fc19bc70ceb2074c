import SheetAudit.Condition.Truth
import SheetAudit.Proofs.ConditionReading

/-!
# Truth of conditions

Comparisons look only at the texts and the numbers of cells and at what is empty, so they cannot
tell cells apart that are alike in these.  A value that stands alone is another matter, and counts
as a truth value of its own.  A condition that can be read fails for a cell only as asking for the
text or the number of the cell does, and has a truth value if neither fails.
-/

namespace SheetAudit

open Outcome

/-! ## Comparisons of cells that are alike -/

/-- Two cells show the same text and count as the same number, and both are nothing or neither
is. -/
structure Cell.Alike (cell other : Cell) : Prop where
  shown : cell.shown = other.shown
  number : cell.number = other.number
  isEmpty : cell.isEmpty = other.isEmpty
  empty_iff : cell = .empty ↔ other = .empty

theorem Cell.Alike.refl (cell : Cell) : cell.Alike cell := ⟨rfl, rfl, rfl, Iff.rfl⟩

namespace Condition

variable {cell other : Cell} {truth : Bool}

theorem isSame_congr {left left' right right' : Cell} (hleft : left.Alike left')
    (hright : right.Alike right') : isSame left right = isSame left' right' := by
  have hsame : ∀ {left right : Cell}, left ≠ .empty → right ≠ .empty →
      isSame left right = (do
        let left ← left.shown
        let right ← right.shown
        pure (left == right)) := by
    intro left right hleft hright
    unfold isSame
    split <;> first | rfl | contradiction
  have hnone : ∀ {left right : Cell}, left = .empty ∨ right = .empty →
      isSame left right = .ok (left.isEmpty && right.isEmpty) := by
    rintro left right (rfl | rfl)
    · rfl
    · cases left <;> rfl
  by_cases hempty : left = .empty ∨ right = .empty
  · have hempty' : left' = .empty ∨ right' = .empty :=
      hempty.imp hleft.empty_iff.mp hright.empty_iff.mp
    rw [hnone hempty, hnone hempty', hleft.isEmpty, hright.isEmpty]
  · have hempty' : ¬ (left' = .empty ∨ right' = .empty) := by
      rwa [← hleft.empty_iff, ← hright.empty_iff]
    rw [not_or] at hempty hempty'
    rw [hsame hempty.1 hempty.2, hsame hempty'.1 hempty'.2, hleft.shown, hright.shown]

/-- Cells that are alike compare alike. -/
theorem compareCells_congr (sign : Comparison) {left left' right right' : Cell}
    (hleft : left.Alike left') (hright : right.Alike right') :
    compareCells sign left right = compareCells sign left' right' := by
  unfold compareCells
  rw [hleft.number, hright.number, isSame_congr hleft hright]

theorem Operand.alike_cell (halike : cell.normalized.Alike other.normalized) (operand : Operand) :
    (operand.cell cell).Alike (operand.cell other) := by
  cases operand with
  | value => exact halike
  | literal fixed => exact .refl fixed

/-! ## Operands that stand alone -/

namespace Tree

mutual

/-- A condition with a fixed truth value in place of the value under test, wherever that stands
alone. -/
def withBare (truth : Bool) : Tree → Tree
  | .operand .value => .operand (.literal (.bool truth))
  | .operand (.literal fixed) => .operand (.literal fixed)
  | .compare sign left right => .compare sign left right
  | .not inner => .not (inner.withBare truth)
  | .all parts => .all (withBareAll truth parts)
  | .any parts => .any (withBareAll truth parts)

/-- Conditions with a fixed truth value wherever the value under test stands alone. -/
def withBareAll (truth : Bool) : List Tree → List Tree
  | [] => []
  | part :: parts => part.withBare truth :: withBareAll truth parts

end

mutual

/-- A condition holds of a cell as it holds of one that is alike, with the truth value of the first
cell wherever the cell stands alone. -/
theorem holds_withBare (halike : cell.normalized.Alike other.normalized)
    (htruth : isTrue cell.normalized = .ok truth) :
    ∀ tree : Tree, tree.holds cell = (tree.withBare truth).holds other
  | .operand .value => htruth
  | .operand (.literal _) => rfl
  | .compare sign left right =>
      compareCells_congr sign (left.alike_cell halike) (right.alike_cell halike)
  | .not inner => by
      rw [withBare, holds, holds, holds_withBare halike htruth inner]
  | .all parts => by
      rw [withBare, holds, holds, holdsAll_withBare halike htruth parts]
  | .any parts => by
      rw [withBare, holds, holds, holdsAny_withBare halike htruth parts]

theorem holdsAll_withBare (halike : cell.normalized.Alike other.normalized)
    (htruth : isTrue cell.normalized = .ok truth) :
    ∀ parts : List Tree, holdsAll cell parts = holdsAll other (withBareAll truth parts)
  | [] => rfl
  | part :: parts => by
      rw [withBareAll, holdsAll, holdsAll, holds_withBare halike htruth part,
        holdsAll_withBare halike htruth parts]

theorem holdsAny_withBare (halike : cell.normalized.Alike other.normalized)
    (htruth : isTrue cell.normalized = .ok truth) :
    ∀ parts : List Tree, holdsAny cell parts = holdsAny other (withBareAll truth parts)
  | [] => rfl
  | part :: parts => by
      rw [withBareAll, holdsAny, holdsAny, holds_withBare halike htruth part,
        holdsAny_withBare halike htruth parts]

end

end Tree

/-! ## Errors of conditions -/

/-- A cell has a text, and it can be told whether it counts as a number. -/
structure Readable (cell : Cell) : Prop where
  shown : ∃ s, cell.shown = .ok s
  number : ∃ x?, cell.number = .ok x?

/-- Asking a cell for its text or its number fails, if at all, by an allowed error. -/
structure ReadableUpTo (allowed : CellError → Prop) (cell : Cell) : Prop where
  shown : FailsOnlyBy allowed cell.shown
  number : FailsOnlyBy allowed cell.number

variable {allowed : CellError → Prop}

theorem Readable.upTo (hcell : Readable cell) : ReadableUpTo allowed cell := by
  obtain ⟨⟨s, hshown⟩, x?, hnumber⟩ := hcell
  refine ⟨?_, ?_⟩
  · rw [hshown]
    exact .ok s
  · rw [hnumber]
    exact .ok x?

theorem ReadableUpTo.isTrue (hcell : ReadableUpTo allowed cell) :
    FailsOnlyBy allowed (isTrue cell) := by
  unfold Condition.isTrue
  split
  · exact .ok _
  · exact .ok _
  · exact .ok _
  · refine hcell.number.bind fun x? => ?_
    cases x? with
    | some x => exact .ok _
    | none => exact hcell.shown.bind fun s => .ok _

theorem ReadableUpTo.isSame {left right : Cell} (hleft : ReadableUpTo allowed left)
    (hright : ReadableUpTo allowed right) : FailsOnlyBy allowed (isSame left right) := by
  unfold Condition.isSame
  split
  · exact .ok _
  · exact .ok _
  · exact hleft.shown.bind fun s => hright.shown.bind fun s' => .ok _

theorem ReadableUpTo.compareCells {left right : Cell} (hleft : ReadableUpTo allowed left)
    (hright : ReadableUpTo allowed right) (sign : Comparison) :
    FailsOnlyBy allowed (compareCells sign left right) := by
  have hsame := hleft.isSame hright
  refine hleft.number.bind fun x? => hright.number.bind fun y? => ?_
  split
  · exact .ok _
  · cases sign with
    | equal | same => exact hsame
    | notEqual => exact hsame.bind fun same => .ok _
    | less | lessOrEqual | greater | greaterOrEqual => exact .ok _

namespace Tree

theorem failsOnlyBy_holdsAll {parts : List Tree}
    (hparts : ∀ part ∈ parts, FailsOnlyBy allowed (part.holds cell)) :
    FailsOnlyBy allowed (holdsAll cell parts) := by
  induction parts with
  | nil => exact .ok true
  | cons part parts ih =>
      rw [List.forall_mem_cons] at hparts
      refine hparts.1.bind fun first => ?_
      cases first with
      | true => exact ih hparts.2
      | false => exact .ok false

theorem failsOnlyBy_holdsAny {parts : List Tree}
    (hparts : ∀ part ∈ parts, FailsOnlyBy allowed (part.holds cell)) :
    FailsOnlyBy allowed (holdsAny cell parts) := by
  induction parts with
  | nil => exact .ok false
  | cons part parts ih =>
      rw [List.forall_mem_cons] at hparts
      refine hparts.1.bind fun first => ?_
      cases first with
      | true => exact .ok true
      | false => exact ih hparts.2

theorem failsOnlyBy_joined (join : List Tree → Tree) {parts : List Tree}
    (hparts : ∀ part ∈ parts, FailsOnlyBy allowed (part.holds cell))
    (hjoin : FailsOnlyBy allowed ((join parts).holds cell)) :
    FailsOnlyBy allowed ((joined join parts).holds cell) := by
  unfold joined
  split
  · exact hparts _ (by simp)
  · exact hjoin

theorem failsOnlyBy_not {inner : Tree} (hinner : FailsOnlyBy allowed (inner.holds cell)) :
    FailsOnlyBy allowed ((Tree.not inner).holds cell) := by
  rw [holds]
  exact hinner.bind fun result => .ok _

end Tree

/-- What a phrase comes to fails for a cell, if at all, by an allowed error; an operand does so
where it is read. -/
def Symbol.FailsOnlyBy (allowed : CellError → Prop) (cell : Cell) :
    (symbol : Symbol) → symbol.Meaning → Prop
  | .disjunction, parts | .conjunction, parts =>
      ∀ part ∈ parts, Outcome.FailsOnlyBy allowed (Tree.holds cell part)
  | .negation, tree | .primary, tree | .comparison, tree =>
      Outcome.FailsOnlyBy allowed (Tree.holds cell tree)
  | .operand, single => ReadableUpTo allowed (single.cell cell)

/-- The induction is on the phrase: a connective fails only where one of its parts does. -/
theorem failsOnlyBy_meaning (hcell : ReadableUpTo allowed cell.normalized) {symbol : Symbol}
    (phrase : Derivation symbol) : symbol.FailsOnlyBy allowed cell phrase.meaning := by
  induction phrase with
  | lastDisjunct part ih =>
      have hpart := Tree.failsOnlyBy_joined .all ih (Tree.failsOnlyBy_holdsAll ih)
      exact List.forall_mem_cons.mpr ⟨hpart, by simp⟩
  | or part others ihPart ihOthers =>
      have hpart := Tree.failsOnlyBy_joined .all ihPart (Tree.failsOnlyBy_holdsAll ihPart)
      exact List.forall_mem_cons.mpr ⟨hpart, ihOthers⟩
  | lastConjunct part ih => exact List.forall_mem_cons.mpr ⟨ih, by simp⟩
  | and part others ihPart ihOthers => exact List.forall_mem_cons.mpr ⟨ihPart, ihOthers⟩
  | not inner ih | bang inner ih => exact Tree.failsOnlyBy_not ih
  | primary inner ih => exact ih
  | brackets inner ih => exact Tree.failsOnlyBy_joined .any ih (Tree.failsOnlyBy_holdsAny ih)
  | comparison inner ih => exact ih
  | compare left sign right ihLeft ihRight => exact ihLeft.compareCells ihRight sign
  | alone operand ih => exact ih.isTrue
  | value => exact hcell
  | number spelling => exact ⟨.ok _, .ok _⟩
  | quoted quote body => exact ⟨.ok _, .ok _⟩
  | bool truth => exact ⟨.ok _, .ok _⟩
  | null => exact ⟨.ok _, .ok _⟩

theorem holds_of_ofText {condition : String} {tree : Tree}
    (hread : Tree.ofText condition = .ok tree) (value : Cell) :
    holds (some condition) value = (tree.holds value).mapError .cell := by
  unfold holds
  simp only [hread]
  rfl

theorem holds_of_unread {condition : String} {e : Error} (hread : Tree.ofText condition = .error e)
    (value : Cell) : holds (some condition) value = .error (.condition e) := by
  unfold holds
  simp only [hread]
  rfl

/-- A condition that can be read fails for a cell, if at all, as asking for the text or the number
of the cell does. -/
theorem failsOnlyBy_holds_of_ofText (hcell : ReadableUpTo allowed cell.normalized)
    {condition : String} {tree : Tree} (hread : Tree.ofText condition = .ok tree) :
    FailsOnlyBy allowed (tree.holds cell) := by
  obtain ⟨tokens, -, htokens⟩ := bind_eq_ok_iff.mp hread
  obtain ⟨phrase, -, -, rfl⟩ := Tree.ofTokens_eq_ok htokens
  have hparts := failsOnlyBy_meaning hcell phrase
  exact Tree.failsOnlyBy_joined .any hparts (Tree.failsOnlyBy_holdsAny hparts)

/-- Every condition that can be read has a truth value for a cell with a text. -/
theorem exists_holds_of_ofText (hcell : Readable cell.normalized) {condition : String} {tree : Tree}
    (hread : Tree.ofText condition = .ok tree) : ∃ truth, tree.holds cell = .ok truth :=
  (failsOnlyBy_holds_of_ofText hcell.upTo hread).exists_ok

end Condition

end SheetAudit
