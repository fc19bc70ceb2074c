import Mathlib.Data.List.TakeWhile
import Mathlib.Tactic
import SheetAudit.Proofs.Outcome
import SheetAudit.Proofs.PlainTexts
import SheetAudit.Rule.Verdict

/-!
# What the bounds of a range demand

On either side, the last bound that a condition gives decides what passes a range rule.  A part
with any other key, an earlier part with the same key and a part that gives a NaN demand nothing;
so a value may pass although its condition names a bound that it violates.  Values that pass lie
within all bounds exactly if the condition is `Faithful`, or nothing passes it at all.
-/

namespace SheetAudit

open Text Outcome

/-- A cell is not a list of cells. -/
def Cell.IsScalar (cell : Cell) : Prop := ∀ items, cell ≠ .list items

namespace Bounds

/-! ## Sides -/

inductive Side where
  | least
  | greatest
  deriving Repr, DecidableEq

instance : Fintype Side where
  elems := {.least, .greatest}
  complete side := by cases side <;> decide

namespace Side

def key : Side → String
  | .least => "min"
  | .greatest => "max"

/-- A number lies on the right side of a bound, or at it. -/
def Keeps (side : Side) (bound x : Number) : Prop :=
  match side with
  | .least => bound.le x
  | .greatest => x.le bound

def violated (side : Side) (bound : Double) (x : Number) : Bool :=
  match side with
  | .least => bound.exceeds x
  | .greatest => bound.fallsShortOf x

instance (side : Side) (bound x : Number) : Decidable (side.Keeps bound x) :=
  match side with
  | .least => inferInstanceAs (Decidable (bound.le x = true))
  | .greatest => inferInstanceAs (Decidable (x.le bound = true))

theorem forall_iff {p : Side → Prop} : (∀ side, p side) ↔ p .least ∧ p .greatest := by
  constructor
  · intro hp
    exact ⟨hp .least, hp .greatest⟩
  · rintro ⟨hleast, hgreatest⟩ (_ | _)
    · exact hleast
    · exact hgreatest

theorem key_injective {side other : Side} (hkey : side.key = other.key) : side = other := by
  cases side <;> cases other <;> first | rfl | exact absurd hkey (by decide)

variable {side other : Side} {bound last x : Number}

theorem violated_number : side.violated (.number bound) x = false ↔ side.Keeps bound x := by
  cases side <;>
    simp [violated, Keeps, Double.exceeds, Double.fallsShortOf, Number.lt, Number.le]

theorem keeps_self : side.Keeps x x := by
  cases side <;> simp [Keeps, Number.le]

theorem Keeps.trans (hlast : side.Keeps bound last) (hx : side.Keeps last x) :
    side.Keeps bound x := by
  cases side <;> simp only [Keeps, Number.le, decide_eq_true_eq] at * <;> omega

/-- What lies within a bound on one side leaves that bound within those on the other side. -/
theorem Keeps.across (hside : side ≠ other) (hlast : side.Keeps last x)
    (hbound : other.Keeps bound x) : other.Keeps bound last := by
  cases side <;> cases other <;> simp only [Keeps, Number.le, decide_eq_true_eq] at *
  all_goals first | omega | exact absurd rfl hside

end Side

/-! ## Conditions -/

/-- The parts of a condition that are not blank. -/
def parts (condition : String) : List (List Char) :=
  (partsBetween ',' condition.toList).filter fun part => !part.all isBlank

/-- A part is a key, a colon and a text.  Blanks around them and the case of the key do not
count. -/
def Reads (part : List Char) (key text : String) : Prop :=
  ∃ name after, part = name ++ ':' :: after ∧ ':' ∉ name ∧
    lower (String.ofList (trimChars name)) = key ∧ String.ofList (trimChars after) = text

/-- A part gives a bound on a side. -/
def Gives (part : List Char) (side : Side) (bound : Double) : Prop :=
  ∃ text, Reads part side.key text ∧ readDouble? text = some bound

/-- A part has a colon, and a number behind it if its key is that of a side. -/
def Readable (part : List Char) : Prop :=
  ∃ key text, Reads part key text ∧
    ∀ side : Side, key = side.key → ∃ bound, readDouble? text = some bound

def bound? (side : Side) (part : List Char) : Option Double :=
  match splitPart? part with
  | some (key, text) => if key = side.key then readDouble? text else .none
  | .none => .none

/-- The bounds that parts give on a side, in order. -/
def boundsOn (side : Side) (ps : List (List Char)) : List Double :=
  ps.filterMap (bound? side)

/-- The bound that counts on a side. -/
def lastOn (side : Side) (condition : String) : Option Double :=
  (boundsOn side (parts condition)).getLast?

/-- A condition admits a number: all parts can be read, and the number violates the last bound on
neither side. -/
structure Admits (condition : String) (x : Number) : Prop where
  readable : ∀ part ∈ parts condition, Readable part
  last : ∀ side, ∀ bound ∈ lastOn side condition, side.violated bound x = false

/-- Every part of a condition is a bound, and a number keeps to all of them. -/
def Confines (condition : String) (x : Number) : Prop :=
  ∀ part ∈ parts condition, ∃ (side : Side) (bound : Number),
    Gives part side (.number bound) ∧ side.Keeps bound x

/-- Every part of a condition is a bound other than a NaN, and on either side the last bound is the
tightest. -/
structure Faithful (condition : String) : Prop where
  bounds : ∀ part ∈ parts condition, ∃ (side : Side) (bound : Number),
    Gives part side (.number bound)
  tightest : ∀ (side : Side) (bound last : Number),
    .number bound ∈ boundsOn side (parts condition) →
      lastOn side condition = some (.number last) → side.Keeps bound last

variable {part : List Char} {key text condition : String} {side : Side} {x : Number}

/-! ## One part -/

theorem splitPart?_append {name : List Char} (hname : ':' ∉ name) (after : List Char) :
    splitPart? (name ++ ':' :: after) =
      some (lower (String.ofList (trimChars name)), String.ofList (trimChars after)) := by
  unfold splitPart?
  rw [dropWhile_ne_append hname, takeWhile_ne_append hname]

theorem splitPart?_of_notMem (hpart : ':' ∉ part) : splitPart? part = .none := by
  unfold splitPart?
  rw [dropWhile_ne_of_notMem hpart]

theorem splitPart?_eq_some_iff : splitPart? part = some (key, text) ↔ Reads part key text := by
  constructor
  · intro hsplit
    by_cases hcolon : ':' ∈ part
    · obtain ⟨name, after, rfl, hname⟩ := List.eq_append_cons_of_mem hcolon
      rw [splitPart?_append hname, Option.some.injEq, Prod.mk.injEq] at hsplit
      exact ⟨name, after, rfl, hname, hsplit⟩
    · rw [splitPart?_of_notMem hcolon] at hsplit
      cases hsplit
  · rintro ⟨name, after, rfl, hname, rfl, rfl⟩
    exact splitPart?_append hname after

theorem bound?_eq_some_iff {bound : Double} :
    bound? side part = some bound ↔ Gives part side bound := by
  unfold bound? Gives
  simp only [← splitPart?_eq_some_iff]
  cases splitPart? part with
  | none => simp
  | some split =>
      obtain ⟨key, text⟩ := split
      by_cases hkey : key = side.key <;> simp [hkey]

theorem Gives.unique {other : Side} {bound otherBound : Double} (hgives : Gives part side bound)
    (hother : Gives part other otherBound) : side = other ∧ bound = otherBound := by
  obtain ⟨text, hreads, hbound⟩ := hgives
  obtain ⟨otherText, hotherReads, hotherBound⟩ := hother
  have hsame := (splitPart?_eq_some_iff.mpr hreads).symm.trans
    (splitPart?_eq_some_iff.mpr hotherReads)
  rw [Option.some.injEq, Prod.mk.injEq] at hsame
  rw [hsame.2, hotherBound, Option.some.injEq] at hbound
  exact ⟨Side.key_injective hsame.1, hbound.symm⟩

theorem Gives.bound?_eq {bound : Double} (hgives : Gives part side bound) (other : Side) :
    bound? other part = if other = side then some bound else .none := by
  split
  · next hsame =>
    subst hsame
    exact bound?_eq_some_iff.mpr hgives
  · next hdiffer =>
    rw [Option.eq_none_iff_forall_ne_some]
    intro otherBound hother
    exact hdiffer ((bound?_eq_some_iff.mp hother).unique hgives).1

theorem Gives.readable {bound : Double} (hgives : Gives part side bound) : Readable part := by
  obtain ⟨text, hreads, hbound⟩ := hgives
  exact ⟨side.key, text, hreads, fun _ _ => ⟨bound, hbound⟩⟩

theorem withPart_eq_ok_iff (hpart : part.all isBlank = false) {before after : Bounds} :
    before.withPart part = .ok after ↔ Readable part ∧
      ⟨(bound? .least part).or before.least, (bound? .greatest part).or before.greatest⟩ =
        after := by
  unfold withPart Readable bound? partNumber
  simp only [← splitPart?_eq_some_iff, hpart, Side.forall_iff, Side.key]
  cases splitPart? part with
  | none => simp
  | some split =>
      obtain ⟨key, text⟩ := split
      by_cases hmin : key = "min"
      · subst hmin
        cases hbound : readDouble? text <;> simp [hbound]
      · by_cases hmax : key = "max"
        · subst hmax
          cases hbound : readDouble? text <;> simp [hbound]
        · simp [hmin, hmax]

/-! ## All parts -/

theorem mem_boundsOn {ps : List (List Char)} {bound : Double} :
    bound ∈ boundsOn side ps ↔ ∃ part ∈ ps, Gives part side bound := by
  unfold boundsOn
  simp only [List.mem_filterMap, bound?_eq_some_iff]

theorem getLast?_boundsOn_concat (ps : List (List Char)) (part : List Char) :
    (boundsOn side (ps ++ [part])).getLast? =
      (bound? side part).or (boundsOn side ps).getLast? := by
  unfold boundsOn
  cases hbound : bound? side part <;> simp [hbound]

theorem foldlM_withPart_eq_ok_iff {ps : List (List Char)}
    (hps : ∀ part ∈ ps, part.all isBlank = false) {bounds : Bounds} :
    ps.foldlM withPart none = .ok bounds ↔ (∀ part ∈ ps, Readable part) ∧
      ⟨(boundsOn .least ps).getLast?, (boundsOn .greatest ps).getLast?⟩ = bounds := by
  -- a later bound takes the place of an earlier one, so the parts are taken from the end
  induction ps using List.reverseRecOn generalizing bounds with
  | nil => simp [boundsOn, none]
  | append_singleton ps part ih =>
      have hpart := hps part (by simp)
      have hbefore := @ih fun other hother => hps other (by simp [hother])
      rw [List.foldlM_append, bind_eq_ok_iff]
      simp only [List.foldlM_cons, List.foldlM_nil, bind_pure, hbefore,
        withPart_eq_ok_iff hpart, getLast?_boundsOn_concat, List.forall_mem_append,
        List.forall_mem_singleton]
      constructor
      · rintro ⟨before, ⟨hread, rfl⟩, hlast, rfl⟩
        exact ⟨⟨hread, hlast⟩, rfl⟩
      · rintro ⟨⟨hread, hlast⟩, rfl⟩
        exact ⟨_, ⟨hread, rfl⟩, hlast, rfl⟩

theorem ofText_eq_ok_iff {bounds : Bounds} :
    ofText condition = .ok bounds ↔ (∀ part ∈ parts condition, Readable part) ∧
      ⟨lastOn .least condition, lastOn .greatest condition⟩ = bounds := by
  have hblank : ∀ part ∈ parts condition, part.all isBlank = false := by
    intro part hpart
    simpa [parts] using (List.mem_filter.mp hpart).2
  have hskip : ofText condition = (parts condition).foldlM withPart none := by
    unfold ofText parts
    rw [List.foldlM_filter]
    congr 1
    funext before part
    cases hpart : part.all isBlank
    · simp
    · simp [withPart, hpart]
  rw [hskip, foldlM_withPart_eq_ok_iff hblank]
  rfl

theorem allow_iff {bounds : Bounds} :
    bounds.allow x = true ↔ (∀ bound ∈ bounds.least, bound.exceeds x = false) ∧
      ∀ bound ∈ bounds.greatest, bound.fallsShortOf x = false := by
  obtain ⟨least, greatest⟩ := bounds
  cases least <;> cases greatest <;> simp [allow]

theorem exists_allow_iff :
    (∃ bounds, ofText condition = .ok bounds ∧ bounds.allow x = true) ↔ Admits condition x := by
  simp only [ofText_eq_ok_iff, allow_iff]
  constructor
  · rintro ⟨bounds, ⟨hread, rfl⟩, hleast, hgreatest⟩
    exact ⟨hread, Side.forall_iff.mpr ⟨hleast, hgreatest⟩⟩
  · rintro ⟨hread, hlast⟩
    exact ⟨_, ⟨hread, rfl⟩, hlast .least, hlast .greatest⟩

/-! ## Confinement -/

theorem toNumber?_eq_some_iff {value : Double} : value.toNumber? = some x ↔ value = .number x := by
  cases value <;> simp [Double.toNumber?]

theorem gives_number_iff {bound : Number} :
    Gives part side (.number bound) ↔ bound ∈ (bound? side part).bind Double.toNumber? := by
  simp [← bound?_eq_some_iff, Option.bind_eq_some_iff, toNumber?_eq_some_iff]

instance : Decidable (Confines condition x) :=
  decidable_of_iff (∀ part ∈ parts condition, ∃ side : Side,
    ∃ bound ∈ (bound? side part).bind Double.toNumber?, side.Keeps bound x) (by
      simp only [Confines, gives_number_iff])

instance : Decidable (Faithful condition) :=
  decidable_of_iff
    ((∀ part ∈ parts condition, ∃ side : Side,
        ∃ bound ∈ (bound? side part).bind Double.toNumber?, True) ∧
      ∀ side : Side, ∀ bound ∈ (boundsOn side (parts condition)).filterMap Double.toNumber?,
        ∀ last ∈ (lastOn side condition).bind Double.toNumber?, side.Keeps bound last) (by
      simp only [and_true, List.mem_filterMap, Option.mem_def, Option.bind_eq_some_iff,
        toNumber?_eq_some_iff, exists_eq_right, bound?_eq_some_iff]
      constructor
      · rintro ⟨hbounds, htightest⟩
        exact ⟨hbounds, fun side bound last hbound hlast => htightest side bound hbound last hlast⟩
      · rintro ⟨hbounds, htightest⟩
        exact ⟨hbounds, fun side bound hbound last hlast => htightest side bound last hbound hlast⟩)

theorem Admits.of_lastOn {last : Number} (hadmits : Admits condition x)
    (hlast : lastOn side condition = some (.number last)) : Admits condition last where
  readable := hadmits.readable
  last := by
    intro other bound hbound
    by_cases hside : side = other
    · subst hside
      rw [hlast] at hbound
      cases hbound
      exact Side.violated_number.mpr Side.keeps_self
    · -- a number lies between the last bounds of both sides, so they do not cross
      have hkept := Side.violated_number.mp (hadmits.last side _ hlast)
      cases bound with
      | nan => cases other <;> rfl
      | number bound =>
          have hother := Side.violated_number.mp (hadmits.last other _ hbound)
          exact Side.violated_number.mpr (hkept.across hside hother)

theorem Confines.keeps {bound : Number} (hconfines : Confines condition x)
    (hbound : .number bound ∈ boundsOn side (parts condition)) : side.Keeps bound x := by
  obtain ⟨part, hpart, hgives⟩ := mem_boundsOn.mp hbound
  obtain ⟨other, otherBound, hother, hkeeps⟩ := hconfines part hpart
  obtain ⟨rfl, hsame⟩ := hgives.unique hother
  cases hsame
  exact hkeeps

/-- If a condition confines all that it admits, and that is not nothing, it is faithful: it
confines its own last bounds, so no other bound is tighter. -/
theorem faithful_of_admits (hadmits : Admits condition x)
    (hconfines : ∀ y, Admits condition y → Confines condition y) : Faithful condition where
  bounds := by
    intro part hpart
    obtain ⟨side, bound, hgives, -⟩ := hconfines x hadmits part hpart
    exact ⟨side, bound, hgives⟩
  tightest _ _ last hbound hlast := (hconfines last (hadmits.of_lastOn hlast)).keeps hbound

theorem Faithful.exists_lastOn (hfaithful : Faithful condition) {bound : Double}
    (hbound : bound ∈ boundsOn side (parts condition)) :
    ∃ last : Number, lastOn side condition = some (.number last) := by
  obtain ⟨last, hlast⟩ := Option.ne_none_iff_exists'.mp
    (mt List.getLast?_eq_none_iff.mp (List.ne_nil_of_mem hbound))
  obtain ⟨part, hpart, hgives⟩ := mem_boundsOn.mp (List.mem_of_getLast? hlast)
  obtain ⟨other, number, hnumber⟩ := hfaithful.bounds part hpart
  rw [(hgives.unique hnumber).2] at hlast
  exact ⟨number, hlast⟩

theorem Faithful.confines (hfaithful : Faithful condition) (hadmits : Admits condition x) :
    Confines condition x := by
  intro part hpart
  obtain ⟨side, bound, hgives⟩ := hfaithful.bounds part hpart
  have hbound := mem_boundsOn.mpr ⟨part, hpart, hgives⟩
  obtain ⟨last, hlast⟩ := hfaithful.exists_lastOn hbound
  have hkept := Side.violated_number.mp (hadmits.last side _ hlast)
  exact ⟨side, bound, hgives, (hfaithful.tightest side bound last hbound hlast).trans hkept⟩

end Bounds

/-! ## Verdicts -/

namespace Verdict

theorem range_of_isScalar (bounds : Bounds) {value : Cell} (hvalue : value.IsScalar) :
    range bounds value = value.number >>= fun number => pure (number.any bounds.allow) := by
  cases value with
  | list items => exact absurd rfl (hvalue items)
  | _ => rfl

theorem range_eq_ok_true_iff {bounds : Bounds} {value : Cell} (hvalue : value.IsScalar) :
    range bounds value = .ok true ↔
      ∃ x, value.number = .ok (some x) ∧ bounds.allow x = true := by
  rw [range_of_isScalar bounds hvalue, bind_eq_ok_iff]
  constructor
  · rintro ⟨number?, hnumber, hallow⟩
    cases number? with
    | none => cases hallow
    | some x =>
        rw [pure_eq_ok, Except.ok.injEq] at hallow
        exact ⟨x, hnumber, hallow⟩
  · rintro ⟨x, hnumber, hallow⟩
    exact ⟨some x, hnumber, congrArg _ hallow⟩

theorem evaluate_eq_ok_true_iff {name : String} {type : RuleType}
    (htype : RuleType.ofText? name = some type) {condition : Option String} {value : Cell} :
    evaluate (some name) condition value = .ok true ↔ reach type condition value = .ok true := by
  unfold evaluate
  simp only [Option.bind_some, htype]
  cases hreach : reach type condition value with
  | ok passed => rfl
  | error e => cases he : e.isFatal <;> simp [he]

theorem evaluate_range_iff (condition : String) {value : Cell} (hvalue : value.IsScalar) :
    evaluate (some "range") (some condition) value = .ok true ↔
      ∃ x, value.number = .ok (some x) ∧ Bounds.Admits condition x := by
  have htype : RuleType.ofText? "range" = some .range := by decide
  rw [evaluate_eq_ok_true_iff htype]
  simp only [reach, bind_eq_ok_iff, mapError_eq_ok_iff, Option.getD_some,
    range_eq_ok_true_iff hvalue, ← Bounds.exists_allow_iff]
  constructor
  · rintro ⟨bounds, hbounds, x, hnumber, hallow⟩
    exact ⟨x, hnumber, bounds, hbounds, hallow⟩
  · rintro ⟨x, hnumber, bounds, hbounds, hallow⟩
    exact ⟨bounds, hbounds, x, hnumber, hallow⟩

/-- What passes a range rule has a number that violates the last bound on neither side.  It keeps
to all bounds of the condition, and the condition has nothing but bounds, exactly if the condition
is faithful or nothing passes it. -/
theorem evaluate_range_bounds (condition : String) :
    (∀ value : Cell, value.IsScalar →
      (evaluate (some "range") (some condition) value = .ok true ↔
        ∃ x, value.number = .ok (some x) ∧ Bounds.Admits condition x)) ∧
    ((∀ value : Cell, value.IsScalar → evaluate (some "range") (some condition) value = .ok true →
        ∃ x, value.number = .ok (some x) ∧ Bounds.Confines condition x) ↔
      Bounds.Faithful condition ∨
        ∀ value : Cell, value.IsScalar →
          evaluate (some "range") (some condition) value ≠ .ok true) := by
  refine ⟨fun value hvalue => evaluate_range_iff condition hvalue, ?_, ?_⟩
  · intro hconfines
    by_cases hadmits : ∃ x, Bounds.Admits condition x
    · obtain ⟨x, hadmits⟩ := hadmits
      refine .inl (Bounds.faithful_of_admits hadmits ?_)
      intro y hy
      -- every number is that of a cell, so what the condition admits passes as a value
      have hscalar : (Cell.double (.number y)).IsScalar := fun _ => Cell.noConfusion
      obtain ⟨number, hnumber, hinside⟩ := hconfines _ hscalar
        ((evaluate_range_iff condition hscalar).mpr ⟨y, rfl, hy⟩)
      cases hnumber
      exact hinside
    · refine .inr ?_
      intro value hvalue hpasses
      obtain ⟨x, -, hx⟩ := (evaluate_range_iff condition hvalue).mp hpasses
      exact hadmits ⟨x, hx⟩
  · rintro (hfaithful | hnone) value hvalue hpasses
    · obtain ⟨x, hnumber, hadmits⟩ := (evaluate_range_iff condition hvalue).mp hpasses
      exact ⟨x, hnumber, hfaithful.confines hadmits⟩
    · exact absurd hpasses (hnone value hvalue)

theorem evaluate_range_bounds_two_sides :
    ∃ x, (Cell.text "50").number = .ok (some x) ∧ Bounds.Confines " Min: 0,,MAX:1e2" x :=
  (evaluate_range_bounds " Min: 0,,MAX:1e2").2.mpr (.inl (by decide +kernel)) (.text "50")
    (fun _ => Cell.noConfusion) (by decide +kernel)

/-- A key that is not one of a side, an earlier bound on the same side and a NaN let a value pass
that the condition seems to exclude. -/
theorem evaluate_range_not_confined :
    let value : Cell := .int 5
    (evaluate (some "range") (some "minimum:10") value = .ok true ∧
      ¬ ∃ x, value.number = .ok (some x) ∧ Bounds.Confines "minimum:10" x) ∧
    (evaluate (some "range") (some "min:10,min:0") value = .ok true ∧
      ¬ ∃ x, value.number = .ok (some x) ∧ Bounds.Confines "min:10,min:0" x) ∧
    (evaluate (some "range") (some "min:nan") value = .ok true ∧
      ¬ ∃ x, value.number = .ok (some x) ∧ Bounds.Confines "min:nan" x) := by
  intro value
  have hnumber : value.number = .ok (some (Number.ofInt 5)) := by decide +kernel
  simp only [hnumber, Except.ok.injEq, Option.some.injEq, exists_eq_left']
  decide +kernel

end Verdict

end SheetAudit
