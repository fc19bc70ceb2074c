import Mathlib.Tactic

/-!
# Outcomes that may be errors

Most functions of the project give a value or an error.  These lemmas say how such outcomes are put
together and taken apart.
-/

namespace SheetAudit
namespace Outcome

variable {ε δ α β : Type}

@[simp] theorem pure_eq_ok (a : α) : (pure a : Except ε α) = .ok a := rfl

@[simp] theorem throw_eq_error (e : ε) : (throw e : Except ε α) = .error e := rfl

@[simp] theorem ok_bind (a : α) (next : α → Except ε β) :
    ((Except.ok a : Except ε α) >>= next) = next a := rfl

@[simp] theorem error_bind (e : ε) (next : α → Except ε β) :
    ((Except.error e : Except ε α) >>= next) = .error e := rfl

@[simp] theorem mapError_ok (rename : ε → δ) (a : α) :
    (Except.ok a : Except ε α).mapError rename = .ok a := rfl

@[simp] theorem mapError_error (rename : ε → δ) (e : ε) :
    (Except.error e : Except ε α).mapError rename = .error (rename e) := rfl

theorem bind_eq_ok_iff {outcome : Except ε α} {next : α → Except ε β} {b : β} :
    (outcome >>= next) = .ok b ↔ ∃ a, outcome = .ok a ∧ next a = .ok b := by
  cases outcome <;> simp

theorem bind_eq_error_iff {outcome : Except ε α} {next : α → Except ε β} {e : ε} :
    (outcome >>= next) = .error e ↔
      outcome = .error e ∨ ∃ a, outcome = .ok a ∧ next a = .error e := by
  cases outcome <;> simp

theorem mapError_eq_ok_iff {rename : ε → δ} {outcome : Except ε α} {a : α} :
    outcome.mapError rename = .ok a ↔ outcome = .ok a := by
  cases outcome <;> simp

theorem mapError_eq_error_iff {rename : ε → δ} {outcome : Except ε α} {d : δ} :
    outcome.mapError rename = .error d ↔ ∃ e, outcome = .error e ∧ rename e = d := by
  cases outcome <;> simp

/-! ## Allowed errors -/

section Allowed

variable {allowed : ε → Prop} {outcome : Except ε α}

/-- An outcome that is an error is an allowed one. -/
def FailsOnlyBy (allowed : ε → Prop) (outcome : Except ε α) : Prop :=
  ∀ e, outcome = .error e → allowed e

theorem FailsOnlyBy.ok (a : α) : FailsOnlyBy allowed (.ok a) := by
  rintro e ⟨⟩

theorem FailsOnlyBy.error {e : ε} (he : allowed e) :
    FailsOnlyBy allowed (.error e : Except ε α) := by
  rintro _ ⟨⟩
  exact he

theorem FailsOnlyBy.bind {next : α → Except ε β} (houtcome : FailsOnlyBy allowed outcome)
    (hnext : ∀ a, FailsOnlyBy allowed (next a)) : FailsOnlyBy allowed (outcome >>= next) := by
  intro e herror
  rcases bind_eq_error_iff.mp herror with hfirst | ⟨a, -, hsecond⟩
  · exact houtcome e hfirst
  · exact hnext a e hsecond

theorem FailsOnlyBy.mapError {allowed : δ → Prop} {rename : ε → δ}
    (houtcome : FailsOnlyBy (fun e => allowed (rename e)) outcome) :
    FailsOnlyBy allowed (outcome.mapError rename) := by
  cases outcome with
  | ok a => exact .ok a
  | error e => exact .error (houtcome e rfl)

/-- If no error is allowed, there is a value. -/
theorem FailsOnlyBy.exists_ok (houtcome : FailsOnlyBy (fun _ => False) outcome) :
    ∃ a, outcome = .ok a := by
  cases outcome with
  | ok a => exact ⟨a, rfl⟩
  | error e => exact (houtcome e rfl).elim

end Allowed

/-! ## Lists of outcomes -/

theorem mapM_congr {f g : α → Except ε β} {xs : List α} (hfg : ∀ a ∈ xs, f a = g a) :
    xs.mapM f = xs.mapM g := by
  induction xs with
  | nil => rfl
  | cons a xs ih =>
      rw [List.mapM_cons, List.mapM_cons, hfg a (by simp),
        ih fun other hother => hfg other (by simp [hother])]

/-- If a list of calls succeeds, each call gives one of the values and each value comes from one
of the calls. -/
theorem mem_of_mapM_eq_ok {f : α → Except ε β} {xs : List α} {ys : List β}
    (hmap : xs.mapM f = .ok ys) :
    (∀ a ∈ xs, ∃ b ∈ ys, f a = .ok b) ∧ ∀ b ∈ ys, ∃ a ∈ xs, f a = .ok b := by
  induction xs generalizing ys with
  | nil =>
      cases hmap
      simp
  | cons a xs ih =>
      rw [List.mapM_cons] at hmap
      obtain ⟨b, hb, hmap⟩ := bind_eq_ok_iff.mp hmap
      obtain ⟨bs, hbs, hmap⟩ := bind_eq_ok_iff.mp hmap
      cases hmap
      obtain ⟨hforth, hback⟩ := ih hbs
      constructor
      · rw [List.forall_mem_cons]
        refine ⟨⟨b, by simp, hb⟩, ?_⟩
        intro other hother
        obtain ⟨found, hfound, hcall⟩ := hforth other hother
        exact ⟨found, by simp [hfound], hcall⟩
      · rw [List.forall_mem_cons]
        refine ⟨⟨a, by simp, hb⟩, ?_⟩
        intro found hfound
        obtain ⟨other, hother, hcall⟩ := hback found hfound
        exact ⟨other, by simp [hother], hcall⟩

theorem length_of_mapM_eq_ok {f : α → Except ε β} {xs : List α} {ys : List β}
    (hmap : xs.mapM f = .ok ys) : ys.length = xs.length := by
  induction xs generalizing ys with
  | nil =>
      cases hmap
      rfl
  | cons a xs ih =>
      rw [List.mapM_cons] at hmap
      obtain ⟨b, _, hmap⟩ := bind_eq_ok_iff.mp hmap
      obtain ⟨bs, hbs, hmap⟩ := bind_eq_ok_iff.mp hmap
      cases hmap
      rw [List.length_cons, List.length_cons, ih hbs]

theorem exists_mapM_ok {f : α → Except ε β} {xs : List α} (hf : ∀ a ∈ xs, ∃ b, f a = .ok b) :
    ∃ ys, xs.mapM f = .ok ys := by
  induction xs with
  | nil => exact ⟨[], rfl⟩
  | cons a xs ih =>
      obtain ⟨b, hb⟩ := hf a (by simp)
      obtain ⟨bs, hbs⟩ := ih fun other hother => hf other (by simp [hother])
      refine ⟨b :: bs, ?_⟩
      rw [List.mapM_cons, hb, hbs]
      rfl

end Outcome
end SheetAudit
