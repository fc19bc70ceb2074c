import Mathlib.Tactic
import SheetAudit.Proofs.CoercibleRows
import SheetAudit.Proofs.ScannerRefinement
import SheetAudit.Proofs.ScannerRegisters
import SheetAudit.Proofs.WindowBound

/-!
# The steps of a scanner come to an end

A step leaves fewer rows to go, or leaves the rows and goes on to a lower one.  A candidate that is
rejected takes the probe back, but only with the cursor below the header: the square of the rows
from the cursor on, and the rows from the probed row on, shrink together at every step.  This holds
for all lookaheads, also where a candidate is closed before a row is probed.
-/

namespace SheetAudit

/-- The most steps that there can be from some registers on. -/
def stepBound (rowsSeen cursor : Nat) (state : ScanState) (probe? : Option Nat) : Nat :=
  (rowsSeen - cursor) * (rowsSeen - cursor) +
    match state with
    | .seeking => rowsSeen - cursor
    | .vertical | .matrix => rowsSeen - probe?.getD cursor

namespace Registers

def stepsLeft (r : Registers) : Nat := stepBound r.rowsSeen r.cursor r.state r.probe?

/-- Steps one after the other. -/
inductive TakesSteps : Nat → Registers → Registers → Prop
  | here (r : Registers) : TakesSteps 0 r r
  | step {count : Nat} {r next last : Registers} (hstep : r.step = .ok (some next))
      (hrest : TakesSteps count next last) : TakesSteps (count + 1) r last

end Registers

namespace Scanner

open Registers (TakesSteps)

variable {given : List Row} {s next : Scanner}

/-! ## One step -/

theorem Follows.patience_bounds (hfollows : s.Follows given) :
    1 ≤ s.patience ∧ s.patience ≤ s.window.length + 1 := by
  rw [patience]
  cases hstage : s.stage with
  | seeking =>
      simp only
      omega
  | vertical cols headers counted taken =>
      have htaken : taken < s.window.length := hfollows.agrees.taken_lt (by rw [probe?, hstage])
      simp only
      omega
  | matrix headers endCol taken =>
      have htaken : taken < s.window.length := hfollows.agrees.taken_lt (by rw [probe?, hstage])
      simp only
      omega

theorem stepsLeft_registers (s : Scanner) :
    s.registers.stepsLeft = s.window.length * s.window.length + (s.patience - 1) := by
  have hheld : s.rowsSeen - s.cursor = s.window.length := Nat.add_sub_cancel_left ..
  cases hstage : s.stage with
  | seeking =>
      simp only [Registers.stepsLeft, stepBound, registers_rowsSeen, registers_cursor,
        registers_state, hstage, ScanStage.state, hheld, patience]
      rfl
  | vertical cols headers counted taken =>
      simp only [Registers.stepsLeft, stepBound, registers_rowsSeen, registers_cursor,
        registers_state, registers_probe?, hstage, ScanStage.state, hheld, patience, probe?,
        Option.getD_some, Nat.add_assoc, ← Nat.sub_sub]
  | matrix headers endCol taken =>
      simp only [Registers.stepsLeft, stepBound, registers_rowsSeen, registers_cursor,
        registers_state, registers_probe?, hstage, ScanStage.state, hheld, patience, probe?,
        Option.getD_some, Nat.add_assoc, ← Nat.sub_sub]

theorem Follows.stepsLeft_lt (hfollows : s.Follows given) (hstep : s.step = .ok (some next)) :
    next.registers.stepsLeft < s.registers.stepsLeft := by
  have hbefore := hfollows.patience_bounds
  have hafter := (hfollows.afterStep hstep).patience_bounds
  rw [stepsLeft_registers, stepsLeft_registers]
  rcases step_nearer hstep with hless | ⟨hsame, hpatience⟩
  · have hsquare : (next.window.length + 1) * (next.window.length + 1) ≤
        s.window.length * s.window.length := Nat.mul_le_mul hless hless
    have hexpand : (next.window.length + 1) * (next.window.length + 1) =
        next.window.length * next.window.length + 2 * next.window.length + 1 := by ring
    omega
  · rw [hsame]
    omega

/-! ## A run -/

/-- A run takes steps of the registers until none is left or an error stops it. -/
theorem Follows.exists_takesSteps_run (hfollows : s.Follows given) :
    ∃ count, TakesSteps count s.registers s.run.1.registers ∧
      s.run.1.registers.step = s.run.2.elim (.ok none) .error := by
  induction s using Scanner.run.induct with
  | case1 s e hstep =>
      rw [run_of_error hstep]
      refine ⟨0, .here s.registers, ?_⟩
      rw [hfollows.agrees.registers_step, hstep]
      rfl
  | case2 s hstep =>
      rw [run_of_none hstep]
      exact ⟨0, .here s.registers, hfollows.settled_iff.mpr hstep⟩
  | case3 s next hstep ih =>
      obtain ⟨count, hrest, hend⟩ := ih (hfollows.afterStep hstep)
      rw [run_of_some hstep]
      refine ⟨count + 1, .step ?_ hrest, hend⟩
      rw [hfollows.agrees.registers_step, hstep]
      rfl

end Scanner

namespace Registers

open Scanner

variable {options : ScanOptions} {given : List Row} {r next last : Registers}

theorem Visited.stepsLeft_lt (hvisited : r.Visited options given)
    (hstep : r.step = .ok (some next)) : next.stepsLeft < r.stepsLeft := by
  obtain ⟨s, rfl, hfollows⟩ := exists_follows_of_visited hvisited
  obtain ⟨next, hnext, rfl⟩ := hfollows.exists_next hstep
  exact hfollows.stepsLeft_lt hnext

theorem Visited.add_stepsLeft_le {count : Nat} (hvisited : r.Visited options given)
    (hsteps : TakesSteps count r last) : count + last.stepsLeft ≤ r.stepsLeft := by
  induction hsteps with
  | here r => omega
  | step hstep _ ih =>
      have hless := hvisited.stepsLeft_lt hstep
      have hrest := ih (hvisited.step hstep)
      omega

/-- As many steps as there can be, or fewer, lead to registers that have none left. -/
def ComesToRest (r last : Registers) : Prop :=
  ∃ count ≤ r.stepsLeft, TakesSteps count r last ∧ last.step = .ok none

theorem Visited.comesToRest_run {s : Scanner} (hvisited : s.registers.Visited options given)
    (hfollows : s.Follows given) (hrows : Coercible given) :
    s.run.2 = none ∧ s.registers.ComesToRest s.run.1.registers := by
  have hrun := hfollows.run_succeeds hrows
  obtain ⟨count, hsteps, hend⟩ := hfollows.exists_takesSteps_run
  have hcount := hvisited.add_stepsLeft_le hsteps
  rw [hrun] at hend
  exact ⟨hrun, count, by omega, hsteps, hend⟩

/-- Whatever the lookaheads are and whatever rows have been given, each step leaves fewer steps to
take, so that the loop of a scanner ends.  It ends without an error after a row and at the end if
each cell gives its number when it is asked. -/
theorem stepsLeft_decreases (options : ScanOptions) (hvisited : r.Visited options given) :
    (∀ next, r.step = .ok (some next) → next.stepsLeft < r.stepsLeft) ∧
      (∀ count last, TakesSteps count r last → count ≤ r.stepsLeft) ∧
      ∃ s : Scanner, s.registers = r ∧
        (∃ count, TakesSteps count r s.run.1.registers ∧
          s.run.1.registers.step = s.run.2.elim (.ok none) .error) ∧
        (∀ row, r.finished = false → Coercible (given ++ [row]) →
          (r.hold row).ComesToRest (s.feed row).1.registers ∧
            ∃ closed, (s.feed row).2 = .ok closed) ∧
        (Coercible given →
          { r with finished := true }.ComesToRest s.finish.1.registers ∧
            ∃ tables, s.finish.2 = .ok tables) := by
  refine ⟨fun next => hvisited.stepsLeft_lt, ?_, ?_⟩
  · intro count last hsteps
    have hcount := hvisited.add_stepsLeft_le hsteps
    omega
  · obtain ⟨s, rfl, hfollows⟩ := exists_follows_of_visited hvisited
    refine ⟨s, rfl, hfollows.exists_takesSteps_run, ?_, ?_⟩
    · intro row hopen hrows
      have hheld := hvisited.feed row hopen
      rw [← registers_hold] at hheld ⊢
      obtain ⟨hrun, hrest⟩ := hheld.comesToRest_run (hfollows.afterRow hopen row) hrows
      have hstill : ¬ s.finished = true := by simp [← registers_finished, hopen]
      simp only [feed, if_neg hstill, hrun]
      exact ⟨hrest, _, rfl⟩
    · intro hrows
      have hend : { s with finished := true }.registers.Visited options given := hvisited.finish
      obtain ⟨hrun, hrest⟩ := hend.comesToRest_run hfollows.afterFinish hrows
      simp only [finish, hrun]
      exact ⟨hrest, _, rfl⟩

/-- With no lookahead at all two steps are enough to close a header at the end. -/
theorem stepsLeft_decreases_no_lookahead :
    let options : ScanOptions := ⟨-1, 0, 0⟩
    let r := (Registers.start options).hold [.text "name", .text "town"]
    r.Visited options [[.text "name", .text "town"]] ∧ r.stepsLeft = 2 ∧
      ∃ count ≤ 2, ∃ last, TakesSteps count { r with finished := true } last ∧
        last.step = .ok none := by
  intro options r
  have hvisited : r.Visited options ([] ++ [[.text "name", .text "town"]]) :=
    Visited.start.feed _ rfl
  have hrows : Coercible [[.text "name", .text "town"]] := by
    simp [Coercible, CoercibleRow, Cell.number]
  obtain ⟨-, -, s, -, -, -, hfinish⟩ := stepsLeft_decreases options hvisited
  obtain ⟨⟨count, hcount, hsteps, hend⟩, -⟩ := hfinish hrows
  exact ⟨hvisited, rfl, count, hcount, _, hsteps, hend⟩

end Registers

end SheetAudit
