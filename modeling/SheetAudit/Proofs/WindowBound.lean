import Mathlib.Tactic
import SheetAudit.Proofs.CoercibleRows
import SheetAudit.Proofs.Outcome
import SheetAudit.Proofs.ScannerRefinement
import SheetAudit.Proofs.ScannerRegisters

/-!
# The rows that a scanner holds

In every state that can be reached the registers of a scanner fit together: it holds the rows from
its cursor on and no others, its candidate is headed at the cursor, and the probed row lies below
the cursor and is at most the first row not seen.  The rows held are never more than the greater
lookahead and one, and one less as soon as no step is left to take.
-/

namespace SheetAudit

open Outcome

namespace Registers

/-- Registers fit together when some rows have been given. -/
structure Sound (options : ScanOptions) (given : List Row) (r : Registers) : Prop where
  rowsSeen : r.rowsSeen = given.length
  cursor_le : r.cursor ≤ r.rowsSeen
  window : r.window = numberedRows r.cursor ((normalizedRows given).drop r.cursor)
  seeking : r.state = .seeking → r.candidate? = none ∧ r.probe? = none
  candidate : r.state ≠ .seeking → ∃ candidate probe,
    r.candidate? = some candidate ∧ r.probe? = some probe ∧ candidate.state = r.state ∧
      candidate.headerRow = r.cursor ∧ r.cursor < probe ∧ probe ≤ r.rowsSeen
  window_le : (r.window.length : Int) ≤
    max options.verticalLookahead options.matrixLookahead + 1
  window_le_between : r.step = .ok none ∨ r.finished = true →
    (r.window.length : Int) ≤ max options.verticalLookahead options.matrixLookahead
  atEnd : r.finished = true → r.step = .ok none →
    r.state = .seeking ∧ r.cursor = r.rowsSeen ∧ r.window = []

variable {options : ScanOptions} {given : List Row} {r next : Registers}

/-! ## What a step leaves as it is -/

/-- What no step changes, and a window that no step lets grow. -/
structure Frame (r next : Registers) : Prop where
  options_eq : next.options = r.options
  rowsSeen_eq : next.rowsSeen = r.rowsSeen
  finished_eq : next.finished = r.finished
  window_le : next.window.length ≤ r.window.length

theorem frame_resume (r : Registers) (cursor : Nat) : r.Frame (r.resume cursor) :=
  ⟨rfl, rfl, rfl, List.length_filter_le _ _⟩

theorem frame_closeVertical (r : Registers) (headerRow : Nat) (cols : List Nat)
    (headers : List String) (dataRows lastRow : Nat) :
    r.Frame (r.closeVertical headerRow cols headers dataRows lastRow) := by
  unfold closeVertical
  split
  · exact ⟨rfl, rfl, rfl, List.length_filter_le _ _⟩
  · exact r.frame_resume (headerRow + 1)

theorem frame_closeMatrix (r : Registers) (headerRow endRow endCol : Nat)
    (headers : List String) : r.Frame (r.closeMatrix headerRow endRow endCol headers) :=
  ⟨rfl, rfl, rfl, List.length_filter_le _ _⟩

theorem frame_of_seek (hseek : r.seek = .ok (some next)) : r.Frame next := by
  unfold seek at hseek
  split at hseek
  · cases hseek
  · split at hseek
    · cases hseek
    · obtain ⟨matrix, -, hseek⟩ := bind_eq_ok_iff.mp hseek
      split at hseek
      · cases hseek
        exact ⟨rfl, rfl, rfl, le_refl _⟩
      · split at hseek
        · cases hseek
          exact ⟨rfl, rfl, rfl, le_refl _⟩
        · cases hseek
          exact ⟨rfl, rfl, rfl, List.length_filter_le _ _⟩

theorem frame_of_probeVertical {probe headerRow dataRows lastRow : Nat} {cols : List Nat}
    {headers : List String}
    (hprobe : r.probeVertical probe headerRow cols headers dataRows lastRow = some next) :
    r.Frame next := by
  unfold probeVertical at hprobe
  split at hprobe
  · cases hprobe
    exact r.frame_closeVertical headerRow cols headers dataRows lastRow
  · split at hprobe
    · cases hprobe
    · split at hprobe
      · cases hprobe
        exact r.frame_closeVertical headerRow cols headers dataRows lastRow
      · cases hprobe
        exact ⟨rfl, rfl, rfl, le_refl _⟩

theorem frame_of_probeMatrix {probe headerRow endRow endCol : Nat} {headers : List String}
    (hprobe : r.probeMatrix probe headerRow endRow endCol headers = some next) :
    r.Frame next := by
  unfold probeMatrix at hprobe
  split at hprobe
  · cases hprobe
    exact r.frame_closeMatrix headerRow endRow endCol headers
  · split at hprobe
    · cases hprobe
    · split at hprobe
      · cases hprobe
        exact ⟨rfl, rfl, rfl, le_refl _⟩
      · cases hprobe
        exact r.frame_closeMatrix headerRow endRow endCol headers

theorem frame_of_step (hstep : r.step = .ok (some next)) : r.Frame next := by
  unfold step at hstep
  split at hstep
  · exact frame_of_seek hstep
  · exact frame_of_probeVertical (Except.ok.inj hstep)
  · exact frame_of_probeMatrix (Except.ok.inj hstep)
  · cases hstep

theorem Reached.options_eq (hreached : r.Reached options given) : r.options = options := by
  induction hreached with
  | start => rfl
  | feed _ _ _ _ ih => exact ih
  | step _ hstep ih => exact (frame_of_step hstep).options_eq.trans ih
  | finish _ _ ih => exact ih

theorem Reached.rowsSeen_eq (hreached : r.Reached options given) :
    r.rowsSeen = given.length := by
  induction hreached with
  | start => rfl
  | feed row _ _ _ ih =>
      rw [List.length_append, List.length_singleton, ← ih]
      rfl
  | step _ hstep ih => exact (frame_of_step hstep).rowsSeen_eq.trans ih
  | finish _ _ ih => exact ih

end Registers

/-! ## Registers that can be reached are those of a scanner -/

namespace Scanner

variable {options : ScanOptions} {given : List Row} {s next : Scanner}

/-- A scanner follows the rows it has been given: whatever rows come later, it agrees with the
sheet as a whole. -/
def Follows (given : List Row) (s : Scanner) : Prop :=
  ∀ later, (s.finished = true → later = []) →
    s.Agrees (normalizedRows (given ++ later)) (normalizedRows later)

theorem Follows.agrees (hfollows : s.Follows given) : s.Agrees (normalizedRows given) [] := by
  have hagrees := hfollows [] fun _ => rfl
  rwa [List.append_nil] at hagrees

theorem Follows.settled_iff (hfollows : s.Follows given) :
    s.registers.step = .ok none ↔ s.step = .ok none := by
  rw [hfollows.agrees.registers_step]
  cases s.step with
  | error e => exact iff_of_false (by rintro ⟨⟩) (by rintro ⟨⟩)
  | ok next? => cases next? <;> simp [Except.map]

theorem follows_start (options : ScanOptions) : (start options).Follows [] :=
  fun later _ => agrees_start options (normalizedRows later)

theorem Follows.afterRow (hfollows : s.Follows given) (hopen : s.finished = false) (row : Row) :
    { s with window := s.window ++ [row.map Cell.normalized] }.Follows (given ++ [row]) := by
  intro later _
  have hagrees := hfollows (row :: later) fun hfinished => by simp [hopen] at hfinished
  rw [List.append_assoc, List.singleton_append]
  exact hagrees.withRow

theorem Follows.afterStep (hfollows : s.Follows given) (hstep : s.step = .ok (some next)) :
    next.Follows given := by
  intro later hlater
  rw [(hfollows.agrees.step hstep).finished_eq] at hlater
  exact ((hfollows later hlater).step hstep).agrees

theorem Follows.afterFinish (hfollows : s.Follows given) :
    { s with finished := true }.Follows given := by
  intro later hlater
  rw [hlater rfl, List.append_nil]
  exact hfollows.agrees.withFinished

theorem Follows.exists_next (hfollows : s.Follows given) {r : Registers}
    (hstep : s.registers.step = .ok (some r)) :
    ∃ next, s.step = .ok (some next) ∧ next.registers = r := by
  rw [hfollows.agrees.registers_step] at hstep
  cases hnext : s.step with
  | error e =>
      rw [hnext] at hstep
      cases hstep
  | ok next? =>
      rw [hnext] at hstep
      obtain ⟨next, rfl, hregisters⟩ := Option.map_eq_some_iff.mp (Except.ok.inj hstep)
      exact ⟨next, rfl, hregisters⟩

theorem exists_follows_of_visited {r : Registers} (hvisited : r.Visited options given) :
    ∃ s : Scanner, s.registers = r ∧ s.Follows given := by
  induction hvisited with
  | start => exact ⟨start options, rfl, follows_start options⟩
  | feed row _ hopen ih =>
      obtain ⟨s, rfl, hfollows⟩ := ih
      exact ⟨_, registers_hold s row, hfollows.afterRow hopen row⟩
  | step _ hstep ih =>
      obtain ⟨s, rfl, hfollows⟩ := ih
      obtain ⟨next, hnext, hregisters⟩ := hfollows.exists_next hstep
      exact ⟨next, hregisters, hfollows.afterStep hnext⟩
  | finish _ ih =>
      obtain ⟨s, rfl, hfollows⟩ := ih
      exact ⟨_, rfl, hfollows.afterFinish⟩

/-! ## How many rows are held -/

/-- A scanner that waits holds its header and the rows it has taken, all within its lookahead. -/
theorem window_le_of_waiting (hvertical : 1 ≤ s.options.verticalLookahead)
    (hmatrix : 1 ≤ s.options.matrixLookahead) (hstep : s.step = .ok none) :
    (s.window.length : Int) ≤ max s.options.verticalLookahead s.options.matrixLookahead := by
  unfold step at hstep
  split at hstep
  · next hwindow =>
    rw [hwindow, List.length_nil]
    omega
  · next header rest hwindow =>
    rw [hwindow, List.length_cons]
    split at hstep
    · unfold seek at hstep
      split at hstep
      · next hwaits =>
        rw [Bool.and_eq_true, List.isEmpty_iff] at hwaits
        rw [hwaits.1, List.length_nil]
        omega
      · obtain ⟨matrix, -, hstep⟩ := bind_eq_ok_iff.mp hstep
        split at hstep
        · cases hstep
        · split at hstep <;> cases hstep
    · replace hstep := Except.ok.inj hstep
      unfold probeVertical at hstep
      split at hstep
      · cases hstep
      · split at hstep
        · split at hstep <;> cases hstep
        · next hrow =>
          have hbeyond := List.getElem?_eq_none_iff.mp hrow
          omega
    · replace hstep := Except.ok.inj hstep
      unfold probeMatrix at hstep
      split at hstep
      · cases hstep
      · split at hstep
        · split at hstep <;> cases hstep
        · next hrow =>
          have hbeyond := List.getElem?_eq_none_iff.mp hrow
          omega

end Scanner

namespace Registers

open Scanner

variable {options : ScanOptions} {given : List Row} {r : Registers}

theorem Reached.window_le_of_settled (hvertical : 1 ≤ options.verticalLookahead)
    (hmatrix : 1 ≤ options.matrixLookahead) (hreached : r.Reached options given)
    (hsettled : r.step = .ok none) :
    (r.window.length : Int) ≤ max options.verticalLookahead options.matrixLookahead := by
  have hoptions := hreached.options_eq
  obtain ⟨s, rfl, hfollows⟩ := exists_follows_of_visited hreached.visited
  rw [registers_options] at hoptions
  subst hoptions
  rw [registers_window, length_numberedRows]
  exact window_le_of_waiting hvertical hmatrix (hfollows.settled_iff.mp hsettled)

/-- A row is given only when no step is left, and no step lets the window grow. -/
theorem Reached.window_le (hvertical : 1 ≤ options.verticalLookahead)
    (hmatrix : 1 ≤ options.matrixLookahead) (hreached : r.Reached options given) :
    (r.window.length : Int) ≤ max options.verticalLookahead options.matrixLookahead + 1 ∧
      (r.finished = true →
        (r.window.length : Int) ≤ max options.verticalLookahead options.matrixLookahead) := by
  induction hreached with
  | start =>
      have hnone : (Registers.start options).window.length = 0 := rfl
      exact ⟨by omega, fun _ => by omega⟩
  | @feed given r row hreached hopen hsettled _ =>
      have hbefore := hreached.window_le_of_settled hvertical hmatrix hsettled
      have hheld : (r.hold row).window.length = r.window.length + 1 := List.length_append
      refine ⟨by omega, fun hfinished => ?_⟩
      rw [hold, hopen] at hfinished
      cases hfinished
  | step _ hstep ih =>
      have hframe := frame_of_step hstep
      have hshrinks := hframe.window_le
      refine ⟨by omega, fun hfinished => ?_⟩
      have hbefore := ih.2 (hframe.finished_eq ▸ hfinished)
      omega
  | finish hreached hsettled _ =>
      have hbefore := hreached.window_le_of_settled hvertical hmatrix hsettled
      exact ⟨hbefore.trans (by omega), fun _ => hbefore⟩

theorem Reached.sound (hvertical : 1 ≤ options.verticalLookahead)
    (hmatrix : 1 ≤ options.matrixLookahead) (hreached : r.Reached options given) :
    r.Sound options given := by
  have hseen := hreached.rowsSeen_eq
  have hbound := hreached.window_le hvertical hmatrix
  have hsettledBound := hreached.window_le_of_settled hvertical hmatrix
  obtain ⟨s, rfl, hfollows⟩ := exists_follows_of_visited hreached.visited
  have hagrees := hfollows.agrees
  refine ⟨hseen, Nat.le_add_right _ _, ?_, ?_, ?_, hbound.1, ?_, ?_⟩
  · have hwindow := hagrees.window
    rw [List.append_nil] at hwindow
    rw [registers_window, registers_cursor, hwindow]
  · intro hstate
    rw [registers_state] at hstate
    rw [registers_candidate?, registers_probe?, Scanner.probe?]
    cases hstage : s.stage with
    | seeking => exact ⟨rfl, rfl⟩
    | vertical cols headers counted taken => simp [hstage, ScanStage.state] at hstate
    | matrix headers endCol taken => simp [hstage, ScanStage.state] at hstate
  · intro hstate
    rw [registers_state] at hstate
    rw [registers_candidate?, registers_probe?, registers_state, registers_cursor]
    cases hstage : s.stage with
    | seeking => simp [hstage, ScanStage.state] at hstate
    | vertical cols headers counted taken =>
        have hprobe : s.probe? = some (s.cursor + taken + 1) := by rw [Scanner.probe?, hstage]
        exact ⟨_, _, rfl, hprobe, rfl, rfl, by omega, hagrees.probe _ hprobe⟩
    | matrix headers endCol taken =>
        have hprobe : s.probe? = some (s.cursor + taken + 1) := by rw [Scanner.probe?, hstage]
        exact ⟨_, _, rfl, hprobe, rfl, rfl, by omega, hagrees.probe _ hprobe⟩
  · rintro (hsettled | hfinished)
    · exact hsettledBound hsettled
    · exact hbound.2 hfinished
  · intro hfinished hsettled
    have hwindow := window_of_step_eq_none (hfollows.settled_iff.mp hsettled) hfinished
    refine ⟨?_, ?_, ?_⟩
    · rw [registers_state, hagrees.stage_of_window_nil hwindow]
      rfl
    · rw [registers_cursor, registers_rowsSeen, Scanner.rowsSeen, hwindow, List.length_nil,
        Nat.add_zero]
    · rw [registers_window, hwindow]
      rfl

end Registers

/-! ## Feeding and finishing reach such registers -/

namespace Scanner

variable {options : ScanOptions} {given : List Row} {s : Scanner}

theorem Follows.run_succeeds (hfollows : s.Follows given) (hrows : Coercible given) :
    s.run.2 = none := by
  cases hrun : s.run.2 with
  | none => rfl
  | some e =>
      have houtlook := hfollows.agrees.run_error hrun
      obtain ⟨tables, htables⟩ :=
        Table.exists_tablesFrom s.options hrows.normalizedRows s.cursor
      rw [outlook, htables] at houtlook
      cases houtlook

/-- A run that no error stops goes on by steps of the registers until none is left. -/
theorem Follows.run_reached (hfollows : s.Follows given)
    (hreached : s.registers.Reached options given) (hrun : s.run.2 = none) :
    s.run.1.Follows given ∧ s.run.1.registers.Reached options given ∧
      s.run.1.finished = s.finished ∧ s.run.1.registers.step = .ok none := by
  induction s using Scanner.run.induct with
  | case1 s e hstep =>
      rw [run_of_error hstep] at hrun
      cases hrun
  | case2 s hstep =>
      rw [run_of_none hstep]
      exact ⟨hfollows, hreached, rfl, hfollows.settled_iff.mpr hstep⟩
  | case3 s next hstep ih =>
      rw [run_of_some hstep] at hrun ⊢
      have hnext : s.registers.step = .ok (some next.registers) := by
        rw [hfollows.agrees.registers_step, hstep]
        rfl
      obtain ⟨hlast, hlastReached, hfinished, hsettled⟩ :=
        ih (hfollows.afterStep hstep) (hreached.step hnext) hrun
      exact ⟨hlast, hlastReached,
        hfinished.trans (hfollows.agrees.step hstep).finished_eq, hsettled⟩

/-- Rows that are fed without an error leave no step to take. -/
theorem Follows.feedRows_reached {rest : List Row} {last : Scanner} (hfollows : s.Follows given)
    (hreached : s.registers.Reached options given) (hopen : s.finished = false)
    (hsettled : s.registers.step = .ok none) (hfed : s.feedRows rest = .ok last) :
    last.Follows (given ++ rest) ∧ last.registers.Reached options (given ++ rest) ∧
      last.finished = false ∧ last.registers.step = .ok none := by
  induction rest generalizing given s with
  | nil =>
      cases hfed
      rw [List.append_nil]
      exact ⟨hfollows, hreached, hopen, hsettled⟩
  | cons row rest ih =>
      rw [feedRows, feed, if_neg (by simp [hopen])] at hfed
      cases hrun : { s with window := s.window ++ [row.map Cell.normalized] }.run.2 with
      | some e =>
          simp only [hrun] at hfed
          cases hfed
      | none =>
          simp only [hrun] at hfed
          have hheld := hreached.feed row hopen hsettled
          rw [← registers_hold] at hheld
          obtain ⟨hnext, hnextReached, hfinished, hnextSettled⟩ :=
            (hfollows.afterRow hopen row).run_reached hheld hrun
          rw [List.append_cons]
          exact ih hnext hnextReached (hfinished.trans hopen) hnextSettled hfed

theorem exists_feedRows_reached {rest : List Row} (hrows : Coercible (given ++ rest))
    (hfollows : s.Follows given) (hreached : s.registers.Reached options given)
    (hopen : s.finished = false) (hsettled : s.registers.step = .ok none) :
    ∃ last, s.feedRows rest = .ok last ∧ last.Follows (given ++ rest) ∧
      last.registers.Reached options (given ++ rest) ∧ last.finished = false ∧
      last.registers.step = .ok none := by
  have hagrees := hfollows rest fun hfinished => by simp [hopen] at hfinished
  have hscan := hagrees.feedRows_finish hopen
  obtain ⟨tables, htables⟩ := Table.exists_tablesFrom s.options hrows.normalizedRows s.cursor
  rw [outlook, htables] at hscan
  obtain ⟨last, hfed, -⟩ := bind_eq_ok_iff.mp hscan
  exact ⟨last, hfed, hfollows.feedRows_reached hreached hopen hsettled hfed⟩

end Scanner

/-- In all states that can be reached the registers fit together and the rows held are bounded;
they are the registers of a scanner, which takes the same steps.  Feeding rows and finishing reach
such states, and leave no step to take. -/
theorem Registers.sound_of_reached {options : ScanOptions}
    (hvertical : 1 ≤ options.verticalLookahead) (hmatrix : 1 ≤ options.matrixLookahead)
    {given : List Row} (hrows : Coercible given) :
    (∀ r : Registers, r.Reached options given →
        r.Sound options given ∧ ∃ s : Scanner, s.registers = r ∧
          r.step = s.step.map (Option.map Scanner.registers)) ∧
      ∃ s, (Scanner.start options).feedRows given = .ok s ∧
        (s.registers.Reached options given ∧ s.finished = false ∧
          s.registers.step = .ok none) ∧
        s.finish.1.registers.Reached options given ∧ s.finish.1.finished = true ∧
          s.finish.1.registers.step = .ok none := by
  constructor
  · intro r hreached
    have hsound := hreached.sound hvertical hmatrix
    obtain ⟨s, rfl, hfollows⟩ := Scanner.exists_follows_of_visited hreached.visited
    exact ⟨hsound, s, rfl, hfollows.agrees.registers_step⟩
  · have hwhole : Coercible ([] ++ given) := hrows
    obtain ⟨s, hfed, hfollows, hreached, hopen, hsettled⟩ :=
      Scanner.exists_feedRows_reached hwhole (Scanner.follows_start options) Reached.start rfl rfl
    refine ⟨s, hfed, ⟨hreached, hopen, hsettled⟩, ?_⟩
    have hend := hfollows.afterFinish
    have hrun := hend.run_succeeds hrows
    obtain ⟨-, hlastReached, hfinished, hlastSettled⟩ :=
      hend.run_reached (hreached.finish hsettled) hrun
    simp only [Scanner.finish, hrun]
    exact ⟨hlastReached, hfinished, hlastSettled⟩

/-- A list is held within the greater lookahead after its last row, and let go of at the end. -/
theorem Registers.sound_of_reached_short_list :
    let options : ScanOptions := ⟨2, 3, 1⟩
    let given : List Row := [[.text "name", .text "town"], [.text "Ann", .text "Bonn"]]
    Coercible given ∧ ∃ s, (Scanner.start options).feedRows given = .ok s ∧
      s.registers.Sound options given ∧ (s.registers.window.length : Int) ≤ 3 ∧
      s.finish.1.registers.Sound options given ∧ s.finish.1.registers.state = .seeking ∧
      s.finish.1.registers.cursor = 2 ∧ s.finish.1.registers.window = [] := by
  intro options given
  have hrows : Coercible given := by
    simp [Coercible, CoercibleRow, given, Cell.number]
  have hvertical : 1 ≤ options.verticalLookahead := by decide
  have hmatrix : 1 ≤ options.matrixLookahead := by decide
  obtain ⟨hsound, s, hfed, ⟨hreached, -, hsettled⟩, hend, hfinished, hendSettled⟩ :=
    sound_of_reached hvertical hmatrix hrows
  have hlast := (hsound _ hend).1
  obtain ⟨hseeking, hcursor, hwindow⟩ := hlast.atEnd hfinished hendSettled
  exact ⟨hrows, s, hfed, (hsound _ hreached).1,
    (hsound _ hreached).1.window_le_between (.inl hsettled), hlast, hseeking,
    hcursor.trans hlast.rowsSeen, hwindow⟩

end SheetAudit
