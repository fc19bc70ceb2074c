import Mathlib.Tactic
import SheetAudit.Proofs.BlankSeparator
import SheetAudit.Proofs.ScannerRefinement
import SheetAudit.Proofs.WindowBound

/-!
# Tables once found are final

A table is reported in the answer to the row that closes it, and is never reported again or taken
back.  When it is reported the cursor lies below it, and all that is found later is found in the
rows from the cursor on: these rows could be scanned as a sheet of their own.
-/

namespace SheetAudit

open Outcome

/-! ## What is found step by step -/

namespace Scanner

/-- A scanner goes on to another one and finds tables on the way, all of them above its new
cursor. -/
structure Finds (s next : Scanner) (found : List Table) : Prop where
  tables_eq : next.tables = s.tables ++ found
  cursor_le : s.cursor ≤ next.cursor
  above : ∀ table ∈ found, table.endRow < next.cursor

variable {s next last : Scanner} {header : Row} {rest : List Row} {found more : List Table}

theorem finds_nothing (htables : next.tables = s.tables) (hcursor : s.cursor ≤ next.cursor) :
    s.Finds next [] := by
  refine ⟨by rw [htables, List.append_nil], hcursor, ?_⟩
  intro table htable
  cases htable

theorem Finds.trans (hfirst : s.Finds next found) (hrest : next.Finds last more) :
    s.Finds last (found ++ more) := by
  refine ⟨?_, hfirst.cursor_le.trans hrest.cursor_le, ?_⟩
  · rw [hrest.tables_eq, hfirst.tables_eq, List.append_assoc]
  · intro table htable
    rcases List.mem_append.mp htable with hfound | hmore
    · exact (hfirst.above table hfound).trans_le hrest.cursor_le
    · exact hrest.above table hmore

theorem finds_moveOn (s : Scanner) (count : Nat) : s.Finds (s.moveOn count) [] :=
  finds_nothing rfl (Nat.le_add_right _ _)

theorem finds_closing (s : Scanner) {table : Table} {taken : Nat}
    (hend : table.endRow = s.cursor + taken) :
    s.Finds ({ s with tables := s.tables ++ [table] }.moveOn (taken + 1)) [table] := by
  refine ⟨rfl, Nat.le_add_right _ _, ?_⟩
  intro other hother
  rw [List.mem_singleton.mp hother, hend]
  exact Nat.lt_succ_self _

theorem exists_finds_closeVertical (s : Scanner) (cols : List Nat) (headers : List String)
    (dataRows taken : Nat) :
    ∃ found, s.Finds (s.closeVertical cols headers dataRows taken) found := by
  unfold closeVertical
  split
  · exact ⟨_, s.finds_closing rfl⟩
  · exact ⟨_, s.finds_moveOn 1⟩

theorem exists_finds_closeMatrix (s : Scanner) (headers : List String) (endCol taken : Nat) :
    ∃ found, s.Finds (s.closeMatrix headers endCol taken) found :=
  ⟨_, s.finds_closing rfl⟩

theorem exists_finds_seek (hseek : s.seek header rest = .ok (some next)) :
    ∃ found, s.Finds next found := by
  unfold seek at hseek
  split at hseek
  · cases hseek
  · obtain ⟨matrix, -, hseek⟩ := bind_eq_ok_iff.mp hseek
    split at hseek
    · cases hseek
      exact ⟨[], finds_nothing rfl (le_refl s.cursor)⟩
    · split at hseek
      · cases hseek
        exact ⟨[], finds_nothing rfl (le_refl s.cursor)⟩
      · cases hseek
        exact ⟨_, s.finds_moveOn 1⟩

theorem exists_finds_probeVertical {cols : List Nat} {headers : List String}
    {dataRows taken : Nat} (hprobe : s.probeVertical rest cols headers dataRows taken = some next) :
    ∃ found, s.Finds next found := by
  unfold probeVertical at hprobe
  split at hprobe
  · cases hprobe
    exact s.exists_finds_closeVertical cols headers dataRows taken
  · split at hprobe
    · split at hprobe
      · cases hprobe
        exact s.exists_finds_closeVertical cols headers dataRows taken
      · cases hprobe
        exact ⟨[], finds_nothing rfl (le_refl s.cursor)⟩
    · split at hprobe
      · cases hprobe
        exact s.exists_finds_closeVertical cols headers dataRows taken
      · cases hprobe

theorem exists_finds_probeMatrix {headers : List String} {endCol taken : Nat}
    (hprobe : s.probeMatrix rest headers endCol taken = some next) :
    ∃ found, s.Finds next found := by
  unfold probeMatrix at hprobe
  split at hprobe
  · cases hprobe
    exact s.exists_finds_closeMatrix headers endCol taken
  · split at hprobe
    · split at hprobe
      · cases hprobe
        exact ⟨[], finds_nothing rfl (le_refl s.cursor)⟩
      · cases hprobe
        exact s.exists_finds_closeMatrix headers endCol taken
    · split at hprobe
      · cases hprobe
        exact s.exists_finds_closeMatrix headers endCol taken
      · cases hprobe

theorem exists_finds_step (hstep : s.step = .ok (some next)) : ∃ found, s.Finds next found := by
  unfold step at hstep
  split at hstep
  · cases hstep
  · split at hstep
    · exact exists_finds_seek hstep
    · exact exists_finds_probeVertical (Except.ok.inj hstep)
    · exact exists_finds_probeMatrix (Except.ok.inj hstep)

theorem exists_finds_run (s : Scanner) : ∃ found, s.Finds s.run.1 found := by
  induction s using Scanner.run.induct with
  | case1 s e hstep =>
      rw [run_of_error hstep]
      exact ⟨[], finds_nothing rfl (le_refl s.cursor)⟩
  | case2 s hstep =>
      rw [run_of_none hstep]
      exact ⟨[], finds_nothing rfl (le_refl s.cursor)⟩
  | case3 s next hstep ih =>
      obtain ⟨found, hfirst⟩ := exists_finds_step hstep
      obtain ⟨more, hrest⟩ := ih
      rw [run_of_some hstep]
      exact ⟨found ++ more, hfirst.trans hrest⟩

/-! ## Answers -/

/-- Give a scanner some rows and keep its answers. -/
def feedEach (s : Scanner) : List Row → Except ScanError (Scanner × List (List Table))
  | [] => pure (s, [])
  | row :: rows =>
    let (next, answer) := s.feed row
    match answer with
    | .error e => throw e
    | .ok closed => do
      let (last, answers) ← next.feedEach rows
      pure (last, closed :: answers)

variable {row : Row} {rows : List Row} {answers : List (List Table)} {closed : List Table}

theorem feedRows_eq_feedEach (s : Scanner) (rows : List Row) :
    s.feedRows rows = (s.feedEach rows).map Prod.fst := by
  induction rows generalizing s with
  | nil => rfl
  | cons row rows ih =>
      rw [feedRows, feedEach]
      rcases s.feed row with ⟨next, error | closed⟩
      · rfl
      · simp only [ih]
        cases next.feedEach rows with
        | error e => rfl
        | ok fed => rfl

theorem exists_feedEach_of_feedRows (hfed : s.feedRows rows = .ok last) :
    ∃ answers, s.feedEach rows = .ok (last, answers) := by
  rw [feedRows_eq_feedEach] at hfed
  cases heach : s.feedEach rows with
  | error e =>
      rw [heach] at hfed
      cases hfed
  | ok fed =>
      rw [heach] at hfed
      cases hfed
      exact ⟨fed.2, rfl⟩

/-- The answer to a row holds the tables that are found, and no others. -/
theorem finds_feed (hfed : s.feed row = (next, .ok closed)) : s.Finds next closed := by
  unfold feed at hfed
  split at hfed
  · cases hfed
  · obtain ⟨found, hfinds⟩ :=
      exists_finds_run { s with window := s.window ++ [row.map Cell.normalized] }
    cases hrun : { s with window := s.window ++ [row.map Cell.normalized] }.run.2 with
    | some e =>
        simp only [hrun] at hfed
        cases hfed
    | none =>
        simp only [hrun, hfinds.tables_eq, List.drop_left] at hfed
        cases hfed
        exact ⟨hfinds.tables_eq, hfinds.cursor_le, hfinds.above⟩

theorem finds_feedEach (hfed : s.feedEach rows = .ok (last, answers)) :
    s.Finds last answers.flatten := by
  induction rows generalizing s answers with
  | nil =>
      cases hfed
      exact finds_nothing rfl (le_refl _)
  | cons row rows ih =>
      rw [feedEach] at hfed
      cases hanswer : (s.feed row).2 with
      | error e =>
          simp only [hanswer] at hfed
          cases hfed
      | ok closed =>
          simp only [hanswer] at hfed
          obtain ⟨⟨other, more⟩, hrest, hlast⟩ := bind_eq_ok_iff.mp hfed
          cases hlast
          have hfirst : s.feed row = ((s.feed row).1, .ok closed) := by rw [← hanswer]
          exact (finds_feed hfirst).trans (ih hrest)

/-! ## Rows that come later -/

variable {options : ScanOptions} {xs : List Row}

theorem feedRows_append (s : Scanner) (above below : List Row) :
    s.feedRows (above ++ below) = s.feedRows above >>= fun next => next.feedRows below := by
  induction above generalizing s with
  | nil => rfl
  | cons row above ih =>
      rw [List.cons_append, feedRows, feedRows]
      rcases s.feed row with ⟨next, error | closed⟩
      · rfl
      · exact ih next

/-- A scan goes on from a scanner as if the rows from its cursor on were a sheet of their own. -/
theorem scanTables_of_feedRows (ys : List Row) (hfed : (start options).feedRows xs = .ok s) :
    scanTables options (xs ++ ys) =
      (scanTables options (xs.drop s.cursor ++ ys)).map fun later =>
        s.tables ++ later.map (Table.shiftDown s.cursor) := by
  have hfollowed := (follows_start options).feedRows_reached Registers.Reached.start rfl rfl hfed
  rw [List.nil_append] at hfollowed
  obtain ⟨hfollows, hreached, hopen, -⟩ := hfollowed
  have hoptions : s.options = options := hreached.options_eq
  have hcursor : s.cursor ≤ xs.length := by
    have hseen : s.cursor + s.window.length = xs.length := hreached.rowsSeen_eq
    omega
  have hlength : (normalizedRows (xs ++ ys)).length = xs.length + ys.length := by
    rw [normalizedRows, List.length_map, List.length_append]
  have hdrop : normalizedRows (xs.drop s.cursor ++ ys) =
      (normalizedRows (xs ++ ys)).drop s.cursor := by
    rw [normalizedRows, normalizedRows, ← List.map_drop, List.drop_append_of_le_length hcursor]
  have hagrees := hfollows ys fun hfinished => by simp [hopen] at hfinished
  rw [scanTables, feedRows_append, hfed, ok_bind, hagrees.feedRows_finish hopen, outlook, hoptions,
    scanTables_eq_tablesFrom, hdrop, tablesFrom_drop options (by omega)]
  cases Table.tablesFrom options ((normalizedRows (xs ++ ys)).drop s.cursor) 0 with
  | error e => rfl
  | ok tables => rfl

/-! ## After the end -/

theorem feed_of_finished (hfinished : s.finished = true) (row : Row) :
    s.feed row = (s, .error .finished) := by
  rw [feed, if_pos hfinished]

theorem finish_of_settled (hfinished : s.finished = true) (hsettled : s.step = .ok none) :
    s.finish = (s, .ok s.tables) := by
  have hself : { s with finished := true } = s := by rw [← hfinished]
  rw [finish, hself, run_of_none hsettled]

theorem Follows.finish_settled {given : List Row} (hfollows : s.Follows given)
    (hrows : Coercible given) :
    s.finish.2 = .ok s.finish.1.tables ∧ s.finish.1.finished = true ∧
      s.finish.1.step = .ok none := by
  have hrun := hfollows.afterFinish.run_succeeds hrows
  obtain ⟨hgoes, hsettled⟩ := hfollows.afterFinish.agrees.run hrun
  simp only [finish, hrun]
  exact ⟨trivial, hgoes.finished_eq, hsettled⟩

end Scanner

/-- The tables found in some rows are those that were answered row by row.  They are the first
tables of every sheet that starts with these rows; the others start at the cursor or below it, and
other rows above the cursor leave them as they are.  Once it has finished the scanner never changes
again. -/
theorem scanTables_extends (options : ScanOptions) {xs ys : List Row} (hxs : Coercible xs)
    (hys : Coercible ys) :
    ∃ s answers later,
      (Scanner.start options).feedEach xs = .ok (s, answers) ∧ s.tables = answers.flatten ∧
      scanTables options (xs ++ ys) = .ok (s.tables ++ later) ∧
      (∀ table ∈ later, s.cursor ≤ table.startRow ∧
        ∀ found ∈ s.tables, found.endRow < table.startRow) ∧
      (∀ xs' s', (Scanner.start options).feedRows xs' = .ok s' → s'.cursor = s.cursor →
        xs'.drop s.cursor = xs.drop s.cursor →
        scanTables options (xs' ++ ys) = .ok (s'.tables ++ later)) ∧
      ∃ tables, s.finish.2 = .ok tables ∧ s.finish.1.finish = (s.finish.1, .ok tables) ∧
        ∀ row, s.finish.1.feed row = (s.finish.1, .error .finished) := by
  have hwhole : Coercible ([] ++ xs) := hxs
  obtain ⟨s, hfed, hfollows, -⟩ := Scanner.exists_feedRows_reached hwhole
    (Scanner.follows_start options) Registers.Reached.start rfl rfl
  obtain ⟨answers, hanswers⟩ := Scanner.exists_feedEach_of_feedRows hfed
  have hfinds := Scanner.finds_feedEach hanswers
  have htables : s.tables = answers.flatten := hfinds.tables_eq.trans (List.nil_append _)
  have hrest : Coercible (xs.drop s.cursor ++ ys) := by
    intro row hrow
    rcases List.mem_append.mp hrow with hheld | hcoming
    · exact hxs row (List.mem_of_mem_drop hheld)
    · exact hys row hcoming
  obtain ⟨alone, halone⟩ := exists_scanTables options hrest
  refine ⟨s, answers, alone.map (Table.shiftDown s.cursor), hanswers, htables, ?_, ?_, ?_, ?_⟩
  · rw [Scanner.scanTables_of_feedRows ys hfed, halone]
    rfl
  · intro table htable
    obtain ⟨original, -, rfl⟩ := List.mem_map.mp htable
    have hstart : s.cursor ≤ (Table.shiftDown s.cursor original).startRow := Nat.le_add_left _ _
    refine ⟨hstart, ?_⟩
    intro found hfound
    rw [htables] at hfound
    exact (hfinds.above found hfound).trans_le hstart
  · intro xs' s' hfed' hcursor hdrop
    rw [Scanner.scanTables_of_feedRows ys hfed', hcursor, hdrop, halone]
    rfl
  · obtain ⟨hlist, hfinished, hsettled⟩ := hfollows.finish_settled hxs
    exact ⟨_, hlist, Scanner.finish_of_settled hfinished hsettled,
      Scanner.feed_of_finished hfinished⟩

/-- A list that a blank row closes keeps its place before the list that follows. -/
theorem scanTables_extends_townList :
    Coercible (townList ++ [[]]) ∧ Coercible townList ∧
      ∃ s answers later,
        (Scanner.start ⟨50, 100, 1⟩).feedEach (townList ++ [[]]) = .ok (s, answers) ∧
        answers.flatten ++ later = [⟨0, 1, 0, 1, ["name", "town"], .vertical⟩,
          ⟨3, 4, 0, 1, ["name", "town"], .vertical⟩] ∧
        ∀ table ∈ later, s.cursor ≤ table.startRow := by
  have hxs : Coercible (townList ++ [[]]) := by
    simp [Coercible, CoercibleRow, townList, Cell.number]
  have hys : Coercible townList := by
    simp [Coercible, CoercibleRow, townList, Cell.number]
  have hfound : scanTables ⟨50, 100, 1⟩ ((townList ++ [[]]) ++ townList) =
      .ok [⟨0, 1, 0, 1, ["name", "town"], .vertical⟩,
        ⟨3, 4, 0, 1, ["name", "town"], .vertical⟩] := by
    rw [scanTables_eq_tablesFrom]
    decide +kernel
  obtain ⟨s, answers, later, hanswers, htables, hscan, hlater, -⟩ :=
    scanTables_extends ⟨50, 100, 1⟩ hxs hys
  rw [hscan, htables] at hfound
  exact ⟨hxs, hys, s, answers, later, hanswers, Except.ok.inj hfound,
    fun table htable => (hlater table htable).1⟩

end SheetAudit
