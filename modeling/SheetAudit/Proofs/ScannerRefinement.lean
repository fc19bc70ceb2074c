import Mathlib.Tactic
import SheetAudit.Proofs.CoercibleRows
import SheetAudit.Proofs.Outcome
import SheetAudit.Proofs.RandomAccess
import SheetAudit.Table.Scanner

/-!
# The scanner finds the tables of the sheet

A scanner sees its rows one by one and drops those above its cursor.  The tables it has found, and
those that random access finds from its cursor on, are together the tables of the sheet: this
outlook is what no step changes.  The rows still to come stand in the invariant, although no step
can look at them.
-/

namespace SheetAudit

open Table Outcome

variable {rows later : List Row}

/-- A vertical candidate has its header's columns and headers, and has counted the rows it has
taken. -/
structure VerticalCandidate (options : ScanOptions) (rows : List Row) (start : Nat)
    (cols : List Nat) (headers : List String) (counted taken : Nat) : Prop where
  notMatrix : startsMatrix (rowAt rows start) (rowAt rows (start + 1)) = .ok false
  header : isVerticalHeader (rowAt rows start) = true
  cols_eq : cols = textColumns (rowAt rows start)
  headers_eq : headers = textHeaders (rowAt rows start)
  counted_eq : counted = dataRows rows start (start + taken)
  reaches : Reaches (fun row => !isBlankRow row) (verticalLimit options start) rows start
    (start + taken)

/-- A matrix has its header's headers, and is as wide as the rows it has taken. -/
structure MatrixCandidate (options : ScanOptions) (rows : List Row) (start : Nat)
    (headers : List String) (endCol taken : Nat) : Prop where
  pos : 0 < taken
  starts : startsMatrix (rowAt rows start) (rowAt rows (start + 1)) = .ok true
  headers_eq : headers = matrixHeaders (rowAt rows start)
  endCol_eq : endCol = lastShown rows start (start + taken)
  reaches : Reaches isLabelRow (matrixLimit options start) rows start (start + taken)

def ScanStage.Fits (options : ScanOptions) (rows : List Row) (start : Nat) : ScanStage → Prop
  | .seeking => True
  | .vertical cols headers counted taken =>
    VerticalCandidate options rows start cols headers counted taken
  | .matrix headers endCol taken => MatrixCandidate options rows start headers endCol taken

namespace Scanner

/-- A scanner agrees with a sheet of which some rows are still to come. -/
structure Agrees (rows later : List Row) (s : Scanner) : Prop where
  window : rows.drop s.cursor = s.window ++ later
  finished : s.finished = true → later = []
  stage : s.stage.Fits s.options rows s.cursor
  probe : ∀ row, s.probe? = some row → row ≤ s.rowsSeen

/-- The tables found, and those that are to be found from the cursor on. -/
def outlook (rows : List Row) (s : Scanner) : Except CellError (List Table) :=
  (tablesFrom s.options rows s.cursor).map fun tables => s.tables ++ tables

/-- A scanner goes on to another one that agrees with the sheet and has the same outlook. -/
structure GoesOnTo (rows later : List Row) (s next : Scanner) : Prop where
  agrees : next.Agrees rows later
  outlook_eq : next.outlook rows = s.outlook rows
  finished_eq : next.finished = s.finished

theorem Agrees.goesOnTo_self {s : Scanner} (hagrees : s.Agrees rows later) :
    s.GoesOnTo rows later s :=
  ⟨hagrees, rfl, rfl⟩

theorem GoesOnTo.trans {s next last : Scanner} (hfirst : s.GoesOnTo rows later next)
    (hrest : next.GoesOnTo rows later last) : s.GoesOnTo rows later last :=
  ⟨hrest.agrees, hrest.outlook_eq.trans hfirst.outlook_eq,
    hrest.finished_eq.trans hfirst.finished_eq⟩

/-! ## Rows of the window -/

variable {s next : Scanner} {header : Row} {rest : List Row} {e : CellError}

theorem Agrees.drop_cursor (hagrees : s.Agrees rows later) (hwindow : s.window = header :: rest) :
    rows.drop s.cursor = header :: (rest ++ later) := by
  rw [hagrees.window, hwindow]
  rfl

theorem Agrees.cursor_lt (hagrees : s.Agrees rows later) (hwindow : s.window = header :: rest) :
    s.cursor < rows.length := by
  by_contra hbelow
  have hdrop := hagrees.drop_cursor hwindow
  rw [List.drop_eq_nil_of_le (Nat.not_lt.mp hbelow)] at hdrop
  cases hdrop

theorem Agrees.rowAt_cursor (hagrees : s.Agrees rows later) (hwindow : s.window = header :: rest) :
    rowAt rows s.cursor = header :=
  (rowAt_of_drop (hagrees.drop_cursor hwindow)).1

/-- A row of the window is the row of the sheet.  Once there are no more rows, a row that is not
in the window is empty. -/
theorem Agrees.rowAt_below (hagrees : s.Agrees rows later) (hwindow : s.window = header :: rest)
    (taken : Nat) (hknown : taken < rest.length ∨ s.finished = true) :
    rowAt rows (s.cursor + taken + 1) = rest[taken]?.getD [] := by
  have hrow := (rowAt_of_drop (hagrees.drop_cursor hwindow)).2 taken
  rw [show s.cursor + taken + 1 = s.cursor + 1 + taken by omega, hrow]
  rcases hknown with hheld | hfinished
  · rw [List.getElem?_append_left hheld]
  · rw [hagrees.finished hfinished, List.append_nil]

theorem Agrees.rowAt_probe (hagrees : s.Agrees rows later) (hwindow : s.window = header :: rest)
    {taken : Nat} {row : Row} (hrow : rest[taken]? = some row) :
    taken < rest.length ∧ rowAt rows (s.cursor + taken + 1) = row := by
  have hheld : taken < rest.length := (List.getElem?_eq_some_iff.mp hrow).1
  refine ⟨hheld, ?_⟩
  rw [hagrees.rowAt_below hwindow taken (.inl hheld), hrow]
  rfl

theorem Agrees.rowAt_probe_end (hagrees : s.Agrees rows later)
    (hwindow : s.window = header :: rest) (hfinished : s.finished = true) {taken : Nat}
    (hrow : rest[taken]? = none) : rowAt rows (s.cursor + taken + 1) = [] := by
  rw [hagrees.rowAt_below hwindow taken (.inr hfinished), hrow]
  rfl

theorem Agrees.taken_lt (hagrees : s.Agrees rows later) {taken : Nat}
    (hprobe : s.probe? = some (s.cursor + taken + 1)) : taken < s.window.length := by
  have hseen := hagrees.probe _ hprobe
  rw [rowsSeen] at hseen
  omega

/-! ## Closing a candidate -/

theorem Agrees.moveOn (hagrees : s.Agrees rows later) (tables : List Table) {count : Nat}
    (hcount : count ≤ s.window.length) :
    ({ s with tables := tables }.moveOn count).Agrees rows later := by
  constructor
  · simp only [Scanner.moveOn]
    rw [← List.drop_drop, hagrees.window, List.drop_append_of_le_length hcount]
  · exact hagrees.finished
  · trivial
  · intro row hrow
    cases hrow

theorem Agrees.passOver (hagrees : s.Agrees rows later) (hwindow : s.window = header :: rest)
    (htable : tableAt? s.options rows s.cursor = .ok none) :
    s.GoesOnTo rows later (s.moveOn 1) := by
  constructor
  · apply hagrees.moveOn s.tables
    rw [hwindow, List.length_cons]
    omega
  · rw [outlook, outlook, tablesFrom_of_none (hagrees.cursor_lt hwindow) htable]
    rfl
  · rfl

theorem Agrees.closeTable (hagrees : s.Agrees rows later) (hwindow : s.window = header :: rest)
    {table : Table} {taken : Nat} (htaken : taken < s.window.length)
    (htable : tableAt? s.options rows s.cursor = .ok (some table))
    (hend : table.endRow = s.cursor + taken) :
    s.GoesOnTo rows later ({ s with tables := s.tables ++ [table] }.moveOn (taken + 1)) := by
  constructor
  · exact hagrees.moveOn _ htaken
  · rw [outlook, outlook, tablesFrom_of_some (hagrees.cursor_lt hwindow) htable, hend]
    simp only [Scanner.moveOn, Nat.add_assoc]
    cases tablesFrom s.options rows (s.cursor + (taken + 1)) with
    | error e => rfl
    | ok tables =>
        simp only [Except.map, List.append_assoc, List.singleton_append]
  · rfl

theorem Agrees.closeVertical {cols : List Nat} {headers : List String} {counted taken : Nat}
    (hagrees : s.Agrees rows later) (hwindow : s.window = header :: rest)
    (hstage : s.stage = .vertical cols headers counted taken)
    (hstop : ¬ Reaches (fun row => !isBlankRow row) (verticalLimit s.options s.cursor) rows
      s.cursor (s.cursor + taken + 1)) :
    s.GoesOnTo rows later (s.closeVertical cols headers counted taken) := by
  have hcandidate : s.stage.Fits s.options rows s.cursor := hagrees.stage
  rw [hstage] at hcandidate
  obtain ⟨hnot, hheader, hcols, hheaders, hcounted, hreaches⟩ := hcandidate
  have hend : verticalEnd s.options rows s.cursor = s.cursor + taken :=
    lastReached_eq rfl (hagrees.cursor_lt hwindow) (by omega) hreaches hstop
  have htable := tableAt?_of_not_matrix s.options hnot
  rw [hend, ← hcounted] at htable
  rw [Scanner.closeVertical]
  split
  · next henough =>
    rw [if_pos ⟨hheader, henough⟩] at htable
    have hfound : verticalAt s.options rows s.cursor = s.verticalTable cols headers taken := by
      rw [verticalAt, verticalTable, hend, hcols, hheaders, head?_textColumns, getLast?_textColumns]
    rw [hfound] at htable
    have htaken : taken < s.window.length := hagrees.taken_lt (by rw [probe?, hstage])
    exact hagrees.closeTable hwindow htaken htable rfl
  · next hfew =>
    rw [if_neg fun hboth => hfew hboth.2] at htable
    exact hagrees.passOver hwindow htable

theorem Agrees.closeMatrix {headers : List String} {endCol taken : Nat}
    (hagrees : s.Agrees rows later) (hwindow : s.window = header :: rest)
    (hstage : s.stage = .matrix headers endCol taken)
    (hstop : ¬ Reaches isLabelRow (matrixLimit s.options s.cursor) rows s.cursor
      (s.cursor + taken + 1)) :
    s.GoesOnTo rows later (s.closeMatrix headers endCol taken) := by
  have hcandidate : s.stage.Fits s.options rows s.cursor := hagrees.stage
  rw [hstage] at hcandidate
  obtain ⟨-, hstarts, hheaders, hcol, hreaches⟩ := hcandidate
  have hend : matrixEnd s.options rows s.cursor = s.cursor + taken :=
    lastReached_eq rfl (hagrees.cursor_lt hwindow) (by omega) hreaches hstop
  have htable := tableAt?_of_matrix s.options hstarts
  have hfound : matrixAt s.options rows s.cursor = s.matrixTable headers endCol taken := by
    rw [matrixAt, matrixTable, hend, hheaders, hcol]
  rw [hfound] at htable
  have htaken : taken < s.window.length := hagrees.taken_lt (by rw [probe?, hstage])
  exact hagrees.closeTable hwindow htaken htable rfl

/-! ## Steps -/

/-- A scanner that changes its stage and nothing else goes on, if the new stage fits and has taken
rows of the window. -/
theorem Agrees.withStage (hagrees : s.Agrees rows later) (hwindow : s.window = header :: rest)
    {stage : ScanStage} {taken : Nat} (htaken : taken ≤ rest.length)
    (hprobe : { s with stage := stage }.probe? = some (s.cursor + taken + 1))
    (hfits : stage.Fits s.options rows s.cursor) :
    s.GoesOnTo rows later { s with stage := stage } := by
  refine ⟨⟨hagrees.window, hagrees.finished, hfits, ?_⟩, rfl, rfl⟩
  intro row hrow
  rw [hprobe] at hrow
  cases hrow
  simp only [rowsSeen, hwindow, List.length_cons]
  omega

theorem Agrees.probeVertical {cols : List Nat} {headers : List String} {counted taken : Nat}
    (hagrees : s.Agrees rows later) (hwindow : s.window = header :: rest)
    (hstage : s.stage = .vertical cols headers counted taken)
    (hprobe : s.probeVertical rest cols headers counted taken = some next) :
    s.GoesOnTo rows later next := by
  unfold Scanner.probeVertical at hprobe
  split at hprobe
  · next hbeyond =>
    cases hprobe
    apply hagrees.closeVertical hwindow hstage
    rw [reaches_succ_iff (by omega), verticalLimit]
    omega
  · next hwithin =>
    split at hprobe
    · next row hrow =>
      obtain ⟨hheld, hbelow⟩ := hagrees.rowAt_probe hwindow hrow
      split at hprobe
      · next hblank =>
        cases hprobe
        apply hagrees.closeVertical hwindow hstage
        rw [reaches_succ_iff (by omega), hbelow, hblank]
        simp
      · next hshown =>
        cases hprobe
        have hcandidate : s.stage.Fits s.options rows s.cursor := hagrees.stage
        rw [hstage] at hcandidate
        apply hagrees.withStage hwindow hheld rfl
        refine ⟨hcandidate.notMatrix, hcandidate.header, hcandidate.cols_eq,
          hcandidate.headers_eq, ?_, ?_⟩
        · rw [← Nat.add_assoc, dataRows_succ (by omega), hbelow, hcandidate.cols_eq,
            fillsOneOf_textColumns, hagrees.rowAt_cursor hwindow, hcandidate.counted_eq]
        · rw [← Nat.add_assoc, reaches_succ_iff (by omega), hbelow, verticalLimit]
          refine ⟨hcandidate.reaches, by omega, ?_⟩
          simpa using hshown
    · next hrow =>
      split at hprobe
      · next hfinished =>
        cases hprobe
        apply hagrees.closeVertical hwindow hstage
        rw [reaches_succ_iff (by omega), hagrees.rowAt_probe_end hwindow hfinished hrow]
        simp [isBlankRow]
      · cases hprobe

theorem Agrees.probeMatrix {headers : List String} {endCol taken : Nat}
    (hagrees : s.Agrees rows later) (hwindow : s.window = header :: rest)
    (hstage : s.stage = .matrix headers endCol taken)
    (hprobe : s.probeMatrix rest headers endCol taken = some next) :
    s.GoesOnTo rows later next := by
  have hcandidate : s.stage.Fits s.options rows s.cursor := hagrees.stage
  rw [hstage] at hcandidate
  -- the row below the header was taken at once, so the lookahead cannot cut it off
  have hpos : 0 < taken := hcandidate.pos
  unfold Scanner.probeMatrix at hprobe
  split at hprobe
  · next hbeyond =>
    cases hprobe
    apply hagrees.closeMatrix hwindow hstage
    rw [reaches_succ_iff (by omega), matrixLimit]
    omega
  · next hwithin =>
    split at hprobe
    · next row hrow =>
      obtain ⟨hheld, hbelow⟩ := hagrees.rowAt_probe hwindow hrow
      split at hprobe
      · next hlabel =>
        cases hprobe
        apply hagrees.withStage hwindow hheld rfl
        refine ⟨by omega, hcandidate.starts, hcandidate.headers_eq, ?_, ?_⟩
        · rw [← Nat.add_assoc, lastShown_succ (by omega), hbelow, hcandidate.endCol_eq,
            lastFilled?_getD]
        · rw [← Nat.add_assoc, reaches_succ_iff (by omega), hbelow, matrixLimit]
          exact ⟨hcandidate.reaches, by omega, hlabel⟩
      · next hlabel =>
        cases hprobe
        apply hagrees.closeMatrix hwindow hstage
        rw [reaches_succ_iff (by omega), hbelow]
        simp [hlabel]
    · next hrow =>
      split at hprobe
      · next hfinished =>
        cases hprobe
        apply hagrees.closeMatrix hwindow hstage
        rw [reaches_succ_iff (by omega), hagrees.rowAt_probe_end hwindow hfinished hrow]
        simp [isLabelRow]
      · cases hprobe

/-- The row below the cursor is the row of the sheet when a scanner does not wait for it. -/
theorem Agrees.rowAt_next (hagrees : s.Agrees rows later) (hwindow : s.window = header :: rest)
    (hknown : ¬ (rest.isEmpty && !s.finished) = true) :
    rowAt rows (s.cursor + 1) = rest.head?.getD [] := by
  rw [hagrees.rowAt_below hwindow 0, List.head?_eq_getElem?]
  cases rest with
  | nil =>
      right
      simpa using hknown
  | cons below rest =>
      left
      exact Nat.succ_pos rest.length

theorem Agrees.seek (hagrees : s.Agrees rows later) (hwindow : s.window = header :: rest)
    (hseek : s.seek header rest = .ok (some next)) : s.GoesOnTo rows later next := by
  have hheader := hagrees.rowAt_cursor hwindow
  unfold Scanner.seek at hseek
  split at hseek
  · cases hseek
  · next hknown =>
    have hbelow := hagrees.rowAt_next hwindow hknown
    obtain ⟨isMatrix, hstarts, hseek⟩ := bind_eq_ok_iff.mp hseek
    rw [← hheader, ← hbelow] at hstarts
    cases isMatrix with
    | true =>
        cases hseek
        have hlabel : isLabelRow (rowAt rows (s.cursor + 1)) = true := label_of_startsMatrix hstarts
        have hrest : 0 < rest.length := by
          rw [List.length_pos_iff]
          rintro rfl
          rw [hbelow] at hlabel
          cases hlabel
        apply hagrees.withStage hwindow hrest rfl
        refine ⟨Nat.one_pos, hstarts, by rw [hheader], ?_, ?_⟩
        · rw [lastShown_succ (le_refl _), lastShown_self, hheader, hbelow, lastColumn,
            lastFilled?_getD, lastFilled?_getD]
        · rw [reaches_succ_iff (le_refl _), matrixLimit]
          exact ⟨reaches_self, by omega, hlabel⟩
    | false =>
        rw [if_neg Bool.false_ne_true] at hseek
        split at hseek
        · next hvertical =>
          cases hseek
          apply hagrees.withStage hwindow (Nat.zero_le _) rfl
          exact ⟨hstarts, by rw [hheader, hvertical], by rw [hheader], by rw [hheader],
            dataRows_self.symm, reaches_self⟩
        · next hvertical =>
          cases hseek
          apply hagrees.passOver hwindow
          rw [tableAt?_of_not_matrix s.options hstarts, hheader, if_neg]
          intro hboth
          exact hvertical hboth.1

theorem Agrees.step (hagrees : s.Agrees rows later) (hstep : s.step = .ok (some next)) :
    s.GoesOnTo rows later next := by
  unfold Scanner.step at hstep
  split at hstep
  · cases hstep
  · next header rest hwindow =>
    split at hstep
    · exact hagrees.seek hwindow hstep
    · next hstage => exact hagrees.probeVertical hwindow hstage (Except.ok.inj hstep)
    · next hstage => exact hagrees.probeMatrix hwindow hstage (Except.ok.inj hstep)

theorem seek_eq_error (hseek : s.seek header rest = .error e) :
    ¬ (rest.isEmpty && !s.finished) = true ∧
      startsMatrix header (rest.head?.getD []) = .error e := by
  unfold Scanner.seek at hseek
  split at hseek
  · cases hseek
  · next hknown =>
    refine ⟨hknown, ?_⟩
    rcases bind_eq_error_iff.mp hseek with hstarts | ⟨isMatrix, hstarts, hrest⟩
    · exact hstarts
    · split at hrest
      · cases hrest
      · split at hrest <;> cases hrest

/-- If a step fails, a cell below the cursor has no number, and random access stumbles over the
same cell. -/
theorem Agrees.step_error (hagrees : s.Agrees rows later) (hstep : s.step = .error e) :
    s.outlook rows = .error e := by
  unfold Scanner.step at hstep
  split at hstep
  · cases hstep
  · next header rest hwindow =>
    split at hstep
    · obtain ⟨hknown, hstarts⟩ := seek_eq_error hstep
      rw [← hagrees.rowAt_cursor hwindow, ← hagrees.rowAt_next hwindow hknown] at hstarts
      have htable := tableAt?_of_error s.options hstarts
      rw [outlook, tablesFrom_of_error (hagrees.cursor_lt hwindow) htable]
      rfl
    · cases hstep
    · cases hstep

/-- Once there are no more rows, a scanner stops only when it has passed all of them. -/
theorem window_of_step_eq_none (hstep : s.step = .ok none) (hfinished : s.finished = true) :
    s.window = [] := by
  unfold Scanner.step at hstep
  split at hstep
  · next hwindow => exact hwindow
  · exfalso
    split at hstep
    · unfold Scanner.seek at hstep
      rw [if_neg (by simp [hfinished])] at hstep
      obtain ⟨isMatrix, -, hstep⟩ := bind_eq_ok_iff.mp hstep
      split at hstep
      · cases hstep
      · split at hstep <;> cases hstep
    · have hprobe := Except.ok.inj hstep
      unfold Scanner.probeVertical at hprobe
      rw [if_pos hfinished] at hprobe
      split at hprobe
      · cases hprobe
      · split at hprobe
        · split at hprobe <;> cases hprobe
        · cases hprobe
    · have hprobe := Except.ok.inj hstep
      unfold Scanner.probeMatrix at hprobe
      rw [if_pos hfinished] at hprobe
      split at hprobe
      · cases hprobe
      · split at hprobe
        · split at hprobe <;> cases hprobe
        · cases hprobe

theorem Agrees.outlook_of_window_nil (hagrees : s.Agrees rows []) (hwindow : s.window = []) :
    s.outlook rows = .ok s.tables := by
  have hdrop := hagrees.window
  rw [hwindow, List.append_nil, List.drop_eq_nil_iff] at hdrop
  rw [outlook, tablesFrom_of_length_le hdrop]
  simp [Except.map]

/-! ## Runs -/

theorem run_eq (s : Scanner) :
    s.run = match s.step with
      | .error e => (s, some e)
      | .ok none => (s, none)
      | .ok (some next) => next.run := by
  rw [Scanner.run]
  split
  · next hstep => rw [hstep]
  · next hstep => rw [hstep]
  · next hstep => rw [hstep]

theorem run_of_error (hstep : s.step = .error e) : s.run = (s, some e) := by
  rw [run_eq, hstep]

theorem run_of_none (hstep : s.step = .ok none) : s.run = (s, none) := by
  rw [run_eq, hstep]

theorem run_of_some (hstep : s.step = .ok (some next)) : s.run = next.run := by
  rw [run_eq, hstep]

/-- A run that no error stops ends with a scanner that has gone on as far as it can. -/
theorem Agrees.run (hagrees : s.Agrees rows later) (hrun : s.run.2 = none) :
    s.GoesOnTo rows later s.run.1 ∧ s.run.1.step = .ok none := by
  induction s using Scanner.run.induct with
  | case1 s e hstep =>
      rw [run_of_error hstep] at hrun
      cases hrun
  | case2 s hstep =>
      rw [run_of_none hstep]
      exact ⟨hagrees.goesOnTo_self, hstep⟩
  | case3 s next hstep ih =>
      have hnext := hagrees.step hstep
      rw [run_of_some hstep] at hrun ⊢
      obtain ⟨hlast, hstops⟩ := ih hnext.agrees hrun
      exact ⟨hnext.trans hlast, hstops⟩

theorem Agrees.run_error (hagrees : s.Agrees rows later) (hrun : s.run.2 = some e) :
    s.outlook rows = .error e := by
  induction s using Scanner.run.induct with
  | case1 s other hstep =>
      rw [run_of_error hstep] at hrun
      cases hrun
      exact hagrees.step_error hstep
  | case2 s hstep =>
      rw [run_of_none hstep] at hrun
      cases hrun
  | case3 s next hstep ih =>
      have hnext := hagrees.step hstep
      rw [run_of_some hstep] at hrun
      rw [← hnext.outlook_eq]
      exact ih hnext.agrees hrun

/-! ## Feeding and finishing -/

theorem Agrees.withRow {row : Row} (hagrees : s.Agrees rows (row :: later)) :
    { s with window := s.window ++ [row] }.Agrees rows later := by
  constructor
  · rw [hagrees.window, List.append_assoc]
    rfl
  · intro hfinished
    cases hagrees.finished hfinished
  · exact hagrees.stage
  · intro probe hprobe
    have hseen := hagrees.probe probe hprobe
    simp only [rowsSeen, List.length_append] at hseen ⊢
    omega

theorem Agrees.withFinished (hagrees : s.Agrees rows []) :
    { s with finished := true }.Agrees rows [] :=
  ⟨hagrees.window, fun _ => rfl, hagrees.stage, hagrees.probe⟩

/-- When all rows of the sheet have been seen, finishing answers with the outlook. -/
theorem Agrees.finish (hagrees : s.Agrees rows []) :
    s.finish.2 = (s.outlook rows).mapError .cell := by
  have hlast := hagrees.withFinished
  have houtlook : { s with finished := true }.outlook rows = s.outlook rows := rfl
  cases hrun : { s with finished := true }.run.2 with
  | some e =>
      rw [← houtlook, hlast.run_error hrun]
      simp only [Scanner.finish, hrun, mapError_error]
  | none =>
      obtain ⟨hgoes, hstops⟩ := hlast.run hrun
      have hwindow := window_of_step_eq_none hstops hgoes.finished_eq
      rw [← houtlook, ← hgoes.outlook_eq, hgoes.agrees.outlook_of_window_nil hwindow]
      simp only [Scanner.finish, hrun, mapError_ok]

/-- Feeding the rows still to come, then finishing, answers with the outlook. -/
theorem Agrees.feedRows_finish {rest : List Row}
    (hagrees : s.Agrees rows (normalizedRows rest))
    (hopen : s.finished = false) :
    (s.feedRows rest >>= fun last => last.finish.2) = (s.outlook rows).mapError .cell := by
  induction rest generalizing s with
  | nil => exact hagrees.finish
  | cons row rest ih =>
      have hfed := hagrees.withRow
      have houtlook : { s with window := s.window ++ [row.map Cell.normalized] }.outlook rows =
          s.outlook rows := rfl
      rw [feedRows, feed, if_neg (by simp [hopen])]
      cases hrun : { s with window := s.window ++ [row.map Cell.normalized] }.run.2 with
      | some e =>
          rw [← houtlook, hfed.run_error hrun]
          simp only [hrun]
          rfl
      | none =>
          obtain ⟨hgoes, -⟩ := hfed.run hrun
          rw [← houtlook, ← hgoes.outlook_eq, ← ih hgoes.agrees (hgoes.finished_eq.trans hopen)]
          simp only [hrun]

theorem agrees_start (options : ScanOptions) (rows : List Row) :
    (start options).Agrees rows rows := by
  constructor
  · rfl
  · intro hfinished
    cases hfinished
  · trivial
  · intro row hrow
    cases hrow

theorem outlook_start (options : ScanOptions) (rows : List Row) :
    (start options).outlook rows = tablesFrom options rows 0 := by
  have houtlook : (start options).outlook rows =
      (tablesFrom options rows 0).map fun tables => [] ++ tables := rfl
  rw [houtlook]
  cases tablesFrom options rows 0 with
  | error e => rfl
  | ok tables => rfl

end Scanner

theorem scanTables_eq_tablesFrom (options : ScanOptions) (rows : List Row) :
    scanTables options rows = (tablesFrom options (normalizedRows rows) 0).mapError .cell := by
  have hagrees := Scanner.agrees_start options (normalizedRows rows)
  rw [scanTables, hagrees.feedRows_finish rfl, Scanner.outlook_start]

theorem exists_scanTables (options : ScanOptions) (hrows : Coercible rows) :
    ∃ tables, scanTables options rows = .ok tables := by
  obtain ⟨tables, htables⟩ := exists_tablesFrom options hrows.normalizedRows 0
  rw [scanTables_eq_tablesFrom, htables]
  exact ⟨tables, rfl⟩

/-- The scanner answers with the tables of random access, or with the error that random access
meets; where no cell fails to give its number, there is no error. -/
theorem scanTables_refines_random_access (options : ScanOptions) (rows : List Row) :
    scanTables options rows =
        (tablesFrom options (normalizedRows rows) 0).mapError ScanError.cell ∧
      (Coercible rows → ∃ tables, scanTables options rows = .ok tables) := by
  constructor
  · exact scanTables_eq_tablesFrom options rows
  · exact exists_scanTables options

def matrixAndList : List Row :=
  [[.text "", .text "Jan"], [.text "rent", .text "7"], [], [.text "name", .text "town"],
    [.text "Ann", .text "Bonn"]]

theorem scanTables_matrixAndList :
    ∃ tables, scanTables ⟨50, 100, 1⟩ matrixAndList = .ok tables ∧
      tables = [⟨0, 1, 0, 1, ["", "Jan"], .matrix⟩, ⟨3, 4, 0, 1, ["name", "town"], .vertical⟩] := by
  have hrows : Coercible matrixAndList := by
    simp [Coercible, CoercibleRow, matrixAndList, Cell.number]
  obtain ⟨hscan, htotal⟩ := scanTables_refines_random_access ⟨50, 100, 1⟩ matrixAndList
  obtain ⟨tables, htables⟩ := htotal hrows
  refine ⟨tables, htables, ?_⟩
  have hfound : tablesFrom ⟨50, 100, 1⟩ (normalizedRows matrixAndList) 0 =
      .ok [⟨0, 1, 0, 1, ["", "Jan"], .matrix⟩, ⟨3, 4, 0, 1, ["name", "town"], .vertical⟩] := by
    decide +kernel
  rw [hscan, hfound] at htables
  cases htables
  rfl

end SheetAudit
