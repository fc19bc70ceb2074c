import Mathlib.Tactic
import SheetAudit.Proofs.Outcome
import SheetAudit.Proofs.RandomAccess
import SheetAudit.Proofs.ScannerRefinement

/-!
# A scanner with registers

A second description of the scanner, with nothing left implicit.  The rows are held under their
numbers; the cursor, the state, the probed row, the candidate and the count of rows each have a
register of their own, and nothing in their types ties one to another.

A scanner fills such registers.  Each of its steps is a step of the registers it fills, so what is
shown of all registers that can be reached is true of the scanner.
-/

namespace SheetAudit

open Outcome

inductive ScanState where
  | seeking
  | vertical
  | matrix
  deriving Repr, DecidableEq

/-- A table that is not closed yet, with the numbers of its rows. -/
inductive OpenTable where
  | vertical (headerRow : Nat) (cols : List Nat) (headers : List String) (dataRows lastRow : Nat)
  | matrix (headerRow endRow endCol : Nat) (headers : List String)
  deriving Repr, DecidableEq

def OpenTable.headerRow : OpenTable → Nat
  | .vertical headerRow .. | .matrix headerRow .. => headerRow

def OpenTable.state : OpenTable → ScanState
  | .vertical .. => .vertical
  | .matrix .. => .matrix

/-- Rows under numbers that follow each other. -/
def numberedRows (first : Nat) : List Row → List (Nat × Row)
  | [] => []
  | row :: rows => (first, row) :: numberedRows (first + 1) rows

structure Registers where
  options : ScanOptions
  cursor : Nat
  state : ScanState
  probe? : Option Nat
  candidate? : Option OpenTable
  window : List (Nat × Row)
  rowsSeen : Nat
  finished : Bool
  tables : List Table

namespace Registers

def start (options : ScanOptions) : Registers :=
  ⟨options, 0, .seeking, none, none, [], 0, false, []⟩

/-- The row that is held under a number, empty if none is. -/
def row (r : Registers) (number : Nat) : Row := (r.window.lookup number).getD []

/-- Whether a row is known: it has been seen, or there will be no more rows. -/
def available (r : Registers) (number : Nat) : Bool := number < r.rowsSeen || r.finished

/-- Let go of the rows above the cursor. -/
def trim (r : Registers) : Registers :=
  { r with window := r.window.filter fun held => r.cursor ≤ held.1 }

/-- Drop the candidate and seek from a row on. -/
def resume (r : Registers) (cursor : Nat) : Registers :=
  { r with cursor, state := .seeking, probe? := none, candidate? := none }.trim

def emit (r : Registers) (table : Table) : Registers :=
  { r with tables := r.tables ++ [table] }

def closeVertical (r : Registers) (headerRow : Nat) (cols : List Nat) (headers : List String)
    (dataRows lastRow : Nat) : Registers :=
  if r.options.minDataRows ≤ dataRows then
    (r.emit ⟨headerRow, lastRow, cols.min?.getD 0, cols.max?.getD 0, headers, .vertical⟩).resume
      (lastRow + 1)
  else r.resume (headerRow + 1)

def closeMatrix (r : Registers) (headerRow endRow endCol : Nat) (headers : List String) :
    Registers :=
  (r.emit ⟨headerRow, endRow, 0, endCol, headers, .matrix⟩).resume (endRow + 1)

def seek (r : Registers) : Except CellError (Option Registers) :=
  if r.finished && r.rowsSeen ≤ r.cursor then pure none
  else if !r.available (r.cursor + 1) then pure none
  else do
    let header := r.row r.cursor
    let below := r.row (r.cursor + 1)
    let matrix ← Table.startsMatrix header below
    if matrix then
      let candidate := .matrix r.cursor (r.cursor + 1) (Scanner.lastColumn header below)
        (Table.matrixHeaders header)
      pure (some { r with
        state := .matrix, probe? := some (r.cursor + 2), candidate? := some candidate })
    else if Table.isVerticalHeader header then
      let candidate := .vertical r.cursor (Table.textColumns header) (Table.textHeaders header) 0
        r.cursor
      pure (some { r with
        state := .vertical, probe? := some (r.cursor + 1), candidate? := some candidate })
    else pure (some { r with cursor := r.cursor + 1 }.trim)

def probeVertical (r : Registers) (probe headerRow : Nat) (cols : List Nat)
    (headers : List String) (dataRows lastRow : Nat) : Option Registers :=
  if headerRow + r.options.verticalLookahead < probe then
    some (r.closeVertical headerRow cols headers dataRows lastRow)
  else if !r.available probe then none
  else if Table.isBlankRow (r.row probe) then
    some (r.closeVertical headerRow cols headers dataRows lastRow)
  else
    let dataRows := if Table.fillsOneOf cols (r.row probe) then dataRows + 1 else dataRows
    some { r with
      probe? := some (probe + 1),
      candidate? := some (.vertical headerRow cols headers dataRows probe) }

def probeMatrix (r : Registers) (probe headerRow endRow endCol : Nat) (headers : List String) :
    Option Registers :=
  if headerRow + r.options.matrixLookahead < probe then
    some (r.closeMatrix headerRow endRow endCol headers)
  else if !r.available probe then none
  else if Table.isLabelRow (r.row probe) then
    let endCol := max endCol ((Table.lastFilled? (r.row probe)).getD 0)
    some { r with
      probe? := some (probe + 1), candidate? := some (.matrix headerRow probe endCol headers) }
  else some (r.closeMatrix headerRow endRow endCol headers)

/-- One step.  Registers that contradict each other have none. -/
def step (r : Registers) : Except CellError (Option Registers) :=
  match r.state, r.candidate?, r.probe? with
  | .seeking, _, _ => r.seek
  | .vertical, some (.vertical headerRow cols headers dataRows lastRow), some probe =>
    pure (r.probeVertical probe headerRow cols headers dataRows lastRow)
  | .matrix, some (.matrix headerRow endRow endCol headers), some probe =>
    pure (r.probeMatrix probe headerRow endRow endCol headers)
  | _, _, _ => pure none

/-- Hold one more row, under the next number. -/
def hold (r : Registers) (row : Row) : Registers :=
  { r with
    window := r.window ++ [(r.rowsSeen, row.map Cell.normalized)], rowsSeen := r.rowsSeen + 1 }

/-- The registers that can be reached when some rows have been given: rows are given, and the end
is announced, only when no step is left to take. -/
inductive Reached (options : ScanOptions) : List Row → Registers → Prop
  | start : Reached options [] (start options)
  | feed {given : List Row} {r : Registers} (row : Row) (hreached : Reached options given r)
      (hopen : r.finished = false) (hsettled : r.step = .ok none) :
      Reached options (given ++ [row]) (r.hold row)
  | step {given : List Row} {r next : Registers} (hreached : Reached options given r)
      (hstep : r.step = .ok (some next)) : Reached options given next
  | finish {given : List Row} {r : Registers} (hreached : Reached options given r)
      (hsettled : r.step = .ok none) : Reached options given { r with finished := true }

/-- The registers that steps, rows and the end lead to in any order, so that rows may also follow a
step that fails. -/
inductive Visited (options : ScanOptions) : List Row → Registers → Prop
  | start : Visited options [] (start options)
  | feed {given : List Row} {r : Registers} (row : Row) (hvisited : Visited options given r)
      (hopen : r.finished = false) : Visited options (given ++ [row]) (r.hold row)
  | step {given : List Row} {r next : Registers} (hvisited : Visited options given r)
      (hstep : r.step = .ok (some next)) : Visited options given next
  | finish {given : List Row} {r : Registers} (hvisited : Visited options given r) :
      Visited options given { r with finished := true }

theorem Reached.visited {options : ScanOptions} {given : List Row} {r : Registers}
    (hreached : r.Reached options given) : r.Visited options given := by
  induction hreached with
  | start => exact .start
  | feed row _ hopen _ ih => exact ih.feed row hopen
  | step _ hstep ih => exact ih.step hstep
  | finish _ _ ih => exact ih.finish

end Registers

/-! ## Rows under their numbers -/

variable {rows later : List Row} {first : Nat}

@[simp] theorem length_numberedRows : (numberedRows first rows).length = rows.length := by
  induction rows generalizing first with
  | nil => rfl
  | cons row rows ih => rw [numberedRows, List.length_cons, List.length_cons, ih]

theorem lookup_numberedRows (k : Nat) :
    (numberedRows first rows).lookup (first + k) = rows[k]? := by
  induction rows generalizing first k with
  | nil => rfl
  | cons row rows ih =>
      rw [numberedRows, List.lookup_cons]
      cases k with
      | zero => simp
      | succ k =>
          have hother : (first + (k + 1) == first) = false := by
            rw [beq_eq_false_iff_ne]
            omega
          rw [hother, List.getElem?_cons_succ, ← ih k, Nat.add_right_comm, Nat.add_assoc]

theorem le_of_mem_numberedRows {held : Nat × Row} (hheld : held ∈ numberedRows first rows) :
    first ≤ held.1 := by
  induction rows generalizing first with
  | nil => cases hheld
  | cons row rows ih =>
      rw [numberedRows, List.mem_cons] at hheld
      rcases hheld with rfl | hbelow
      · exact le_refl first
      · exact (Nat.le_succ first).trans (ih hbelow)

theorem filter_numberedRows (k : Nat) :
    ((numberedRows first rows).filter fun held => first + k ≤ held.1) =
      numberedRows (first + k) (rows.drop k) := by
  induction rows generalizing first k with
  | nil => simp [numberedRows]
  | cons row rows ih =>
      cases k with
      | zero =>
          rw [List.drop_zero, Nat.add_zero, List.filter_eq_self]
          intro held hheld
          exact decide_eq_true (le_of_mem_numberedRows hheld)
      | succ k =>
          rw [numberedRows, List.filter_cons, if_neg (by simp), List.drop_succ_cons,
            ← Nat.add_assoc, Nat.add_right_comm, ih]

theorem numberedRows_append (row : Row) :
    numberedRows first (rows ++ [row]) =
      numberedRows first rows ++ [(first + rows.length, row)] := by
  induction rows generalizing first with
  | nil => rfl
  | cons above rows ih =>
      rw [List.cons_append, numberedRows, ih, numberedRows, List.cons_append, List.length_cons,
        Nat.add_right_comm, Nat.add_assoc]

/-! ## The registers that a scanner fills -/

def ScanStage.state : ScanStage → ScanState
  | .seeking => .seeking
  | .vertical .. => .vertical
  | .matrix .. => .matrix

def ScanStage.openTable? (cursor : Nat) : ScanStage → Option OpenTable
  | .seeking => none
  | .vertical cols headers dataRows taken =>
    some (.vertical cursor cols headers dataRows (cursor + taken))
  | .matrix headers endCol taken => some (.matrix cursor (cursor + taken) endCol headers)

namespace Scanner

@[simps]
def registers (s : Scanner) : Registers where
  options := s.options
  cursor := s.cursor
  state := s.stage.state
  probe? := s.probe?
  candidate? := s.stage.openTable? s.cursor
  window := numberedRows s.cursor s.window
  rowsSeen := s.rowsSeen
  finished := s.finished
  tables := s.tables

theorem registers_hold (s : Scanner) (row : Row) :
    { s with window := s.window ++ [row.map Cell.normalized] }.registers =
      s.registers.hold row := by
  have hseen : s.cursor + (s.window ++ [row.map Cell.normalized]).length = s.rowsSeen + 1 := by
    rw [List.length_append, List.length_singleton, ← Nat.add_assoc]
    rfl
  simp only [registers, Registers.hold, rowsSeen, hseen, numberedRows_append, probe?]

variable {s : Scanner} {header : Row} {rest : List Row}

/-! ## Closing a candidate -/

theorem registers_moveOn (tables : List Table) {count : Nat} (hcount : count ≤ s.window.length) :
    ({ s with tables := tables }.moveOn count).registers =
      { s.registers with tables := tables }.resume (s.cursor + count) := by
  have hseen : s.cursor + count + (s.window.drop count).length = s.rowsSeen := by
    rw [List.length_drop, rowsSeen]
    omega
  simp only [registers, moveOn, Registers.resume, Registers.trim, filter_numberedRows, rowsSeen,
    hseen, probe?, ScanStage.state, ScanStage.openTable?]

theorem Agrees.registers_closeVertical {cols : List Nat} {headers : List String}
    {counted taken : Nat} (hagrees : s.Agrees rows later)
    (hstage : s.stage = .vertical cols headers counted taken) :
    (s.closeVertical cols headers counted taken).registers =
      s.registers.closeVertical s.cursor cols headers counted (s.cursor + taken) := by
  have htaken : taken < s.window.length := hagrees.taken_lt (by rw [probe?, hstage])
  have hcandidate : s.stage.Fits s.options rows s.cursor := hagrees.stage
  rw [hstage] at hcandidate
  have hcols := hcandidate.cols_eq
  rw [Scanner.closeVertical, Registers.closeVertical, registers_options]
  split
  · rw [registers_moveOn _ htaken, verticalTable, hcols, Table.head?_textColumns,
      Table.getLast?_textColumns]
    rfl
  · exact registers_moveOn s.tables (Nat.one_le_of_lt htaken)

theorem Agrees.registers_closeMatrix {headers : List String} {endCol taken : Nat}
    (hagrees : s.Agrees rows later) (hstage : s.stage = .matrix headers endCol taken) :
    (s.closeMatrix headers endCol taken).registers =
      s.registers.closeMatrix s.cursor (s.cursor + taken) endCol headers := by
  have htaken : taken < s.window.length := hagrees.taken_lt (by rw [probe?, hstage])
  rw [Scanner.closeMatrix, registers_moveOn _ htaken]
  rfl

/-! ## Rows of the window -/

theorem registers_row_cursor (hwindow : s.window = header :: rest) :
    s.registers.row s.cursor = header := by
  have hrow : (numberedRows s.cursor (header :: rest)).lookup s.cursor = some header :=
    lookup_numberedRows 0
  rw [Registers.row, registers_window, hwindow, hrow, Option.getD_some]

theorem registers_row_below (hwindow : s.window = header :: rest) (taken : Nat) :
    s.registers.row (s.cursor + taken + 1) = rest[taken]?.getD [] := by
  rw [Registers.row, registers_window, hwindow, Nat.add_assoc, lookup_numberedRows]
  rfl

theorem registers_available (hwindow : s.window = header :: rest) (taken : Nat) :
    s.registers.available (s.cursor + taken + 1) = (rest[taken]?.isSome || s.finished) := by
  have hheld : s.cursor + taken + 1 < s.rowsSeen ↔ rest[taken]?.isSome = true := by
    rw [rowsSeen, hwindow, List.length_cons, isSome_getElem?]
    omega
  simp only [Registers.available, registers_rowsSeen, registers_finished, hheld,
    Bool.decide_eq_true]

/-! ## Steps -/

theorem Agrees.registers_probeVertical {cols : List Nat} {headers : List String}
    {counted taken : Nat} (hagrees : s.Agrees rows later) (hwindow : s.window = header :: rest)
    (hstage : s.stage = .vertical cols headers counted taken) :
    s.registers.probeVertical (s.cursor + taken + 1) s.cursor cols headers counted
        (s.cursor + taken) =
      (s.probeVertical rest cols headers counted taken).map registers := by
  have hclose := hagrees.registers_closeVertical hstage
  have hbeyond : (s.cursor : Int) + s.options.verticalLookahead < (s.cursor + taken + 1 : Nat) ↔
      s.options.verticalLookahead < taken + 1 := by omega
  rw [Registers.probeVertical, registers_options, if_congr hbeyond rfl rfl, ← hclose,
    registers_available hwindow, registers_row_below hwindow, Scanner.probeVertical]
  split
  · rfl
  · cases hrow : rest[taken]? with
    | none => cases s.finished <;> simp [Table.isBlankRow]
    | some row =>
        simp only [Option.isSome_some, Bool.true_or, Bool.not_true, Bool.false_eq_true, if_false,
          Option.getD_some]
        split
        · rfl
        · simp only [Option.map_some, registers, probe?, ScanStage.state, ScanStage.openTable?,
            hstage, rowsSeen]
          rfl

theorem Agrees.registers_probeMatrix {headers : List String} {endCol taken : Nat}
    (hagrees : s.Agrees rows later) (hwindow : s.window = header :: rest)
    (hstage : s.stage = .matrix headers endCol taken) :
    s.registers.probeMatrix (s.cursor + taken + 1) s.cursor (s.cursor + taken) endCol headers =
      (s.probeMatrix rest headers endCol taken).map registers := by
  have hclose := hagrees.registers_closeMatrix hstage
  have hbeyond : (s.cursor : Int) + s.options.matrixLookahead < (s.cursor + taken + 1 : Nat) ↔
      s.options.matrixLookahead < taken + 1 := by omega
  rw [Registers.probeMatrix, registers_options, if_congr hbeyond rfl rfl, ← hclose,
    registers_available hwindow, registers_row_below hwindow, Scanner.probeMatrix]
  split
  · rfl
  · cases hrow : rest[taken]? with
    | none => cases s.finished <;> simp [Table.isLabelRow]
    | some row =>
        simp only [Option.isSome_some, Bool.true_or, Bool.not_true, Bool.false_eq_true, if_false,
          Option.getD_some]
        split
        · simp only [Option.map_some, registers, probe?, ScanStage.state, ScanStage.openTable?,
            hstage, rowsSeen]
          rfl
        · rfl

theorem registers_seek (hwindow : s.window = header :: rest) (hstage : s.stage = .seeking) :
    s.registers.seek = (s.seek header rest).map (Option.map registers) := by
  have hlength : 1 ≤ s.window.length := by
    rw [hwindow]
    exact Nat.succ_pos rest.length
  have hseen : ¬ s.rowsSeen ≤ s.cursor := by
    rw [rowsSeen]
    omega
  have hknown : s.registers.available (s.cursor + 1) = !(rest.isEmpty && !s.finished) := by
    rw [registers_available hwindow 0]
    cases rest <;> simp
  have hbelow : s.registers.row (s.cursor + 1) = rest.head?.getD [] := by
    rw [List.head?_eq_getElem?]
    exact registers_row_below hwindow 0
  rw [Registers.seek, registers_cursor, registers_rowsSeen, registers_row_cursor hwindow, hbelow,
    hknown, Bool.not_not, Scanner.seek]
  simp only [hseen, decide_false, Bool.and_false, Bool.false_eq_true, if_false]
  split
  · rfl
  · cases Table.startsMatrix header (rest.head?.getD []) with
    | error e => rfl
    | ok matrix =>
        simp only [ok_bind]
        split
        · rfl
        · split
          · rfl
          · have hmove := registers_moveOn s.tables hlength
            simp only [Registers.resume, registers, probe?, hstage, ScanStage.state,
              ScanStage.openTable?] at hmove ⊢
            rw [pure_eq_ok, pure_eq_ok, ← hmove]
            rfl

theorem Agrees.stage_of_window_nil (hagrees : s.Agrees rows later) (hwindow : s.window = []) :
    s.stage = .seeking := by
  cases hstage : s.stage with
  | seeking => rfl
  | vertical cols headers counted taken =>
      have htaken : taken < s.window.length := hagrees.taken_lt (by rw [probe?, hstage])
      rw [hwindow] at htaken
      exact absurd htaken (Nat.not_lt_zero taken)
  | matrix headers endCol taken =>
      have htaken : taken < s.window.length := hagrees.taken_lt (by rw [probe?, hstage])
      rw [hwindow] at htaken
      exact absurd htaken (Nat.not_lt_zero taken)

/-- Without rows the registers wait for one, or are done. -/
theorem registers_seek_of_window_nil (hwindow : s.window = []) :
    s.registers.seek = .ok none := by
  have hseen : s.rowsSeen = s.cursor := by rw [rowsSeen, hwindow, List.length_nil, Nat.add_zero]
  rw [Registers.seek, Registers.available, registers_cursor, registers_rowsSeen, hseen,
    registers_finished]
  cases s.finished <;> simp

/-- A step of the registers that a scanner fills is a step of the scanner. -/
theorem Agrees.registers_step (hagrees : s.Agrees rows later) :
    s.registers.step = s.step.map (Option.map registers) := by
  rw [Registers.step, registers_state, registers_candidate?, registers_probe?, Scanner.step]
  cases hwindow : s.window with
  | nil =>
      rw [hagrees.stage_of_window_nil hwindow]
      exact registers_seek_of_window_nil hwindow
  | cons header rest =>
      cases hstage : s.stage with
      | seeking => exact registers_seek hwindow hstage
      | vertical cols headers counted taken =>
          have hprobe : s.probe? = some (s.cursor + taken + 1) := by rw [probe?, hstage]
          rw [hprobe]
          exact congrArg pure (hagrees.registers_probeVertical hwindow hstage)
      | matrix headers endCol taken =>
          have hprobe : s.probe? = some (s.cursor + taken + 1) := by rw [probe?, hstage]
          rw [hprobe]
          exact congrArg pure (hagrees.registers_probeMatrix hwindow hstage)

end Scanner

end SheetAudit
