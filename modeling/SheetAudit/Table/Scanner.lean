import SheetAudit.Table.Layout

/-!
# Scanning a sheet for tables

A scanner takes the rows of a sheet one by one and holds only those from its cursor on, the next
row that could head a table.  It seeks a header at the cursor, or has one and takes rows below it
until the table closes.  A matrix is tried before a vertical table.  A vertical table without
enough data is rejected, and seeking goes on one row below its header.

The scanner holds its cursor and the rows from there on.  A candidate is headed by the first row
held, and remembers how many rows below the header it has taken; the row after these is probed
next.
-/

namespace SheetAudit

/-- How far below a header a table may reach, and how many rows with data a vertical table
needs. -/
structure ScanOptions where
  verticalLookahead : Int
  matrixLookahead : Int
  minDataRows : Int
  deriving Repr, DecidableEq

def ScanOptions.default : ScanOptions := ⟨50, 100, 3⟩

/-- What a scanner is doing: seeking a header, or taking rows below one. -/
inductive ScanStage where
  | seeking
  | vertical (cols : List Nat) (headers : List String) (dataRows taken : Nat)
  | matrix (headers : List String) (endCol taken : Nat)
  deriving Repr, DecidableEq

structure Scanner where
  options : ScanOptions
  cursor : Nat
  window : List Row
  stage : ScanStage
  finished : Bool
  tables : List Table
  deriving Repr

inductive ScanError where
  | finished
  | cell (cause : CellError)
  deriving Repr, DecidableEq

def ScanError.message : ScanError → String
  | .finished => "Cannot feed rows after finish()"
  | .cell cause => cause.message

namespace Scanner

def start (options : ScanOptions) : Scanner := ⟨options, 0, [], .seeking, false, []⟩

/-- How many rows a scanner has been given. -/
def rowsSeen (s : Scanner) : Nat := s.cursor + s.window.length

/-- The row that is probed next, if there is a candidate. -/
def probe? (s : Scanner) : Option Nat :=
  match s.stage with
  | .seeking => none
  | .vertical _ _ _ taken | .matrix _ _ taken => some (s.cursor + taken + 1)

def moveOn (s : Scanner) (rows : Nat) : Scanner :=
  { s with cursor := s.cursor + rows, window := s.window.drop rows, stage := .seeking }

def verticalTable (s : Scanner) (cols : List Nat) (headers : List String) (taken : Nat) : Table :=
  ⟨s.cursor, s.cursor + taken, cols.head?.getD 0, cols.getLast?.getD 0, headers, .vertical⟩

def matrixTable (s : Scanner) (headers : List String) (endCol taken : Nat) : Table :=
  ⟨s.cursor, s.cursor + taken, 0, endCol, headers, .matrix⟩

/-- Close a vertical candidate: a table if it has enough data, otherwise only its header is passed
over. -/
def closeVertical (s : Scanner) (cols : List Nat) (headers : List String) (dataRows taken : Nat) :
    Scanner :=
  if s.options.minDataRows ≤ dataRows then
    { s with tables := s.tables ++ [s.verticalTable cols headers taken] }.moveOn (taken + 1)
  else s.moveOn 1

def closeMatrix (s : Scanner) (headers : List String) (endCol taken : Nat) : Scanner :=
  { s with tables := s.tables ++ [s.matrixTable headers endCol taken] }.moveOn (taken + 1)

/-- The last column of two rows that shows something. -/
def lastColumn (header below : Row) : Nat :=
  max ((Table.lastFilled? header).getD 0) ((Table.lastFilled? below).getD 0)

/-- Seek a header at the first row held.  The row below it must be known, unless there are no more
rows. -/
def seek (s : Scanner) (header : Row) (rest : List Row) : Except CellError (Option Scanner) :=
  if rest.isEmpty && !s.finished then pure none
  else do
    let below := rest.head?.getD []
    let matrix ← Table.startsMatrix header below
    if matrix then
      let stage := .matrix (Table.matrixHeaders header) (lastColumn header below) 1
      pure (some { s with stage })
    else if Table.isVerticalHeader header then
      let stage := .vertical (Table.textColumns header) (Table.textHeaders header) 0 0
      pure (some { s with stage })
    else pure (some (s.moveOn 1))

def probeVertical (s : Scanner) (rest : List Row) (cols : List Nat) (headers : List String)
    (dataRows taken : Nat) : Option Scanner :=
  if s.options.verticalLookahead < taken + 1 then
    some (s.closeVertical cols headers dataRows taken)
  else
    match rest[taken]? with
    | some row =>
      if Table.isBlankRow row then some (s.closeVertical cols headers dataRows taken)
      else
        let dataRows := if Table.fillsOneOf cols row then dataRows + 1 else dataRows
        some { s with stage := .vertical cols headers dataRows (taken + 1) }
    | none => if s.finished then some (s.closeVertical cols headers dataRows taken) else none

def probeMatrix (s : Scanner) (rest : List Row) (headers : List String) (endCol taken : Nat) :
    Option Scanner :=
  if s.options.matrixLookahead < taken + 1 then some (s.closeMatrix headers endCol taken)
  else
    match rest[taken]? with
    | some row =>
      if Table.isLabelRow row then
        let endCol := max endCol ((Table.lastFilled? row).getD 0)
        some { s with stage := .matrix headers endCol (taken + 1) }
      else some (s.closeMatrix headers endCol taken)
    | none => if s.finished then some (s.closeMatrix headers endCol taken) else none

/-- One step; nothing if the scanner has to wait for rows or is done. -/
def step (s : Scanner) : Except CellError (Option Scanner) :=
  match s.window with
  | [] => pure none
  | header :: rest =>
    match s.stage with
    | .seeking => s.seek header rest
    | .vertical cols headers dataRows taken =>
      pure (s.probeVertical rest cols headers dataRows taken)
    | .matrix headers endCol taken => pure (s.probeMatrix rest headers endCol taken)

/-! ## Steps come to an end

A step drops the header from the window, or keeps the window and comes nearer to the row where
its candidate must close.
-/

/-- How many more steps keep the window at most. -/
def patience (s : Scanner) : Nat :=
  match s.stage with
  | .seeking => s.window.length + 1
  | .vertical _ _ _ taken | .matrix _ _ taken => s.window.length - taken

def Nearer (next s : Scanner) : Prop :=
  next.window.length < s.window.length ∨
    (next.window.length = s.window.length ∧ next.patience < s.patience)

theorem moveOn_nearer {s : Scanner} {header : Row} {rest : List Row} {rows : Nat}
    (tables : List Table) (hwindow : s.window = header :: rest) (hrows : 0 < rows) :
    Nearer ({ s with tables := tables }.moveOn rows) s := by
  left
  simp only [moveOn, hwindow, List.length_drop, List.length_cons]
  omega

theorem closeVertical_nearer {s : Scanner} {header : Row} {rest : List Row} {cols : List Nat}
    {headers : List String} {dataRows taken : Nat} (hwindow : s.window = header :: rest) :
    Nearer (s.closeVertical cols headers dataRows taken) s := by
  unfold closeVertical
  split
  · exact moveOn_nearer _ hwindow (Nat.succ_pos taken)
  · exact moveOn_nearer s.tables hwindow Nat.one_pos

theorem closeMatrix_nearer {s : Scanner} {header : Row} {rest : List Row} {headers : List String}
    {endCol taken : Nat} (hwindow : s.window = header :: rest) :
    Nearer (s.closeMatrix headers endCol taken) s :=
  moveOn_nearer _ hwindow (Nat.succ_pos taken)

theorem probeVertical_nearer {s next : Scanner} {header : Row} {rest : List Row}
    {cols : List Nat} {headers : List String} {dataRows taken : Nat}
    (hwindow : s.window = header :: rest)
    (hstage : s.stage = .vertical cols headers dataRows taken)
    (hnext : s.probeVertical rest cols headers dataRows taken = some next) : Nearer next s := by
  unfold probeVertical at hnext
  split at hnext
  · cases hnext
    exact closeVertical_nearer hwindow
  · split at hnext
    · next row hrow =>
      split at hnext
      · cases hnext
        exact closeVertical_nearer hwindow
      · cases hnext
        right
        have htaken : taken < rest.length := (List.getElem?_eq_some_iff.mp hrow).1
        simp only [patience, hstage, hwindow, List.length_cons, true_and]
        omega
    · split at hnext
      · cases hnext
        exact closeVertical_nearer hwindow
      · cases hnext

theorem probeMatrix_nearer {s next : Scanner} {header : Row} {rest : List Row}
    {headers : List String} {endCol taken : Nat} (hwindow : s.window = header :: rest)
    (hstage : s.stage = .matrix headers endCol taken)
    (hnext : s.probeMatrix rest headers endCol taken = some next) : Nearer next s := by
  unfold probeMatrix at hnext
  split at hnext
  · cases hnext
    exact closeMatrix_nearer hwindow
  · split at hnext
    · next row hrow =>
      split at hnext
      · cases hnext
        right
        have htaken : taken < rest.length := (List.getElem?_eq_some_iff.mp hrow).1
        simp only [patience, hstage, hwindow, List.length_cons, true_and]
        omega
      · cases hnext
        exact closeMatrix_nearer hwindow
    · split at hnext
      · cases hnext
        exact closeMatrix_nearer hwindow
      · cases hnext

theorem seek_nearer {s next : Scanner} {header : Row} {rest : List Row}
    (hwindow : s.window = header :: rest) (hstage : s.stage = .seeking)
    (hnext : s.seek header rest = .ok (some next)) : Nearer next s := by
  unfold seek at hnext
  split at hnext
  · cases hnext
  · simp only [bind, Except.bind] at hnext
    split at hnext
    · cases hnext
    · split at hnext
      · cases hnext
        right
        simp only [patience, hstage, true_and]
        omega
      · split at hnext
        · cases hnext
          right
          simp only [patience, hstage, true_and]
          omega
        · cases hnext
          exact moveOn_nearer s.tables hwindow Nat.one_pos

theorem step_nearer {s next : Scanner} (hnext : s.step = .ok (some next)) : Nearer next s := by
  unfold step at hnext
  split at hnext
  · cases hnext
  · next header rest hwindow =>
    split at hnext
    · next hstage => exact seek_nearer hwindow hstage hnext
    · next cols headers dataRows taken hstage =>
      exact probeVertical_nearer hwindow hstage (Except.ok.inj hnext)
    · next headers endCol taken hstage =>
      exact probeMatrix_nearer hwindow hstage (Except.ok.inj hnext)

/-! ## Running, feeding and finishing -/

/-- Take steps until the scanner has to wait or is done, or an error stops it. -/
def run (s : Scanner) : Scanner × Option CellError :=
  match _hstep : s.step with
  | .error e => (s, some e)
  | .ok none => (s, none)
  | .ok (some next) => next.run
termination_by (s.window.length, s.patience)
decreasing_by
  cases step_nearer _hstep with
  | inl hless => exact Prod.Lex.left _ _ hless
  | inr hsame =>
    obtain ⟨hlength, hpatience⟩ := hsame
    rw [hlength]
    exact Prod.Lex.right _ hpatience

/-- Give a scanner the next row.  The answer holds the tables that the row closed. -/
def feed (s : Scanner) (row : Row) : Scanner × Except ScanError (List Table) :=
  if s.finished then (s, .error .finished)
  else
    let before := s.tables.length
    let (next, error?) := { s with window := s.window ++ [row.map Cell.normalized] }.run
    match error? with
    | some e => (next, .error (.cell e))
    | none => (next, .ok (next.tables.drop before))

/-- Tell a scanner that there are no more rows.  The answer holds all tables. -/
def finish (s : Scanner) : Scanner × Except ScanError (List Table) :=
  let (next, error?) := { s with finished := true }.run
  match error? with
  | some e => (next, .error (.cell e))
  | none => (next, .ok next.tables)

def feedRows (s : Scanner) : List Row → Except ScanError Scanner
  | [] => pure s
  | row :: rows =>
    let (next, answer) := s.feed row
    match answer with
    | .error e => throw e
    | .ok _ => next.feedRows rows

end Scanner

def scanTables (options : ScanOptions) (rows : List Row) : Except ScanError (List Table) :=
  (Scanner.start options).feedRows rows >>= fun s => s.finish.2

end SheetAudit
