import SheetAudit.Field
import SheetAudit.Rule.Finding
import SheetAudit.Sheet.Source

/-!
# Findings of a rule on a sheet

A rule is checked on the cells of its field, in order.  A field of no more cells than a chunk has
rows is collected first and then checked; any other field is checked chunk by chunk.  Either way no
chunk is taken after the one that holds the last row of a cell or a range, and cells that the sheet
does not have are checked as empty.

A rule that goes wrong has one failed finding and no others.  A fault of the file is no fault of
the rule, and stops the audit.
-/

namespace SheetAudit

inductive RuleFault where
  | field (cause : FieldError)
  | check (cause : CheckError)
  | stream (cause : FileError)
  deriving Repr, DecidableEq

/-- The first row number that is never reached. -/
def rowLimit : Int := 9223372036854775807

namespace Rule

def checkEach (rule : Rule) (submissionId : Option Int) (value : Address → Cell) :
    List Address → Except RuleFault (List Finding)
  | [] => pure []
  | address :: addresses => do
    let finding ← (rule.check (some address) (value address) submissionId).mapError .check
    let findings ← rule.checkEach submissionId value addresses
    pure (finding :: findings)

/-! ## Collecting first -/

/-- The findings of a rule on a rectangle that is collected first. -/
def findingsDirect (rule : Rule) (cells : Rectangle) (submissionId : Option Int)
    (stream : ChunkStream FileError) : Except RuleFault (List Finding) := do
  let chunks ← (stream.through cells.lastRow).mapError .stream
  rule.checkEach submissionId (valueInChunks chunks) cells.cells

/-! ## Checking chunk by chunk -/

/-- The findings of a rule on the cells of its field below the last row of a sheet.  A column has
none, but needs a header row. -/
def findingsBelow (rule : Rule) (field : Field) (submissionId : Option Int)
    (headers? : Option Row) (lastRow : Int) : Except RuleFault (List Finding) :=
  match field with
  | .column name =>
    match headers? with
    | none => throw (.field (.sheetIsEmpty name rule.field))
    | some _ => pure []
  | _ => do
    let cells ← (field.resolve [] (.span (lastRow + 1) rowLimit)).mapError .field
    rule.checkEach submissionId (fun _ => .empty) cells.cells

/-- The findings of a rule on chunks after those that ended in a row; the first row of the first
chunk holds the headers. -/
def findingsFrom (rule : Rule) (field : Field) (submissionId : Option Int)
    (fault? : Option FileError) (headers? : Option Row) (lastRow : Int) :
    List RowChunk → Except RuleFault (List Finding)
  | [] =>
    match fault? with
    | some fault => throw (.stream fault)
    | none => rule.findingsBelow field submissionId headers? lastRow
  | chunk :: chunks => do
    let headers := headers?.getD (chunk.rows.head?.getD [])
    let cells ← (field.resolve headers (.span chunk.start (chunk.stop + 1))).mapError .field
    let found ← rule.checkEach submissionId chunk.valueAt cells.cells
    let others ←
      if field.endsBy chunk.stop then
        rule.findingsBelow field submissionId (some headers) chunk.stop
      else rule.findingsFrom field submissionId fault? (some headers) chunk.stop chunks
    pure (found ++ others)

def findingsChunked (rule : Rule) (field : Field) (submissionId : Option Int)
    (stream : ChunkStream FileError) : Except RuleFault (List Finding) :=
  rule.findingsFrom field submissionId stream.fault? none (-1) stream.chunks

/-! ## Either way -/

def reachFindings (rule : Rule) (chunkSize : Nat) (submissionId : Option Int)
    (stream : ChunkStream FileError) : Except RuleFault (List Finding) := do
  let field ← (Field.ofText rule.field).mapError .field
  match field.rectangle? with
  | some cells =>
    if cells.count ≤ chunkSize then rule.findingsDirect cells submissionId stream
    else rule.findingsChunked field submissionId stream
  | none => rule.findingsChunked field submissionId stream

/-- The findings of a rule on a stream of chunks of a size: one failed finding if the rule goes
wrong, an error if the file does. -/
def findings (rule : Rule) (chunkSize : Nat) (submissionId : Option Int)
    (stream : ChunkStream FileError) : Except FileError (List Finding) :=
  match rule.reachFindings chunkSize submissionId stream with
  | .ok findings => pure findings
  | .error (.stream fault) =>
    if fault.isFatal then throw fault else pure [rule.failedFinding submissionId]
  | .error _ => pure [rule.failedFinding submissionId]

end Rule

end SheetAudit
