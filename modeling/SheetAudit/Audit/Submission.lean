import SheetAudit.Audit.RuleFindings
import SheetAudit.Number.Double
import SheetAudit.Rule.Finding
import SheetAudit.Sheet.Reading

/-!
# Audit of a submission

Every rule is checked on every sheet that it applies to, sheet by sheet, and progress is reported
on the way.  A rule without a sheet's name applies to all sheets, any other to the sheets with that
name; sheets are named by their index unless names are given.  Names are compared by their texts.
An error in the file ends the audit, and so does a name without a text; the reports up to then
remain.

The sheets of a submission share the percentages from 10 to 90, and the rules of a sheet those of
the sheet.  A share is computed with double precision and rounded to the nearest whole number, a
half to the even neighbour.
-/

namespace SheetAudit

/-! ## Progress -/

structure Report where
  percent : Nat
  message : String
  deriving Repr, DecidableEq

/-- The report of a percentage, which is kept between 0 and 100. -/
def Report.ofPercent (percent : Int) (message : String) : Report :=
  ⟨(max 0 (min 100 percent)).toNat, message⟩

namespace Progress

/-- The percentages that the sheets of a submission share. -/
def sheetsShare : Nat := 80

/-- The percentage at which the sheet at a place among others starts. -/
def ofSheet (place sheets : Nat) : Int :=
  10 + ((Number.ofRatio false place sheets).mul (.ofInt sheetsShare)).nearestInt

/-- The percentage at which the rule at a place among others starts, in a sheet that starts at a
percentage. -/
def ofRule (start : Int) (place rules sheets : Nat) : Int :=
  start + ((Number.ofRatio false place rules).mul (.ofRatio false sheetsShare sheets)).nearestInt

end Progress

/-! ## Reported work -/

inductive AuditError where
  | cannotOpen (cause : FileError) (path : Option String)
  | file (cause : FileError)
  | name (cause : CellError)
  deriving Repr, DecidableEq

def AuditError.message : AuditError → String
  | .cannotOpen cause _ => cause.message
  | .file cause => cause.message
  | .name cause => cause.message

/-- What work on a submission comes to, and the reports on the way. -/
structure Reported (α : Type) where
  reports : List Report
  result : Except AuditError α

namespace Reported

variable {α β : Type}

def done (a : α) : Reported α := ⟨[], .ok a⟩

def andThen (work : Reported α) (next : α → Reported β) : Reported β :=
  match work.result with
  | .error e => ⟨work.reports, .error e⟩
  | .ok a =>
    let rest := next a
    ⟨work.reports ++ rest.reports, rest.result⟩

instance : Monad Reported where
  pure := done
  bind := andThen

def report (percent : Int) (message : String) : Reported Unit :=
  ⟨[Report.ofPercent percent message], .ok ()⟩

def ofResult (result : Except AuditError α) : Reported α := ⟨[], result⟩

end Reported

/-- Names given to sheets by their index. -/
abbrev SheetIds := List (Int × Option SheetId)

def sheetId? (ids? : Option SheetIds) (sheet : SheetSource) : Option SheetId :=
  match ids? with
  | none => some (.int sheet.index)
  | some ids => (ids.lookup (sheet.index : Int)).join

def Rule.appliesTo (rule : Rule) (sheetId? : Option SheetId) : Except CellError Bool :=
  match rule.sheetId, sheetId? with
  | none, _ => pure true
  | some _, none => pure false
  | some wanted, some given => do
    let wantedText ← wanted.shown
    let givenText ← given.shown
    pure (wantedText == givenText)

/-- The rules among some that apply to a sheet with a name. -/
def applicable (sheetId? : Option SheetId) : List Rule → Except CellError (List Rule)
  | [] => pure []
  | rule :: rules => do
    let applies ← rule.appliesTo sheetId?
    let others ← applicable sheetId? rules
    pure (if applies then rule :: others else others)

/-- What is audited: rules, and how sheets are read and named. -/
structure AuditPlan where
  rules : List Rule
  chunkSize : Nat
  submissionId : Option Int
  sheetIds : Option SheetIds

structure Outcome where
  findings : List Finding
  summary : Summary

namespace AuditPlan

/-- Check rules from a place among others on, on one sheet. -/
def auditRules (plan : AuditPlan) (name : String) (stream : ChunkStream FileError) (start : Int)
    (place rules sheets : Nat) : List Rule → Reported (List Finding)
  | [] => pure []
  | rule :: others => do
    Reported.report (Progress.ofRule start place rules sheets)
      ("Sheet " ++ name ++ ": Validating " ++ rule.field)
    let found ← Reported.ofResult
      ((rule.findings plan.chunkSize plan.submissionId stream).mapError .file)
    let more ← plan.auditRules name stream start (place + 1) rules sheets others
    pure (found ++ more)

def rulesFor (plan : AuditPlan) (sheet : SheetSource) : Except CellError (List Rule) :=
  applicable (sheetId? plan.sheetIds sheet) plan.rules

def checkSheet (plan : AuditPlan) (stream : SheetSource → ChunkStream FileError)
    (place sheets : Nat) (sheet : SheetSource) (rules : List Rule) : Reported (List Finding) :=
  if rules.isEmpty then pure []
  else do
    let start := Progress.ofSheet place sheets
    Reported.report start ("Validating sheet: " ++ sheet.name)
    plan.auditRules sheet.name (stream sheet) start 0 rules.length sheets rules

def auditSheet (plan : AuditPlan) (stream : SheetSource → ChunkStream FileError)
    (place sheets : Nat) (sheet : SheetSource) : Reported (List Finding) := do
  let rules ← Reported.ofResult ((plan.rulesFor sheet).mapError .name)
  plan.checkSheet stream place sheets sheet rules

/-- Check sheets from a place among others on. -/
def auditSheets (plan : AuditPlan) (stream : SheetSource → ChunkStream FileError)
    (place sheets : Nat) : List SheetSource → Reported (List Finding)
  | [] => pure []
  | sheet :: others => do
    let found ← plan.auditSheet stream place sheets sheet
    let more ← plan.auditSheets stream (place + 1) sheets others
    pure (found ++ more)

/-- Audit a submission whose sheets are known or cannot be listed. -/
def auditOpened (plan : AuditPlan) (path : Option String)
    (opened : Except FileError (List SheetSource))
    (stream : SheetSource → ChunkStream FileError) : Reported Outcome := do
  Reported.report 0 "Starting validation..."
  let sheets ← Reported.ofResult (opened.mapError fun cause =>
    if cause.isInput then .cannotOpen cause path else .file cause)
  Reported.report 10 "Reading sheets..."
  let findings ← plan.auditSheets stream 0 sheets.length sheets
  Reported.report 90 "Calculating summary..."
  Reported.report 100 "Validation complete"
  pure ⟨findings, Summary.ofFindings findings⟩

def audit (plan : AuditPlan) (folder : Folder) (path : Option String) : Reported Outcome :=
  plan.auditOpened path (folder.openSheets path) fun sheet =>
    (folder.rowsOf sheet).chunked plan.chunkSize

end AuditPlan

end SheetAudit
