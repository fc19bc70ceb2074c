import SheetAudit.Address
import SheetAudit.Rule.Verdict

/-!
# Findings

A finding is the outcome of a rule on one cell, with the place and the text of the cell.  A rule
that cannot be applied at all has one failed finding without a place.

A summary counts findings by outcome, and failed ones by severity.  The status of a submission
follows from it: an error rejects it, and a warning asks for a review.
-/

namespace SheetAudit

/-- The outcome of a rule on a cell; rows and columns are numbered from 1. -/
structure Finding where
  submissionId : Option Int
  ruleId : Option Int
  field : String
  value : String
  passed : Bool
  severity : Severity
  errorMessage : String
  rowNumber : Option Int
  columnNumber : Option Int
  deriving Repr, DecidableEq

inductive CheckError where
  | verdict (cause : VerdictError)
  | address (cause : AddressError)
  | cell (cause : CellError)
  deriving Repr, DecidableEq

def CheckError.message : CheckError → String
  | .verdict cause => cause.message
  | .address cause => cause.message
  | .cell cause => cause.message

def shownEach : List Cell → Except CellError (List String)
  | [] => pure []
  | cell :: cells => do
    let shown ← cell.shown
    let others ← shownEach cells
    pure (shown :: others)

/-- The text of a value in a finding; the cells of a list stand between commas. -/
def shownValue : Cell → Except CellError String
  | .list items => do
    let shown ← shownEach items
    pure (Cell.commaSeparated shown)
  | cell => cell.shown

namespace Rule

/-- The text of the place of a finding: the address of the cell or else the field of the rule. -/
def placeText (rule : Rule) : Option Address → Except AddressError String
  | some address => address.text
  | none => pure rule.field

def check (rule : Rule) (address : Option Address) (value : Cell) (submissionId : Option Int) :
    Except CheckError Finding := do
  let passed ← (Verdict.evaluate (some rule.type) (some rule.condition) value).mapError .verdict
  let field ← (rule.placeText address).mapError .address
  let shown ← (shownValue value).mapError .cell
  pure {
    submissionId, ruleId := rule.id, field, value := shown, passed, severity := rule.severity
    errorMessage := if passed then "" else rule.errorMessage
    rowNumber := address.map (·.row + 1), columnNumber := address.map (·.col + 1) }

/-- The finding of a rule that cannot be applied. -/
def failedFinding (rule : Rule) (submissionId : Option Int) : Finding := {
  submissionId, ruleId := rule.id, field := rule.field, value := "", passed := false
  severity := rule.severity, errorMessage := rule.errorMessage
  rowNumber := none, columnNumber := none }

end Rule

/-! ## Summaries -/

structure Summary where
  total : Nat
  passed : Nat
  failed : Nat
  errors : Nat
  warnings : Nat
  deriving Repr, DecidableEq

inductive Status where
  | passed
  | needsReview
  | failed
  deriving Repr, DecidableEq

def Status.text : Status → String
  | .passed => "passed"
  | .needsReview => "needs_review"
  | .failed => "failed"

namespace Summary

def zero : Summary := ⟨0, 0, 0, 0, 0⟩

def add (summary : Summary) (finding : Finding) : Summary :=
  let summary := { summary with total := summary.total + 1 }
  if finding.passed then { summary with passed := summary.passed + 1 }
  else
    let summary := { summary with failed := summary.failed + 1 }
    match finding.severity with
    | .error => { summary with errors := summary.errors + 1 }
    | .warning => { summary with warnings := summary.warnings + 1 }

def ofFindings (findings : List Finding) : Summary := findings.foldl add zero

def status (summary : Summary) : Status :=
  if 0 < summary.errors then .failed
  else if 0 < summary.warnings then .needsReview
  else .passed

end Summary

end SheetAudit
