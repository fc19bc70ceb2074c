import SheetAudit.Cell

/-!
# Rules

A rule says what the cells of a field must satisfy: its type says how its condition is read, its
severity how much a failure weighs.  The type is a text; a rule of an unknown type always fails.
-/

namespace SheetAudit

inductive Severity where
  | error
  | warning
  deriving Repr, DecidableEq

def Severity.text : Severity → String
  | .error => "error"
  | .warning => "warning"

def Severity.ofText? : String → Option Severity
  | "error" => some .error
  | "warning" => some .warning
  | _ => none

theorem Severity.ofText?_eq_some_iff {word : String} {severity : Severity} :
    Severity.ofText? word = some severity ↔ word = severity.text := by
  constructor
  · intro hword
    unfold Severity.ofText? at hword
    split at hword <;> cases hword <;> rfl
  · rintro rfl
    cases severity <;> rfl

/-- The ways in which a condition can be read. -/
inductive RuleType where
  | required
  | format
  | range
  | custom
  deriving Repr, DecidableEq

def RuleType.text : RuleType → String
  | .required => "required"
  | .format => "format"
  | .range => "range"
  | .custom => "custom"

def RuleType.ofText? : String → Option RuleType
  | "required" => some .required
  | "format" => some .format
  | "range" => some .range
  | "custom" => some .custom
  | _ => none

theorem RuleType.ofText?_eq_some_iff {word : String} {type : RuleType} :
    RuleType.ofText? word = some type ↔ word = type.text := by
  constructor
  · intro hword
    unfold RuleType.ofText? at hword
    split at hword <;> cases hword <;> rfl
  · rintro rfl
    cases type <;> rfl

theorem RuleType.bind_ofText?_eq_some_iff {word? : Option String} {type : RuleType} :
    word?.bind RuleType.ofText? = some type ↔ word? = some type.text := by
  cases word? with
  | none => simp
  | some word => simp [RuleType.ofText?_eq_some_iff]

/-- What names a sheet of a template: a number or a text. -/
inductive SheetId where
  | int (value : Int)
  | text (value : String)
  deriving Repr, DecidableEq

/-- The text of a sheet's name; a number has one unless it is too long. -/
def SheetId.shown : SheetId → Except CellError String
  | .int value => intText value
  | .text value => pure value

structure Rule where
  id : Option Int
  templateId : Option Int
  sheetId : Option SheetId
  type : String
  field : String
  condition : String
  errorMessage : String
  severity : Severity
  deriving Repr, DecidableEq

end SheetAudit
