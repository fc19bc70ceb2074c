import SheetAudit.Pieces
import SheetAudit.Rule.Basic
import SheetAudit.Sheet.Folder
import SheetAudit.Text.Casing
import SheetAudit.Text.Character
import SheetAudit.Text.Utf8

/-!
# Rules texts

A rules text is a sequence of blocks of lines, with lines of three dashes between them.  Blocks of
blank lines are left out.

A line of a block gives a key a value: the key stands before the first colon, in letters of any
case, and the last line of a key counts.  Comments, lines without a colon and unknown keys are
passed over.  A block drafts a rule if its field, its condition and its error message have values
and its type is known; a severity that is not known is that of an error.

The text of a file is read as UTF-8 from the first byte on, and all of its line ends are line
feeds afterwards.
-/

namespace SheetAudit.RuleText

open Text

/-! ## Blocks -/

def isSeparator (line : String) : Bool := trim line == "---"

def isBlankLine (line : String) : Bool := line.toList.all isBlank

def splitLines : List String → List (List String)
  | [] => [[]]
  | line :: lines =>
    if isSeparator line then [] :: splitLines lines
    else
      match splitLines lines with
      | [] => [[line]]
      | block :: blocks => (line :: block) :: blocks

/-- The blocks of a text that show something. -/
def blocks (text : String) : List (List String) :=
  (splitLines (Text.lines text)).filter (·.any (!isBlankLine ·))

/-! ## Drafts -/

inductive Key where
  | field
  | rule
  | condition
  | error
  | severity
  deriving Repr, DecidableEq

def Key.text : Key → String
  | .field => "FIELD"
  | .rule => "RULE"
  | .condition => "CONDITION"
  | .error => "ERROR"
  | .severity => "SEVERITY"

/-- The key that a word names, in capital letters. -/
def Key.ofText? : String → Option Key
  | "FIELD" => some .field
  | "RULE" => some .rule
  | "CONDITION" => some .condition
  | "ERROR" => some .error
  | "SEVERITY" => some .severity
  | _ => none

theorem Key.ofText?_eq_some_iff {word : String} {key : Key} :
    Key.ofText? word = some key ↔ word = key.text := by
  constructor
  · intro hword
    unfold Key.ofText? at hword
    split at hword <;> cases hword <;> rfl
  · rintro rfl
    cases key <;> rfl

/-- The key and the value that a line gives it, if it gives one. -/
def entry? (line : String) : Option (Key × String) :=
  let cs := trimChars line.toList
  match cs, cs.dropWhile (· != ':') with
  | [], _ | _, [] => none
  | first :: _, _ :: value =>
    if first == '#' then none
    else
      (Key.ofText? (upper (trim (String.ofList (cs.takeWhile (· != ':')))))).map fun key =>
        (key, trim (String.ofList value))

/-- The value that the last line of a key gives it. -/
def value? (key : Key) : List String → Option String
  | [] => none
  | line :: lines =>
    match value? key lines with
    | some value => some value
    | none =>
      match entry? line with
      | some (found, value) => if found = key then some value else none
      | none => none

/-- A rule before it is bound to a template. -/
structure Draft where
  type : RuleType
  field : String
  condition : String
  errorMessage : String
  severity : Severity
  deriving Repr, DecidableEq

/-- The value of a key, if it is not empty. -/
def filled? (key : Key) (lines : List String) : Option String :=
  (value? key lines).filter (!·.isEmpty)

namespace Draft

def ofLines? (lines : List String) : Option Draft := do
  let field ← filled? .field lines
  let type ← (filled? .rule lines).bind RuleType.ofText?
  let condition ← filled? .condition lines
  let errorMessage ← filled? .error lines
  let severity := ((value? .severity lines).bind Severity.ofText?).getD .error
  pure ⟨type, field, condition, errorMessage, severity⟩

def ofText (text : String) : List Draft :=
  (blocks text).filterMap ofLines?

/-- The rule that a draft becomes for a template and a sheet. -/
def bind (templateId : Option Int) (sheetId : Option SheetId) (draft : Draft) : Rule := {
  id := none, templateId, sheetId, type := draft.type.text, field := draft.field
  condition := draft.condition, errorMessage := draft.errorMessage, severity := draft.severity }

end Draft

/-! ## Files -/

inductive FileFault where
  | path (cause : PathFault)
  | notUtf8 (cause : Text.Utf8Error)
  deriving Repr, DecidableEq

def FileFault.message (path : String) : FileFault → String
  | .path cause => cause.message path
  | .notUtf8 cause => cause.message

def FileFault.report (fault : FileFault) (path : String) : String :=
  "Failed to parse validation rules file: " ++ fault.message path

def textOfBytes (bytes : List UInt8) : Except FileFault String := do
  let cs ← (Text.decode bytes).mapError .notUtf8
  pure (String.ofList (Text.unifyNewlines cs))

def Draft.ofFile (folder : Folder) (path : String) : Except FileFault (List Draft) := do
  let bytes ← (folder.bytesAt path).mapError .path
  let text ← textOfBytes bytes
  pure (Draft.ofText text)

/-! ## An example -/

/-- A rules text with a rule of every type. -/
def exampleText : String :=
  "# Validation Rules Example\n" ++
  "# Each rule block is separated by a line containing only three dashes\n" ++
  "\n" ++
  "FIELD: company_name\n" ++
  "RULE: required\n" ++
  "CONDITION: not_empty\n" ++
  "ERROR: Company name is required\n" ++
  "SEVERITY: error\n" ++
  "---\n" ++
  "FIELD: email\n" ++
  "RULE: format\n" ++
  "CONDITION: ^[^\\s@]+@[^\\s@]+\\.[^\\s@]+$\n" ++
  "ERROR: Invalid email format\n" ++
  "SEVERITY: error\n" ++
  "---\n" ++
  "FIELD: revenue\n" ++
  "RULE: range\n" ++
  "CONDITION: min:0,max:1000000000\n" ++
  "ERROR: Revenue must be between 0 and 1 billion\n" ++
  "SEVERITY: error\n" ++
  "---\n" ++
  "FIELD: A1:A10\n" ++
  "RULE: required\n" ++
  "CONDITION: not_empty\n" ++
  "ERROR: Cells A1 to A10 must not be empty\n" ++
  "SEVERITY: error\n" ++
  "---\n" ++
  "FIELD: B5\n" ++
  "RULE: custom\n" ++
  "CONDITION: value > 100 AND value < 1000\n" ++
  "ERROR: Value in B5 must be between 100 and 1000\n" ++
  "SEVERITY: warning\n"

end SheetAudit.RuleText
