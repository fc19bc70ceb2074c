import SheetAudit.Audit.Submission
import SheetAudit.Json.Value

/-!
# Replies

A reply is a success with data or a failure with a message, and has a status.  It is sent in an
envelope with the data or the message.  A status is a code of three digits with its phrase; its name
is its phrase in capital letters with low lines between the words.
-/

namespace SheetAudit.Json

/-! ## Documents of the domain -/

def ofOption {α : Type} (write : α → Json) : Option α → Json
  | some value => write value
  | none => .null

def ofSheetId : SheetId → Json
  | .int value => .int value
  | .text value => .text value

def ofRule (rule : Rule) : Json :=
  .object [
    ("id", ofOption .int rule.id), ("template_id", ofOption .int rule.templateId),
    ("sheet_id", ofOption ofSheetId rule.sheetId), ("rule_type", .text rule.type),
    ("field", .text rule.field), ("condition", .text rule.condition),
    ("error_message", .text rule.errorMessage), ("severity", .text rule.severity.text)]

def ofFinding (finding : Finding) : Json :=
  .object [
    ("submission_id", ofOption .int finding.submissionId),
    ("rule_id", ofOption .int finding.ruleId), ("field", .text finding.field),
    ("value", .text finding.value), ("passed", .bool finding.passed),
    ("severity", .text finding.severity.text), ("error_message", .text finding.errorMessage),
    ("row_number", ofOption .int finding.rowNumber),
    ("column_number", ofOption .int finding.columnNumber)]

def ofSummary (summary : Summary) : Json :=
  .object [
    ("total_rules", .int summary.total), ("passed", .int summary.passed),
    ("failed", .int summary.failed), ("errors", .int summary.errors),
    ("warnings", .int summary.warnings)]

def ofOutcome (outcome : Outcome) : Json :=
  .object [
    ("results", .array (outcome.findings.map ofFinding)),
    ("summary", ofSummary outcome.summary), ("status", .text outcome.summary.status.text)]

def ofTable (table : Table) : Json :=
  .object [
    ("start_row", .int table.startRow), ("end_row", .int table.endRow),
    ("start_col", .int table.startCol), ("end_col", .int table.endCol),
    ("headers", .array (table.headers.map .text)), ("kind", .text table.kind.text)]

def ofSheetTables (sheet : SheetSource) (tables : List Table) : Json :=
  .object [
    ("sheet_index", .int sheet.index), ("sheet_name", .text sheet.name),
    ("tables", .array (tables.map ofTable))]

end SheetAudit.Json

namespace SheetAudit.Service

/-! ## Status codes -/

structure Status where
  code : Nat
  phrase : String
  deriving Repr, DecidableEq

namespace Status

def ok : Status := ⟨200, "OK"⟩

def badRequest : Status := ⟨400, "Bad Request"⟩

def notFound : Status := ⟨404, "Not Found"⟩

def unsupportedMediaType : Status := ⟨415, "Unsupported Media Type"⟩

def internalServerError : Status := ⟨500, "Internal Server Error"⟩

def all : List Status := [
  ⟨100, "Continue"⟩, ⟨101, "Switching Protocols"⟩, ⟨102, "Processing"⟩, ⟨103, "Early Hints"⟩,
  ok, ⟨201, "Created"⟩, ⟨202, "Accepted"⟩, ⟨203, "Non-Authoritative Information"⟩,
  ⟨204, "No Content"⟩, ⟨205, "Reset Content"⟩, ⟨206, "Partial Content"⟩, ⟨207, "Multi-Status"⟩,
  ⟨208, "Already Reported"⟩, ⟨226, "IM Used"⟩,
  ⟨300, "Multiple Choices"⟩, ⟨301, "Moved Permanently"⟩, ⟨302, "Found"⟩, ⟨303, "See Other"⟩,
  ⟨304, "Not Modified"⟩, ⟨305, "Use Proxy"⟩, ⟨307, "Temporary Redirect"⟩,
  ⟨308, "Permanent Redirect"⟩,
  badRequest, ⟨401, "Unauthorized"⟩, ⟨402, "Payment Required"⟩, ⟨403, "Forbidden"⟩, notFound,
  ⟨405, "Method Not Allowed"⟩, ⟨406, "Not Acceptable"⟩, ⟨407, "Proxy Authentication Required"⟩,
  ⟨408, "Request Timeout"⟩, ⟨409, "Conflict"⟩, ⟨410, "Gone"⟩, ⟨411, "Length Required"⟩,
  ⟨412, "Precondition Failed"⟩, ⟨413, "Request Entity Too Large"⟩, ⟨414, "Request-URI Too Long"⟩,
  unsupportedMediaType, ⟨416, "Requested Range Not Satisfiable"⟩, ⟨417, "Expectation Failed"⟩,
  ⟨418, "I'm a Teapot"⟩, ⟨421, "Misdirected Request"⟩, ⟨422, "Unprocessable Entity"⟩,
  ⟨423, "Locked"⟩, ⟨424, "Failed Dependency"⟩, ⟨425, "Too Early"⟩, ⟨426, "Upgrade Required"⟩,
  ⟨428, "Precondition Required"⟩, ⟨429, "Too Many Requests"⟩,
  ⟨431, "Request Header Fields Too Large"⟩, ⟨451, "Unavailable For Legal Reasons"⟩,
  internalServerError, ⟨501, "Not Implemented"⟩, ⟨502, "Bad Gateway"⟩,
  ⟨503, "Service Unavailable"⟩, ⟨504, "Gateway Timeout"⟩, ⟨505, "HTTP Version Not Supported"⟩,
  ⟨506, "Variant Also Negotiates"⟩, ⟨507, "Insufficient Storage"⟩, ⟨508, "Loop Detected"⟩,
  ⟨510, "Not Extended"⟩, ⟨511, "Network Authentication Required"⟩]

def ofCode? (code : Int) : Option Status :=
  all.find? fun status => (status.code : Int) == code

def ofJson? : Json → Option Status
  | .int code => ofCode? code
  | .real (.number code) => code.toInt?.bind ofCode?
  | _ => none

/-- The message for a document that names no status. -/
def unknownMessage (json : Json) : String := json.literal ++ " is not a valid HTTPStatus"

/-- The characters of a name that stand for a character of a phrase. -/
def nameChars (c : Char) : List Char :=
  if c == ' ' || c == '-' then ['_'] else if c.isAlpha then [c.toUpper] else []

def name (status : Status) : String :=
  String.ofList (status.phrase.toList.flatMap nameChars)

/-- A status in short: its code and its phrase. -/
def text (status : Status) : String := toString status.code ++ " " ++ status.phrase

end Status

/-! ## Replies -/

structure Reply where
  success : Bool
  data : Json
  error : Option String
  status : Status
  deriving Repr

/-- The usual ways to refuse a request. -/
inductive Refusal where
  | notFound
  | unsupportedFile
  | invalidInput
  | serverError
  deriving Repr, DecidableEq

def Refusal.status : Refusal → Status
  | .notFound => .notFound
  | .unsupportedFile => .unsupportedMediaType
  | .invalidInput => .badRequest
  | .serverError => .internalServerError

/-- The message of a refusal if no other is given. -/
def Refusal.usualMessage : Refusal → String
  | .notFound => "Submission file not found"
  | .unsupportedFile => "Unsupported file type"
  | .invalidInput => "Invalid input data"
  | .serverError => "Internal server error"

namespace Reply

/-- A reply with a status or, if none is given, the usual one. -/
def make (success : Bool) (data : Json) (error : Option String) (status? : Option Status) :
    Reply :=
  ⟨success, data, error, status?.getD (if success then .ok else .badRequest)⟩

def ok (data : Json) : Reply := make true data none none

def refuse (refusal : Refusal) (message : String) : Reply :=
  make false .null (some message) (some refusal.status)

def errorDocument (reply : Reply) : Json :=
  match reply.error with
  | some message => .text message
  | none => .null

def envelope (reply : Reply) : Json :=
  .object [
    ("success", .bool reply.success), ("status_code", .int reply.status.code),
    ("status", .text reply.status.phrase),
    if reply.success then ("data", reply.data) else ("error", reply.errorDocument)]

/-- The longest data that a short text shows in full. -/
def maxShown : Nat := 100

def shortened (s : String) : String :=
  let cs := s.toList
  if maxShown < cs.length then String.ofList (cs.take (maxShown - 3)) ++ "..." else s

def text (reply : Reply) : String :=
  if reply.success then
    "Success (" ++ reply.status.text ++ "): " ++ shortened reply.data.shown
  else "Failure (" ++ reply.status.text ++ "): " ++ reply.errorDocument.shown

def literal (reply : Reply) : String :=
  "Result(success=" ++ (Json.bool reply.success).literal ++ ", status_code=<HTTPStatus." ++
    reply.status.name ++ ": " ++ toString reply.status.code ++ ">, data=" ++
    reply.data.literal ++ ", error=" ++ reply.errorDocument.literal ++ ")"

end Reply

end SheetAudit.Service
