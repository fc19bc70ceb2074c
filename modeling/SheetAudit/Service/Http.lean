import SheetAudit.Json.Reader
import SheetAudit.RuleText
import SheetAudit.Service.Reply
import SheetAudit.Service.Request
import SheetAudit.Service.Settings

/-!
# The service

A request is answered by the endpoint at its path, which takes one method.  A path with slashes too
many at its end is taken without them.  Requests with a body that does not fit are answered with
the problems of the body, all others with a document.  A path that starts with the name of the
uploads stands for a file below the upload directory; any other path stands for itself.
-/

namespace SheetAudit.Service

/-! ## Paths of uploads -/

/-- What the path of an upload starts with. -/
def uploadMark : String := "uploads/"

/-- A path below a directory; a path that starts at the root stays as it is. -/
def joinPath (directory path : String) : String :=
  if path.startsWith "/" then path
  else if directory.isEmpty || directory.endsWith "/" then directory ++ path
  else directory ++ "/" ++ path

def resolveUpload (directory path : String) : String :=
  if path.startsWith uploadMark then
    joinPath directory (String.ofList (path.toList.drop uploadMark.length))
  else path

/-! ## Requests and responses -/

structure Request where
  method : String
  url : String
  body : Option String

inductive Response where
  | document (code : Nat) (body : Json)
  | problems (problems : List Problem)

/-! ## Endpoints -/

inductive Endpoint where
  | audit
  | parseRules
  | exampleRules
  | tables
  | health
  deriving Repr, DecidableEq

def Endpoint.ofPath? : String → Option Endpoint
  | "/validate" => some .audit
  | "/rules/parse" => some .parseRules
  | "/rules/example" => some .exampleRules
  | "/tables" => some .tables
  | "/health" => some .health
  | _ => none

def Endpoint.method : Endpoint → String
  | .audit | .parseRules | .tables => "POST"
  | .exampleRules | .health => "GET"

/-- The path of a URL, without slashes at its end. -/
def pathOfUrl (url : String) : String :=
  let path := url.toList.takeWhile fun c => c != '?' && c != '#'
  String.ofList (path.reverse.dropWhile (· == '/')).reverse

/-! ## Bodies -/

/-- How deep the document of a body may nest. -/
def bodyLevels : Nat := 960

/-- The response to a body that is beyond the limits of the reader. -/
def unreadableBody : Response :=
  .document 400 (.object [("detail", .text "There was an error parsing the body")])

/-- The characters of a body less a mark of the byte order. -/
def bodyChars (body : String) : List Char :=
  match body.toList with
  | '\ufeff' :: cs => cs
  | cs => cs

def readBody (body : Option String) : Except Response Json :=
  let text := body.getD ""
  if text.isEmpty then throw (.problems [⟨[.name "body"], .missing⟩])
  else
    match Json.read bodyLevels (bodyChars text) with
    | .ok json => pure json
    | .error e =>
      if e.fault.isLimit then throw unreadableBody
      else throw (.problems [⟨[.name "body", .index e.position], .jsonInvalid⟩])

def send (reply : Reply) : Response := .document reply.status.code reply.envelope

/-- The response to a body, if it fits what is expected. -/
def answerBody {α : Type} (read : Json → Checked α) (answer : α → Reply) (body : Option String) :
    Response :=
  match readBody body with
  | .error response => response
  | .ok json =>
    match Checked.under (.name "body") (read json) with
    | .error problems => .problems problems
    | .ok request => send (answer request)

/-! ## Answers -/

def noPathMessage : String := "No file path provided"

/-- The reply to an error in a file; `work` says what was done when it was met. -/
def fileRefusal (work : String) (e : FileError) : Reply :=
  match e with
  | .missing _ => .refuse .notFound e.message
  | _ =>
    if e.isFatal then .refuse .invalidInput e.message
    else .refuse .serverError (work ++ " error: " ++ e.message)

def auditRefusal : AuditError → Reply
  | .cannotOpen (.unsupported ending path) _ =>
    .refuse .unsupportedFile (FileError.unsupported ending path).message
  | .cannotOpen cause _ => .refuse .invalidInput cause.message
  | .file cause => fileRefusal "Validation" cause
  | .name cause => .refuse .serverError ("Validation error: " ++ cause.message)

def answerAudit (settings : Settings) (folder : Folder) (request : AuditRequest) : Reply :=
  match request.path with
  | none => .refuse .notFound noPathMessage
  | some path =>
    let plan : AuditPlan :=
      ⟨request.rules, settings.reading.chunkSize, request.submissionId, request.sheetIds⟩
    match (plan.audit folder (some (resolveUpload settings.uploadDir path))).result with
    | .ok outcome => .ok (.ofOutcome outcome)
    | .error e => auditRefusal e

def answerRules (request : RulesRequest) : Reply :=
  let rules := (RuleText.Draft.ofText request.text).map (·.bind request.templateId none)
  if rules.isEmpty then .refuse .invalidInput "No valid rules found in the provided text"
  else
    .ok (.object [
      ("imported", .int rules.length), ("rules", .array (rules.map .ofRule))])

def tablesOfSheets (settings : Settings) (folder : Folder) :
    List SheetSource → Except TablesError (List Json)
  | [] => pure []
  | sheet :: sheets => do
    let tables ← folder.tablesOf settings.reading sheet
    let others ← tablesOfSheets settings folder sheets
    pure (.ofSheetTables sheet tables :: others)

def tablesRefusal : TablesError → Reply
  | .file (.unsupported ending path) =>
    .refuse .unsupportedFile (FileError.unsupported ending path).message
  | .file cause => fileRefusal "Table detection" cause
  | .scan cause => .refuse .serverError ("Table detection error: " ++ cause.message)

def answerTables (settings : Settings) (folder : Folder) (request : TablesRequest) : Reply :=
  match request.path with
  | none => .refuse .notFound noPathMessage
  | some path =>
    let found := do
      let sheets ← (folder.openSheets (some (resolveUpload settings.uploadDir path))).mapError
        TablesError.file
      tablesOfSheets settings folder sheets
    match found with
    | .ok documents => .ok (.array documents)
    | .error e => tablesRefusal e

def Endpoint.respond (endpoint : Endpoint) (settings : Settings) (folder : Folder)
    (body : Option String) : Response :=
  match endpoint with
  | .audit => answerBody AuditRequest.ofJson (answerAudit settings folder) body
  | .parseRules => answerBody RulesRequest.ofJson answerRules body
  | .exampleRules => .document 200 (.object [("rules_text", .text RuleText.exampleText)])
  | .tables => answerBody TablesRequest.ofJson (answerTables settings folder) body
  | .health => .document 200 (.object [("status", .text "ok")])

def respond (settings : Settings) (folder : Folder) (request : Request) : Response :=
  match Endpoint.ofPath? (pathOfUrl request.url) with
  | none => .document 404 (.object [("detail", .text "Not Found")])
  | some endpoint =>
    if String.ofList (request.method.toList.map Char.toUpper) == endpoint.method then
      endpoint.respond settings folder request.body
    else .document 405 (.object [("detail", .text "Method Not Allowed")])

end SheetAudit.Service
