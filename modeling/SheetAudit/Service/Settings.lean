import SheetAudit.Pieces
import SheetAudit.Service.Lenient
import SheetAudit.Sheet.Reading
import SheetAudit.Text.Casing
import SheetAudit.Text.Character

/-!
# Settings

A setting is taken from the arguments, else from the environment, else from a file of environment
variables; otherwise it has its usual value.  In the environment and in the file its name has a
mark in front and letters of any case.

A file of environment variables binds names to values, one after the other.  A binding is a name,
which the word for an export may precede, and after an equals sign a value: between apostrophes or
quotation marks, where it may span lines and holds escapes, or else up to the end of its line or a
comment.  A name without an equals sign has no value.  What cannot be read is passed over up to the
end of its line.  A value may refer to variables bound before it or given from outside, with a
default for those that are not.
-/

namespace SheetAudit.Service.EnvFile

open Text

/-! ## Files of environment variables -/

/-- A name and the value, if any, that it is bound to. -/
abbrev Entry := String × Option String

def isInlineBlank (c : Char) : Bool := isBlank c && c != '\n'

def skipInline (cs : List Char) : List Char := cs.dropWhile isInlineBlank

def skipLine (cs : List Char) : List Char := (cs.dropWhile (· != '\n')).drop 1

/-! ## Quoted values -/

/-- How many characters a quoted value has up to its closing mark.  A mark after a backslash closes
the value only if no later mark does; `escaped` is the place of the last such mark. -/
def quotedLength? (mark : Char) (place : Nat) (escaped : Option Nat) : List Char → Option Nat
  | [] => escaped
  | '\\' :: c :: rest =>
    if c == mark then quotedLength? mark (place + 2) (some (place + 1)) rest
    else quotedLength? mark (place + 1) escaped (c :: rest)
  | c :: rest => if c == mark then some place else quotedLength? mark (place + 1) escaped rest

def escapeOf? (mark c : Char) : Option Char :=
  if c == '\\' || c == '\x27' then some c
  else if mark == '\x27' then none
  else
    match c with
    | '\x22' => some c
    | 'a' => some '\x07'
    | 'b' => some '\x08'
    | 'f' => some '\x0c'
    | 'n' => some '\n'
    | 'r' => some '\r'
    | 't' => some '\t'
    | 'v' => some '\x0b'
    | _ => none

def unescape (mark : Char) : List Char → List Char
  | [] => []
  | '\\' :: c :: rest =>
    match escapeOf? mark c with
    | some read => read :: unescape mark rest
    | none => '\\' :: unescape mark (c :: rest)
  | c :: rest => c :: unescape mark rest

def readQuoted? (mark : Char) (cs : List Char) : Option (String × List Char) :=
  (quotedLength? mark 0 none cs).map fun length =>
    (String.ofList (unescape mark (cs.take length)), cs.drop (length + 1))

/-! ## Plain values -/

/-- The part of a line in front of a comment: a number sign after a blank starts one. -/
def beforeComment (last : Char) : List Char → List Char
  | [] => []
  | c :: rest => if c == '#' && isBlank last then [] else c :: beforeComment c rest

def readValue? : List Char → Option (String × List Char)
  | '\x27' :: rest => readQuoted? '\x27' rest
  | '\x22' :: rest => readQuoted? '\x22' rest
  | cs =>
    let line := cs.takeWhile (· != '\n')
    some (String.ofList (dropBlankEnd (beforeComment 'x' line)), cs.drop line.length)

/-! ## Entries -/

/-- Drop the word for an export, if blanks follow it. -/
def skipExport (cs : List Char) : List Char :=
  let rest := cs.drop 6
  if "export".toList.isPrefixOf cs && rest.head?.any isInlineBlank then skipInline rest else cs

/-- Read a name: between apostrophes, or up to a blank, an equals sign or a number sign.  A comment
has none. -/
def readName? : List Char → Option (Option String × List Char)
  | '#' :: rest => some (none, '#' :: rest)
  | '\x27' :: rest =>
    let name := rest.takeWhile (· != '\x27')
    let after := rest.drop name.length
    if name.isEmpty || after.isEmpty then none
    else some (some (String.ofList name), after.drop 1)
  | cs =>
    let name := cs.takeWhile fun c => !(isBlank c || c == '=' || c == '#')
    if name.isEmpty then none else some (some (String.ofList name), cs.drop name.length)

/-- What must follow a binding: blanks, a comment, and the end of the line. -/
def readEnd? (cs : List Char) : Option (List Char) :=
  let rest := skipInline cs
  match rest with
  | [] => some []
  | '\n' :: rest => some rest
  | '#' :: _ => some (skipLine rest)
  | _ => none

def readEntry (cs : List Char) : Option Entry × List Char :=
  match readName? (skipExport (cs.dropWhile isBlank)) with
  | none => (none, skipLine (skipExport (cs.dropWhile isBlank)))
  | some (name?, rest) =>
    let rest := skipInline rest
    let (value?, rest, isRead) := match rest with
      | '=' :: rest =>
        match readValue? (skipInline rest) with
        | some (value, rest) => (some value, rest, true)
        | none => (none, skipInline rest, false)
      | _ => (none, rest, true)
    match isRead, readEnd? rest with
    | true, some rest => (name?.map (·, value?), rest)
    | _, _ => (none, skipLine rest)

def readEntries (fuel : Nat) (cs : List Char) : List Entry :=
  match fuel with
  | 0 => []
  | fuel + 1 =>
    if (cs.dropWhile isBlank).isEmpty then []
    else
      let (found, rest) := readEntry cs
      found.toList ++ readEntries fuel rest

/-! ## References -/

def referred (known : List Entry) (name default : List Char) : List Char :=
  match known.lookup (String.ofList name) with
  | some (some value) => value.toList
  | some none => []
  | none => default

/-- The name and the default of a reference after its opening brace, and how many characters they
take with the closing brace. -/
def reference? (cs : List Char) : Option (List Char × List Char × Nat) :=
  let name := cs.takeWhile fun c => c != '\x7d' && c != ':'
  match cs.drop name.length with
  | '\x7d' :: _ => some (name, [], name.length + 1)
  | ':' :: '-' :: rest =>
    let default := rest.takeWhile (· != '\x7d')
    if (rest.drop default.length).isEmpty then none
    else some (name, default, name.length + 2 + default.length + 1)
  | _ => none

/-- A value with its references replaced; `skip` characters belong to a reference already read. -/
def expand (known : List Entry) (skip : Nat) : List Char → List Char
  | [] => []
  | c :: rest =>
    match skip with
    | skip + 1 => expand known skip rest
    | 0 =>
      match c, rest with
      | '$', '\x7b' :: inner =>
        match reference? inner with
        | some (name, default, length) =>
          referred known name default ++ expand known (length + 1) rest
        | none => c :: expand known 0 rest
      | _, _ => c :: expand known 0 rest

/-- Bind a name: in the place of an old binding, otherwise last. -/
def bindName (entry : Entry) : List Entry → List Entry
  | [] => [entry]
  | other :: others =>
    if other.1 == entry.1 then entry :: others else other :: bindName entry others

/-- Add an entry to those bound so far, its value expanded. -/
def addEntry (given bound : List Entry) (entry : Entry) : List Entry :=
  let value? := entry.2.map fun value =>
    String.ofList (expand (bound ++ given) 0 value.toList)
  bindName (entry.1, value?) bound

/-- The bindings of a text; variables that are given from outside can be referred to. -/
def ofText (given : List (String × String)) (text : String) : List Entry :=
  let cs := unifyNewlines text.toList
  let given := given.map fun (name, value) => (name, some value)
  (readEntries (cs.length + 1) cs).foldl (addEntry given) []

end SheetAudit.Service.EnvFile

namespace SheetAudit.Service

/-! ## Settings -/

structure Settings where
  reading : ReadOptions
  uploadDir : String
  logDir : String
  logLevel : String

namespace Settings

/-- The settings of a service whose directories lie under a base. -/
def usual (base : String) : Settings :=
  ⟨.default, base ++ "/uploads", base ++ "/logs", "INFO"⟩

/-- What the names of settings start with in an environment, in small letters. -/
def mark : String := "submission_validator_"

def positiveOf (json : Json) : Checked { n : Int // 0 < n } := do
  let n ← intOf json
  if h : 0 < n then pure ⟨n, h⟩ else .fail .valueError

/-- The value that the last of some variables with a name, in letters of any case, is given. -/
def valueIn? (name : String) (bindings : List EnvFile.Entry) : Option String :=
  (bindings.reverse.find? fun entry => Text.lower entry.1 == mark ++ name).bind (·.2)

/-- The document that sets a setting, if there is one. -/
def source? (name : String) (arguments : List (String × Json))
    (environment file : List EnvFile.Entry) : Option Json :=
  (arguments.lookup name).or
    (((valueIn? name environment).or (valueIn? name file)).map Json.text)

/-- A setting, or its usual value if nothing sets it. -/
def setting {α : Type} (name : String) (usual : α) (read : Json → Checked α)
    (arguments : List (String × Json)) (environment file : List EnvFile.Entry) : Checked α :=
  match source? name arguments environment file with
  | some json => Checked.under (.name name) (read json)
  | none => pure usual

def ofParts (chunkSize vertical matrix : { n : Int // 0 < n })
    (uploadDir logDir logLevel : String) : Settings :=
  ⟨⟨chunkSize.1.toNat, vertical.1, matrix.1, by omega⟩, uploadDir, logDir, Text.upper logLevel⟩

def ofSources (base : String) (arguments : List (String × Json))
    (environment : List (String × String)) (text : String) : Checked Settings :=
  let file := EnvFile.ofText environment text
  let environment := environment.map fun (name, value) => (name, some value)
  let usual := usual base
  let number := fun (name : String) (value : { n : Int // 0 < n }) =>
    setting name value positiveOf arguments environment file
  let word := fun (name value : String) => setting name value textOf arguments environment file
  (pure ofParts : Checked _)
    |>.andAlso (number "chunk_size" ⟨1000, by decide⟩)
    |>.andAlso (number "vertical_lookahead" ⟨50, by decide⟩)
    |>.andAlso (number "matrix_lookahead" ⟨100, by decide⟩)
    |>.andAlso (word "upload_dir" usual.uploadDir)
    |>.andAlso (word "log_dir" usual.logDir)
    |>.andAlso (word "log_level" usual.logLevel)

end Settings

end SheetAudit.Service
