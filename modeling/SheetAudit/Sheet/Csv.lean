import SheetAudit.Sheet.Chunk
import SheetAudit.Text.Utf8

/-!
# Comma-separated records

A text of comma-separated records is read character by character.  A record ends at a line feed, at
a carriage return or at both; a field ends at a comma or with its record.  A quotation mark at the
start of a field opens quotes, inside of which every character belongs to the field and two marks
stand for one; what follows the closing mark is appended to the field.  A field is cut at its first
null character.

The first record sets the width of the sheet: shorter records are padded, a longer one is a fault.
A text that starts with an empty line has no rows at all.
-/

namespace SheetAudit.Csv

open Text

inductive Fault where
  | notUtf8 (cause : Utf8Error)
  | tooWide (width line seen : Nat)
  | unclosed (row : Nat)
  deriving Repr, DecidableEq

def Fault.message : Fault → String
  | .notUtf8 cause => cause.message
  | .tooWide width line seen =>
    "Error tokenizing data. C error: Expected " ++ toString width ++ " fields in line " ++
      toString line ++ ", saw " ++ toString seen ++ "\n"
  | .unclosed row =>
    "Error tokenizing data. C error: EOF inside string starting at row " ++ toString row

/-! ## Records -/

inductive Place where
  | recordStart
  | fieldStart
  | plain
  | quotes
  | markInQuotes
  | afterReturn
  deriving Repr, DecidableEq

/-- A reader: the field and the fields of its record are held in reverse, as are the records. -/
structure Reader where
  place : Place
  field : List Char
  fields : List String
  records : List (List String)
  deriving Repr

namespace Reader

def start : Reader := ⟨.recordStart, [], [], []⟩

def push (r : Reader) (c : Char) : Reader := { r with field := c :: r.field }

def endField (r : Reader) : Reader :=
  let field := String.ofList (r.field.reverse.takeWhile (· != '\x00'))
  { r with field := [], fields := field :: r.fields }

def endRecord (r : Reader) : Reader :=
  ⟨.recordStart, [], [], r.fields.reverse :: r.records⟩

/-- Take a character that belongs to a plain field or ends it. -/
def takePlain (r : Reader) (c : Char) : Reader :=
  if c == '\n' then r.endField.endRecord
  else if c == '\r' then { r.endField with place := .afterReturn }
  else if c == ',' then { r.endField with place := .fieldStart }
  else { r.push c with place := .plain }

def takeFirst (r : Reader) (c : Char) : Reader :=
  if c == '\x22' then { r with place := .quotes } else r.takePlain c

def takeOpening (r : Reader) (c : Char) : Reader :=
  if c == '\n' then r.endRecord
  else if c == '\r' then { r with place := .afterReturn }
  else r.takeFirst c

def take (r : Reader) (c : Char) : Reader :=
  match r.place with
  | .recordStart => r.takeOpening c
  | .fieldStart => r.takeFirst c
  | .plain => r.takePlain c
  | .quotes => if c == '\x22' then { r with place := .markInQuotes } else r.push c
  | .markInQuotes => if c == '\x22' then { r.push c with place := .quotes } else r.takePlain c
  | .afterReturn => if c == '\n' then r.endRecord else r.endRecord.takeOpening c

/-- The reader after the last character; quotes stay open. -/
def finish (r : Reader) : Reader :=
  match r.place with
  | .recordStart | .quotes => r
  | .fieldStart | .plain | .markInQuotes => r.endField.endRecord
  | .afterReturn => r.endRecord

end Reader

/-- The records of a list of characters, and the number of the record, from 0, in which quotes stay
open. -/
def records (cs : List Char) : List (List String) × Option Nat :=
  let r := (cs.foldl Reader.take .start).finish
  (r.records.reverse, if r.place = .quotes then some r.records.length else none)

/-! ## Rows -/

def rowOf (width : Nat) (fields : List String) : Row :=
  fields.map (fun field => (Cell.text field).normalized) ++
    List.replicate (width - fields.length) .empty

/-- The rows of records from a line on, up to a record that is too wide. -/
def rowsFrom (width line : Nat) : List (List String) → RowStream Fault
  | [] => .ofRows []
  | fields :: others =>
    if width < fields.length then .broken (.tooWide width line fields.length)
    else
      let rest := rowsFrom width (line + 1) others
      ⟨rowOf width fields :: rest.rows, rest.fault?⟩

def rowsOf (cs : List Char) : RowStream Fault :=
  let (records, open?) := records cs
  match records.head? with
  | some [] => .ofRows []
  | first =>
    let rest := rowsFrom (first.getD []).length 1 records
    ⟨rest.rows, rest.fault?.or (open?.map .unclosed)⟩

/-- Drop a mark of the byte order in front of the first record. -/
def dropMark : List Char → List Char
  | '\ufeff' :: cs => cs
  | cs => cs

def rowsOfBytes (bytes : List UInt8) : RowStream Fault :=
  match decodeInPieces bytes with
  | .error cause => .broken (.notUtf8 cause)
  | .ok cs => rowsOf (dropMark cs)

end SheetAudit.Csv
