import SheetAudit.Rectangle
import SheetAudit.Text.Casing

/-!
# Rule fields

The field of a rule names a cell by its address, a range by two addresses with a colon between
them, or a column by the header in the first row.  A cell and a range are rectangles on their
own; a column becomes one when the header row and the rows are known.
-/

namespace SheetAudit

open Text

/-- What a rule looks at, with the trimmed text that says so. -/
inductive Field where
  | cell (raw : String) (address : Address)
  | range (raw : String) (start stop : Address)
  | column (name : String)
  deriving Repr, DecidableEq

inductive FieldError where
  | missing
  | blank (field : String)
  | invalidRange (field : String)
  | needsHeader (name : String)
  | needsRows (name : String)
  | columnNotFound (name : String)
  | sheetIsEmpty (name field : String)
  | address (cause : AddressError)
  | cell (cause : CellError)
  deriving Repr, DecidableEq

namespace FieldError

def message : FieldError → String
  | .missing | .blank _ => "Rule field is empty"
  | .invalidRange field => "Invalid cell range: " ++ field
  | .needsHeader _ => "Column fields need a header row to resolve"
  | .needsRows _ => "Column fields need a row span to resolve"
  | .columnNotFound name => "Column '" ++ name ++ "' not found in header row"
  | .sheetIsEmpty name _ => "Column '" ++ name ++ "' not found: sheet is empty"
  | .address cause => cause.message
  | .cell cause => cause.message

/-- The field that an error is about, if the error is about a field as a whole. -/
def field? : FieldError → Option String
  | .missing | .address _ | .cell _ => none
  | .blank field | .invalidRange field | .needsHeader field | .needsRows field
  | .columnNotFound field | .sheetIsEmpty _ field => some field

end FieldError

def splitColon? (cs : List Char) : Option (List Char × List Char) :=
  let before := cs.takeWhile (· != ':')
  match cs.dropWhile (· != ':') with
  | [] => none
  | _ :: after => some (before, after)

namespace Field

def ofText (field : String) : Except FieldError Field := do
  let text := trim field
  let address := fun (cs : List Char) => (Address.ofText (String.ofList cs)).mapError .address
  match splitColon? text.toList with
  | some (before, after) =>
    let start ← address before
    let stop ← address after
    match start, stop with
    | some start, some stop => pure (.range text start stop)
    | _, _ => throw (.invalidRange field)
  | none =>
    match ← address text.toList with
    | some address => pure (.cell text address)
    | none => if text.isEmpty then throw (.blank field) else pure (.column text)

def ofText? : Option String → Except FieldError Field
  | none => throw .missing
  | some field => ofText field

def raw : Field → String
  | .cell raw _ => raw
  | .range raw _ _ => raw
  | .column name => name

def rectangle? : Field → Option Rectangle
  | .cell _ address => some (.ofCorners address address)
  | .range _ start stop => some (.ofCorners start stop)
  | .column _ => none

/-- How many cells a field has, if that is known without its sheet. -/
def count? (field : Field) : Option Nat := field.rectangle?.map Rectangle.count

/-- Whether no cell of a field lies below a row; a column goes down as far as its sheet. -/
def endsBy (field : Field) (row : Int) : Bool :=
  field.rectangle?.any fun cells => cells.lastRow ≤ row

def window (field : Field) (rows : RowWindow) : Except FieldError Rectangle :=
  match field.rectangle? with
  | some rectangle => pure (rectangle.clip rows)
  | none => throw (.needsHeader field.raw)

def references (field : Field) (rows : RowWindow) : Except FieldError (List Address) :=
  (field.window rows).map Rectangle.cells

end Field

/-! ## Columns by their headers -/

/-- The form in which headers and column names are compared. -/
def headerKey (name : String) : String := lower (trim name)

def findHeader (wanted : String) (place : Nat) : List Cell → Except CellError (Option Nat)
  | [] => pure none
  | header :: headers =>
    if header.isEmpty then findHeader wanted (place + 1) headers
    else do
      let shown ← header.shown
      if headerKey shown == wanted then pure (some place)
      else findHeader wanted (place + 1) headers

def findColumn (headers : List Cell) (name : String) : Except CellError (Option Nat) :=
  findHeader (headerKey name) 0 headers

namespace Field

/-- The cells of a field inside a window of rows.  A column has the rows below its header, and
needs a last row. -/
def resolve (field : Field) (headers : List Cell) (rows : RowWindow) :
    Except FieldError Rectangle :=
  match field with
  | .column name => do
    match ← (findColumn headers name).mapError .cell with
    | none => throw (.columnNotFound name)
    | some col =>
      match rows.last with
      | none => throw (.needsRows name)
      | some last => pure ⟨max rows.first 1, last, col, col⟩
  | _ => field.window rows

end Field

/-- A row's cell in a column; no cell beyond the end of a row. -/
def rowCell (row : List Cell) (col : Int) : Cell :=
  if col < 0 then .empty else row[col.toNat]?.getD .empty

/-- The cells of a field in a sheet whose first row holds the headers. -/
def columnValues (field : Option String) (rows : List (List Cell)) :
    Except FieldError (List Cell) := do
  let field ← Field.ofText? field
  let resolved ← field.resolve (rows.head?.getD []) (.span 0 rows.length)
  pure (resolved.cells.map fun address =>
    rowCell (rows[address.row.toNat]?.getD []) address.col)

end SheetAudit
