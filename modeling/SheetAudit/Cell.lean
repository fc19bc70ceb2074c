import SheetAudit.Calendar
import SheetAudit.Number.Decimal
import SheetAudit.Number.Shortest
import SheetAudit.Text.Quoted

/-!
# Cells

A cell holds nothing, a truth value, a number of one of three kinds, a text, or a value of the
calendar; a whole column handed to a rule is a list of cells.  Wherever a cell came from, it is
read through four functions: `normalized`, which sets empty texts and NaNs to nothing, `isBlank`,
which sees layout only, `shown`, the text that patterns match and reports show, and `number`.

The text of a whole number is limited in length, and a whole number beyond the range of a double
has no number; so `shown` and `number` can fail.
-/

namespace SheetAudit

open Text

inductive Cell where
  | empty
  | bool (value : Bool)
  | int (value : Int)
  | double (value : Double)
  | decimal (value : Decimal)
  | text (value : String)
  | date (value : Date)
  | dateTime (value : DateTime)
  | clock (value : ClockTime)
  | duration (value : Duration)
  | list (items : List Cell)
  deriving Repr, Inhabited

/-- Why a cell has no text or no number. -/
inductive CellError where
  | tooManyDigits
  | intTooLarge
  | signalingNaN
  deriving Repr, DecidableEq

def CellError.message : CellError → String
  | .tooManyDigits =>
    "Exceeds the limit (4300 digits) for integer string conversion; " ++
      "use sys.set_int_max_str_digits() to increase the limit"
  | .intTooLarge => "int too large to convert to float"
  | .signalingNaN => "cannot convert signaling NaN to float"

/-- The text of a whole number, if it is not too long. -/
def intText (n : Int) : Except CellError String :=
  let digits := decimalChars n.natAbs
  if digits.length ≤ maxIntDigits then
    pure (String.ofList (if n < 0 then '-' :: digits else digits))
  else throw .tooManyDigits

namespace Cell

/-- The cell with an empty text or a NaN taken as nothing. -/
def normalized : Cell → Cell
  | .double .nan => .empty
  | .text value => if value.isEmpty then .empty else .text value
  | cell => cell

def isEmpty (cell : Cell) : Bool :=
  match cell.normalized with
  | .empty => true
  | _ => false

/-- Whether a cell shows nothing: it is empty or a text of blanks. -/
def isBlank (cell : Cell) : Bool :=
  match cell.normalized with
  | .empty => true
  | .text value => value.toList.all Text.isBlank
  | _ => false

/-! ## Constructor notation

Inside the text of a list every item is written as the expression that builds it.
-/

def commaSeparated (words : List String) : String :=
  String.intercalate ", " words

def callText (name : String) (arguments : List String) : String :=
  name ++ "(" ++ commaSeparated arguments ++ ")"

def durationExpression (d : Duration) : String :=
  let part := fun (name : String) (n : Int) => if n == 0 then [] else [name ++ "=" ++ toString n]
  let parts := part "days" d.days ++ part "seconds" d.seconds ++ part "microseconds" d.fraction
  callText "datetime.timedelta" (if parts.isEmpty then ["0"] else parts)

def offsetExpression (d : Duration) : String :=
  if d.microseconds == 0 then "datetime.timezone.utc"
  else callText "datetime.timezone" [durationExpression d]

/-- The arguments for a time of day: seconds and microseconds at the end are left out if they are
zero. -/
def clockArguments (t : ClockTime) : List String :=
  let small :=
    if t.microsecond != 0 then [t.second, t.microsecond]
    else if t.second != 0 then [t.second] else []
  ([t.hour, t.minute] ++ small).map toString ++
    (t.offset.map fun d => "tzinfo=" ++ offsetExpression d).toList

def dateArguments (d : Date) : List String :=
  [d.year, d.month, d.day].map toString

mutual

/-- The expression for a cell inside a list. -/
def expression : Cell → Except CellError String
  | .empty => pure "None"
  | .bool value => pure (if value then "True" else "False")
  | .int value => intText value
  | .double value => pure value.text
  | .decimal value => pure (callText "Decimal" [quoted value.text])
  | .text value => pure (quoted value)
  | .date value => pure (callText "datetime.date" (dateArguments value))
  | .dateTime value =>
    pure (callText "datetime.datetime" (dateArguments value.date ++ clockArguments value.clock))
  | .clock value => pure (callText "datetime.time" (clockArguments value))
  | .duration value => pure (durationExpression value)
  | .list items => do
    let words ← expressions items
    pure ("[" ++ commaSeparated words ++ "]")

def expressions : List Cell → Except CellError (List String)
  | [] => pure []
  | item :: items => do
    let word ← expression item
    let words ← expressions items
    pure (word :: words)

end

/-! ## What a cell shows and counts as -/

/-- The text of a floating-point cell: a whole number of any size is written out exactly. -/
def shownDouble : Double → String
  | .nan => ""
  | .number x =>
    match x.toInt? with
    | some n => toString n
    | none => x.text

def shown (cell : Cell) : Except CellError String :=
  match cell with
  | .empty => pure ""
  | .bool value => pure (if value then "true" else "false")
  | .int value => intText value
  | .double value => pure (shownDouble value)
  | .decimal value => pure value.text
  | .text value => pure value
  | .date value => pure value.text
  | .dateTime value => pure value.text
  | .clock value => pure value.text
  | .duration value => pure value.text
  | .list items => expression (.list items)

/-- The number nearest to a decimal, if it is not a NaN. -/
def decimalNumber : Decimal → Except CellError (Option Number)
  | .finite negative coefficient exponent =>
    pure (some (Number.ofDecimal negative coefficient exponent))
  | .infinite negative => pure (some (Number.infinity negative))
  | .nan _ signaling _ => if signaling then throw .signalingNaN else pure none

/-- The number that a text reads as, if it reads as one and that is not a NaN. -/
def textNumber (value : String) : Option Number :=
  (readDouble? value).bind Double.toNumber?

def number : Cell → Except CellError (Option Number)
  | .int value =>
    let x := Number.ofInt value
    if x.isInfinite then throw .intTooLarge else pure (some x)
  | .double value => pure value.toNumber?
  | .decimal value => decimalNumber value
  | .text value => pure (textNumber value)
  | _ => pure none

def isNumber (cell : Cell) : Except CellError Bool := do
  let number ← cell.number
  pure number.isSome

/-- Whether a cell is a text that is not blank and does not read as a number. -/
def isText : Cell → Bool
  | .text value => !(Cell.text value).isBlank && (textNumber value).isNone
  | _ => false

end Cell

end SheetAudit
