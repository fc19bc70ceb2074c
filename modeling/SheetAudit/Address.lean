import SheetAudit.Cell
import SheetAudit.Text.Character

/-!
# Cell addresses

Columns are lettered in the numbering with digits `A` to `Z` worth 1 to 26 and no zero, and rows
are numbered from 1; inside, both count from 0.  An address is the letters of its column followed
by the number of its row.
-/

namespace SheetAudit

open Text

/-- The place of a cell, counted from 0. -/
structure Address where
  row : Int
  col : Int
  deriving Repr, DecidableEq

inductive AddressError where
  | invalidLetters (shown : String)
  | columnBelowOne (number : String)
  | rowTooLong (digits : Nat)
  | cell (cause : CellError)
  deriving Repr, DecidableEq

def AddressError.message : AddressError → String
  | .invalidLetters shown => "Invalid column letters: " ++ shown
  | .columnBelowOne number => "Column numbers start at 1, got " ++ number
  | .rowTooLong digits =>
    "Exceeds the limit (4300 digits) for integer string conversion: value has " ++
      toString digits ++ " digits; use sys.set_int_max_str_digits() to increase the limit"
  | .cell cause => cause.message

def AddressError.ofCell {α : Type} (result : Except CellError α) : Except AddressError α :=
  result.mapError .cell

/-! ## Column letters -/

/-- The value of a column letter; other characters count by their distance from the letters. -/
def letterValue (c : Char) : Int := (c.toNat : Int) - 64

def lettersValue (cs : List Char) : Int :=
  cs.foldl (fun total c => total * 26 + letterValue c) 0

/-- Whether a text names a column: capital letters, which one line feed may follow. -/
def namesColumn (cs : List Char) : Bool :=
  let letters := if cs.getLast? == some '\n' then cs.dropLast else cs
  !letters.isEmpty && letters.all Char.isUpper

/-- The number, from 1, of the column that a cell names.  A line feed after the letters enters the
number as a letter does. -/
def columnNumber (letters : Cell) : Except AddressError Int :=
  let refused := do throw (.invalidLetters (← AddressError.ofCell letters.expression))
  match letters with
  | .text value => if namesColumn value.toList then pure (lettersValue value.toList) else refused
  | _ => refused

def columnLetter (value : Nat) : Char := Char.ofNat (65 + value)

/-- The letters of a column number in front of letters already found. -/
def lettersBefore (found : List Char) (number : Nat) : List Char :=
  if _h : number = 0 then found
  else lettersBefore (columnLetter ((number - 1) % 26) :: found) ((number - 1) / 26)
termination_by number
decreasing_by omega

/-- The letters of the column with a number from 1. -/
def columnLetters (number : Int) : Except AddressError String :=
  if number < 1 then do
    throw (.columnBelowOne (← AddressError.ofCell (intText number)))
  else pure (String.ofList (lettersBefore [] number.toNat))

/-! ## Addresses as texts -/

namespace Address

def text (address : Address) : Except AddressError String := do
  let letters ← columnLetters (address.col + 1)
  let row ← AddressError.ofCell (intText (address.row + 1))
  pure (letters ++ row)

/-- The address that a text denotes: blanks at its ends aside, capital letters and then ASCII
digits of a number from 1.  Anything else is no address, but too many digits are an error. -/
def ofText (s : String) : Except AddressError (Option Address) :=
  let cs := trimChars s.toList
  let letters := cs.takeWhile Char.isUpper
  let digits := cs.dropWhile Char.isUpper
  if letters.isEmpty || digits.isEmpty || !digits.all Char.isDigit then pure none
  else if maxIntDigits < digits.length then throw (.rowTooLong digits.length)
  else if digitsValue digits < 1 then pure none
  else pure (some ⟨digitsValue digits - 1, lettersValue letters - 1⟩)

/-- The address that a cell holds: only a text can hold one. -/
def ofCell : Cell → Except AddressError (Option Address)
  | .text value => ofText value
  | _ => pure none

end Address

end SheetAudit
