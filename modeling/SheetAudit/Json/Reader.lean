import SheetAudit.Json.Value
import SheetAudit.Number.Reading

/-!
# Reading documents

A document is read character by character, and every fault has a place: the number of characters
before it.  Beside the standard's own grammar the words for a NaN and for the infinities are
numbers.  Objects and arrays may nest only so deep, and a whole number may have only so many
digits; these two faults are limits, not errors of grammar.
-/

namespace SheetAudit.Json

open Text

inductive Fault where
  | expectedValue
  | expectedName
  | expectedColon
  | expectedComma
  | extraData
  | unterminatedText
  | controlCharacter
  | invalidEscape
  | invalidCodeEscape
  | tooDeep
  | tooManyDigits
  deriving Repr, DecidableEq

/-- A fault that was met when a number of characters were left. -/
structure Stop where
  fault : Fault
  left : Nat
  deriving Repr, DecidableEq

/-- A fault after a number of characters. -/
structure ReadError where
  fault : Fault
  position : Nat
  deriving Repr, DecidableEq

/-- Whether a fault is a limit of the reader. -/
def Fault.isLimit : Fault → Bool
  | .tooDeep | .tooManyDigits => true
  | _ => false

def stopAt {α : Type} (fault : Fault) (cs : List Char) : Except Stop α :=
  throw ⟨fault, cs.length⟩

def isSpace (c : Char) : Bool :=
  c == ' ' || c == '\t' || c == '\n' || c == '\r'

def skipSpace (cs : List Char) : List Char := cs.dropWhile isSpace

/-! ## Texts -/

def hexValue? (c : Char) : Option Nat :=
  if c.isDigit then some (c.toNat - 48)
  else if 'a' ≤ c ∧ c ≤ 'f' then some (c.toNat - 87)
  else if 'A' ≤ c ∧ c ≤ 'F' then some (c.toNat - 55)
  else none

/-- The number that four hexadecimal digits denote. -/
def hexCode? : List Char → Option Nat
  | [a, b, c, d] => do
    pure ((((← hexValue? a) * 16 + (← hexValue? b)) * 16 + (← hexValue? c)) * 16 + (← hexValue? d))
  | _ => none

def simpleEscape? : Char → Option Char
  | '\x22' => some '\x22'
  | '\\' => some '\\'
  | '/' => some '/'
  | 'b' => some '\x08'
  | 'f' => some '\x0c'
  | 'n' => some '\n'
  | 'r' => some '\r'
  | 't' => some '\t'
  | _ => none

/-- The character with a code; half of a pair alone is replaced. -/
def charOfCode (code : Nat) : Char :=
  if 0xd800 ≤ code ∧ code ≤ 0xdfff then '\ufffd' else Char.ofNat code

/-- Read a code escape from the letter after its backslash on: the character, and how many
characters after that letter belong to it. -/
def readCode (cs : List Char) : Except Stop (Char × Nat) :=
  let digits := cs.drop 1
  match hexCode? (digits.take 4), digits.drop 4 with
  | none, _ | some _, [] => stopAt .invalidCodeEscape cs
  | some code, rest =>
    if 0xd800 ≤ code ∧ code ≤ 0xdbff ∧ 6 < rest.length ∧ rest.take 2 = ['\\', 'u'] then
      match hexCode? ((rest.drop 2).take 4) with
      | none => stopAt .invalidCodeEscape (rest.drop 1)
      | some low =>
        if 0xdc00 ≤ low ∧ low ≤ 0xdfff then
          pure (Char.ofNat (0x10000 + (code - 0xd800) * 0x400 + (low - 0xdc00)), 10)
        else pure (charOfCode code, 4)
    else pure (charOfCode code, 4)

/-- Read a text up to its closing quotation mark.  `opening` holds the characters from its opening
mark on, `skip` characters belong to an escape already read, and the characters read so far are
held in reverse. -/
def readChars (opening : List Char) (read : List Char) (skip : Nat) : List Char →
    Except Stop (String × List Char)
  | [] => stopAt .unterminatedText opening
  | c :: rest =>
    match skip with
    | skip + 1 => readChars opening read skip rest
    | 0 =>
      if c == '\x22' then pure (String.ofList read.reverse, rest)
      else if c == '\\' then
        match rest with
        | [] => stopAt .unterminatedText opening
        | 'u' :: _ =>
          match readCode rest with
          | .error stop => throw stop
          | .ok (c, used) => readChars opening (c :: read) (used + 1) rest
        | escape :: _ =>
          match simpleEscape? escape with
          | none => stopAt .invalidEscape (c :: rest)
          | some c => readChars opening (c :: read) 1 rest
      else if c.toNat < 0x20 then stopAt .controlCharacter (c :: rest)
      else readChars opening (c :: read) 0 rest

def readText (cs : List Char) : Except Stop (String × List Char) :=
  readChars cs [] 0 (cs.drop 1)

/-! ## Numbers -/

/-- The digits of the whole part at the start of a text: a zero alone, or digits that do not start
with one. -/
def wholePart : List Char → List Char
  | '0' :: _ => ['0']
  | cs => cs.takeWhile Char.isDigit

def fractionPart : List Char → List Char
  | '.' :: rest =>
    let digits := rest.takeWhile Char.isDigit
    if digits.isEmpty then [] else '.' :: digits
  | _ => []

def exponentPart : List Char → List Char
  | mark :: rest =>
    let sign := rest.takeWhile (fun c => c == '+' || c == '-') |>.take 1
    let digits := (rest.drop sign.length).takeWhile Char.isDigit
    if mark.toLower != 'e' || digits.isEmpty then [] else mark :: sign ++ digits
  | [] => []

def readNumber (cs : List Char) : Except Stop (Json × List Char) :=
  let negative := cs.head? == some '-'
  let unsigned := if negative then cs.drop 1 else cs
  let whole := wholePart unsigned
  if whole.isEmpty then stopAt .expectedValue cs
  else
    let rest := unsigned.drop whole.length
    let fraction := fractionPart rest
    let rest := rest.drop fraction.length
    let exponent := exponentPart rest
    let rest := rest.drop exponent.length
    if fraction.isEmpty && exponent.isEmpty then
      if 4300 < whole.length then stopAt .tooManyDigits cs
      else
        let value : Int := digitsValue whole
        pure (.int (if negative then -value else value), rest)
    else
      match readDecimal? negative (whole ++ fraction ++ exponent) with
      | some value => pure (.real (.number value), rest)
      | none => stopAt .expectedValue cs

/-! ## Values -/

def words : List (String × Json) := [
  ("null", .null), ("true", .bool true), ("false", .bool false), ("NaN", .real .nan),
  ("Infinity", .real (.number (.infinity false))),
  ("-Infinity", .real (.number (.infinity true)))]

def readPlain (cs : List Char) : Except Stop (Json × List Char) :=
  match words.find? fun word => word.1.toList.isPrefixOf cs with
  | some (word, value) => pure (value, cs.drop word.length)
  | none => readNumber cs

mutual

/-- Read a value that starts with the first character.  `levels` says how deep values may still
nest; every call uses up one of `fuel`. -/
def readValue (levels : Nat) (fuel : Nat) (cs : List Char) : Except Stop (Json × List Char) :=
  match fuel with
  | 0 => stopAt .expectedValue cs
  | fuel + 1 =>
    match cs with
    | [] => stopAt .expectedValue []
    | '\x22' :: _ => do
      let (value, rest) ← readText cs
      pure (.text value, rest)
    | '\x7b' :: rest =>
      match levels with
      | 0 => stopAt .tooDeep cs
      | levels + 1 => do
        let rest := skipSpace rest
        match rest with
        | '\x7d' :: rest => pure (.object [], rest)
        | _ => readMembers levels fuel [] rest
    | '[' :: rest =>
      match levels with
      | 0 => stopAt .tooDeep cs
      | levels + 1 => do
        let rest := skipSpace rest
        match rest with
        | ']' :: rest => pure (.array [], rest)
        | _ => readItems levels fuel [] rest
    | _ => readPlain cs

def readMembers (levels : Nat) (fuel : Nat) (read : List (String × Json)) (cs : List Char) :
    Except Stop (Json × List Char) :=
  match fuel with
  | 0 => stopAt .expectedName cs
  | fuel + 1 =>
    match cs with
    | '\x22' :: _ => do
      let (name, rest) ← readText cs
      let rest := skipSpace rest
      match rest with
      | ':' :: rest => do
        let (value, rest) ← readValue levels fuel (skipSpace rest)
        let rest := skipSpace rest
        match rest with
        | '\x7d' :: rest => pure (.object (bind name value read), rest)
        | ',' :: rest => readMembers levels fuel (bind name value read) (skipSpace rest)
        | _ => stopAt .expectedComma rest
      | _ => stopAt .expectedColon rest
    | _ => stopAt .expectedName cs

/-- Read the items of an array after those already read, held in reverse, and the closing
bracket. -/
def readItems (levels : Nat) (fuel : Nat) (read : List Json) (cs : List Char) :
    Except Stop (Json × List Char) :=
  match fuel with
  | 0 => stopAt .expectedValue cs
  | fuel + 1 => do
    let (value, rest) ← readValue levels fuel cs
    let rest := skipSpace rest
    match rest with
    | ']' :: rest => pure (.array (value :: read).reverse, rest)
    | ',' :: rest => readItems levels fuel (value :: read) (skipSpace rest)
    | _ => stopAt .expectedComma rest

end

/-- Read a whole text as one document that nests at most so deep. -/
def read (levels : Nat) (cs : List Char) : Except ReadError Json :=
  let result := do
    let (value, rest) ← readValue levels (2 * cs.length + 2) (skipSpace cs)
    let rest := skipSpace rest
    if rest.isEmpty then pure value else stopAt .extraData rest
  result.mapError fun stop => ⟨stop.fault, cs.length - stop.left⟩

end SheetAudit.Json
