import SheetAudit.Number.Double
import SheetAudit.Text.Character

/-!
# Reading numbers

A text reads as a number if, blanks at its ends aside, it is a sign, if any, and then either the
word for infinity or for a NaN, in letters of any case, or decimal digits with at most one point
and an optional exponent.  The digits may be of any script, and a low line may stand between two
digits.  A whole number has no point and no exponent, and the count of its digits is limited.
-/

namespace SheetAudit

open Text

/-- A text in which the digits of all scripts are ASCII digits. -/
def plainDigits (cs : List Char) : List Char :=
  cs.map fun c =>
    match digitValue? c with
    | some value => Char.ofNat (48 + value)
    | none => c

/-- Remove the low lines of a text if each stands between two ASCII digits; `last` is the
character before the text. -/
def joinDigits (last : Char) : List Char → Option (List Char)
  | [] => some []
  | '_' :: c :: rest =>
    if last.isDigit && c.isDigit then (joinDigits c rest).map (c :: ·) else none
  | c :: rest => if c == '_' then none else (joinDigits c rest).map (c :: ·)

/-- Split a sign off the front of a text; the flag says whether it is a minus. -/
def splitSign : List Char → Bool × List Char
  | '-' :: rest => (true, rest)
  | '+' :: rest => (false, rest)
  | cs => (false, cs)

/-- The most digits that the text of a whole number may have. -/
def maxIntDigits : Nat := 4300

/-- Whether a character counts as a blank around the text of a whole number: the separators of
ASCII do not. -/
def isMargin (c : Char) : Bool :=
  isBlank c && !(0x1c ≤ c.toNat && c.toNat ≤ 0x1f)

def dropMargins (cs : List Char) : List Char :=
  ((cs.dropWhile isMargin).reverse.dropWhile isMargin).reverse

def readInt? (s : String) : Option Int :=
  let (negative, rest) := splitSign (plainDigits (dropMargins s.toList))
  (joinDigits ' ' rest).bind fun digits =>
    if digits.isEmpty || !digits.all Char.isDigit || maxIntDigits < digits.length then none
    else
      let value : Int := digitsValue digits
      some (if negative then -value else value)

/-- The whole number that an exponent denotes: a letter, a sign if any, and digits.  No exponent
counts as zero. -/
def readExponent? : List Char → Option Int
  | [] => some 0
  | mark :: rest =>
    let (negative, digits) := splitSign rest
    if mark.toLower == 'e' && !digits.isEmpty && digits.all Char.isDigit then
      let value : Int := digitsValue digits
      some (if negative then -value else value)
    else none

def readDecimal? (negative : Bool) (cs : List Char) : Option Number :=
  let whole := cs.takeWhile Char.isDigit
  let rest := cs.dropWhile Char.isDigit
  let (fraction, rest) :=
    match rest with
    | '.' :: rest => (rest.takeWhile Char.isDigit, rest.dropWhile Char.isDigit)
    | _ => ([], rest)
  if whole.isEmpty && fraction.isEmpty then none
  else (readExponent? rest).map fun exponent =>
    Number.ofDecimal negative (digitsValue (whole ++ fraction)) (exponent - fraction.length)

/-- The value that a text without blanks at its ends, low lines and foreign digits denotes. -/
def readPlain? (cs : List Char) : Option Double :=
  let (negative, rest) := splitSign cs
  let word := rest.map Char.toLower
  if word == "inf".toList || word == "infinity".toList then
    some (.number (Number.infinity negative))
  else if word == "nan".toList then some .nan
  else (readDecimal? negative rest).map .number

def readDouble? (s : String) : Option Double :=
  (joinDigits ' ' (plainDigits (trimChars s.toList))).bind readPlain?

end SheetAudit
