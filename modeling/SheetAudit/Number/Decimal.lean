import SheetAudit.Number.Reading

/-!
# Decimal numbers

A decimal number keeps its digits and its exponent, so `1.50` and `1.5` are different values of
one size.  Its text shows all of its digits, and an exponent only if there are digits missing
before the point or more than six places after it.
-/

namespace SheetAudit

open Text

inductive Decimal where
  | finite (negative : Bool) (coefficient : Nat) (exponent : Int)
  | infinite (negative : Bool)
  | nan (negative signaling : Bool) (payload : List Char)
  deriving Repr, DecidableEq

namespace Decimal

def exponentText (exponent : Int) : List Char :=
  'E' :: (if exponent < 0 then '-' else '+') :: decimalChars exponent.natAbs

/-- The text of digits times a power of ten. -/
def finiteText (coefficient : Nat) (exponent : Int) : List Char :=
  let digits := decimalChars coefficient
  let left := exponent + digits.length
  let point := if exponent ≤ 0 && -6 < left then left else 1
  let body :=
    if point ≤ 0 then '0' :: '.' :: List.replicate point.natAbs '0' ++ digits
    else if digits.length ≤ point.natAbs then
      digits ++ List.replicate (point.natAbs - digits.length) '0'
    else digits.take point.natAbs ++ '.' :: digits.drop point.natAbs
  if left == point then body else body ++ exponentText (left - point)

def text (d : Decimal) : String :=
  let signed := fun (negative : Bool) cs => String.ofList (if negative then '-' :: cs else cs)
  match d with
  | .finite negative coefficient exponent => signed negative (finiteText coefficient exponent)
  | .infinite negative => signed negative "Infinity".toList
  | .nan negative signaling payload =>
    signed negative ((if signaling then "sNaN" else "NaN").toList ++ payload)

/-- The digits after a word of a text, if the text starts with that word and goes on with nothing
but digits. -/
def payload? (word : String) (cs : List Char) : Option (List Char) :=
  let rest := cs.drop word.length
  if (cs.take word.length).map Char.toLower == word.toList && rest.all Char.isDigit then
    some (rest.dropWhile (· == '0'))
  else none

def ofText? (s : String) : Option Decimal :=
  let (negative, cs) := splitSign ((plainDigits (trimChars s.toList)).filter (· != '_'))
  let word := cs.map Char.toLower
  if word == "inf".toList || word == "infinity".toList then some (.infinite negative)
  else match payload? "nan" cs, payload? "snan" cs with
    | some payload, _ => some (.nan negative false payload)
    | none, some payload => some (.nan negative true payload)
    | none, none =>
      let whole := cs.takeWhile Char.isDigit
      let rest := cs.dropWhile Char.isDigit
      let (fraction, rest) :=
        match rest with
        | '.' :: rest => (rest.takeWhile Char.isDigit, rest.dropWhile Char.isDigit)
        | _ => ([], rest)
      if whole.isEmpty && fraction.isEmpty then none
      else (readExponent? rest).map fun exponent =>
        .finite negative (digitsValue (whole ++ fraction)) (exponent - fraction.length)

end Decimal

end SheetAudit
