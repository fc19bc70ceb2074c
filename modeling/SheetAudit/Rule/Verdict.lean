import SheetAudit.Condition.Truth
import SheetAudit.Number.Reading
import SheetAudit.Pattern.Matching
import SheetAudit.Pattern.Reading
import SheetAudit.Pieces
import SheetAudit.Rule.Basic
import SheetAudit.Text.Casing
import SheetAudit.Text.Quoted

/-!
# Verdicts

A verdict says whether a value satisfies a condition.  A list of cells satisfies it if it is not
empty and all of its cells do.  Most things that go wrong on the way make the value fail; a whole
number beyond the range of a double, a custom rule without a condition and a pattern that repeats
beyond the greatest count are errors.

The condition of a range rule is a list of parts between commas, each a key, a colon and a text.
The keys for the least and the greatest value, in letters of any case, are followed by a number;
other keys are passed over, and of several parts with one key the last counts.
-/

namespace SheetAudit

open Text

/-! ## Bounds of a range -/

structure Bounds where
  least : Option Double
  greatest : Option Double
  deriving Repr, DecidableEq

inductive BoundsError where
  | malformed (part : String)
  | notANumber (text : String)
  deriving Repr, DecidableEq

def BoundsError.message : BoundsError → String
  | .malformed part => "Malformed range bound: " ++ quoted part
  | .notANumber text => "could not convert string to float: " ++ quoted text

namespace Bounds

def none : Bounds := ⟨.none, .none⟩

/-- The key and the text after the colon of a part. -/
def splitPart? (part : List Char) : Option (String × String) :=
  match part.dropWhile (· != ':') with
  | [] => .none
  | _ :: after =>
    some (lower (String.ofList (trimChars (part.takeWhile (· != ':')))),
      String.ofList (trimChars after))

def partNumber (text : String) : Except BoundsError Double :=
  match readDouble? text with
  | some value => pure value
  | .none => throw (.notANumber text)

def withPart (bounds : Bounds) (part : List Char) : Except BoundsError Bounds :=
  if part.all isBlank then pure bounds
  else
    match splitPart? part with
    | .none => throw (.malformed (String.ofList part))
    | some (key, text) =>
      if key == "min" then do
        let value ← partNumber text
        pure { bounds with least := some value }
      else if key == "max" then do
        let value ← partNumber text
        pure { bounds with greatest := some value }
      else pure bounds

def ofText (condition : String) : Except BoundsError Bounds :=
  (partsBetween ',' condition.toList).foldlM withPart none

def allow (bounds : Bounds) (x : Number) : Bool :=
  !(bounds.least.any (·.exceeds x)) && !(bounds.greatest.any (·.fallsShortOf x))

end Bounds

/-! ## Verdicts -/

inductive VerdictError where
  | cell (cause : CellError)
  | condition (cause : Condition.Error)
  | noCondition
  | pattern (cause : Pattern.Error)
  | bounds (cause : BoundsError)
  deriving Repr, DecidableEq

namespace VerdictError

def ofEval : Condition.EvalError → VerdictError
  | .condition cause => .condition cause
  | .noCondition => .noCondition
  | .cell cause => .cell cause

def message : VerdictError → String
  | .cell cause => cause.message
  | .condition cause => cause.message
  | .noCondition => Condition.EvalError.noCondition.message
  | .pattern cause => cause.message
  | .bounds cause => cause.message

/-- Whether an error is more than a failed value. -/
def isFatal : VerdictError → Bool
  | .cell .intTooLarge | .noCondition | .pattern .tooManyRepeats => true
  | _ => false

end VerdictError

namespace Verdict

/-- The only condition that a rule of the required type can have. -/
def notEmpty : String := "not_empty"

/-- Whether a value is there, each of its cells if it is a list. -/
def required (condition : Option String) (value : Cell) : Bool :=
  trim (condition.getD "") == notEmpty &&
    match value with
    | .list items => !items.isEmpty && items.all (!·.isEmpty)
    | cell => !cell.isEmpty

mutual

/-- Whether a pattern is found in the text of a value, of each of its cells if it is a list. -/
def format (pattern : Pattern.Node) : Cell → Except CellError Bool
  | .list items => if items.isEmpty then pure false else formatAll pattern items
  | .empty | .double .nan => pure false
  | cell => do
    let shown ← cell.shown
    pure (pattern.found shown.toList)

def formatAll (pattern : Pattern.Node) : List Cell → Except CellError Bool
  | [] => pure true
  | item :: items => do
    let passed ← format pattern item
    if passed then formatAll pattern items else pure false

end

mutual

/-- Whether a value, each of its cells if it is a list, is a number within bounds. -/
def range (bounds : Bounds) : Cell → Except CellError Bool
  | .list items => if items.isEmpty then pure false else rangeAll bounds items
  | cell => do
    let number ← cell.number
    pure (number.any bounds.allow)

def rangeAll (bounds : Bounds) : List Cell → Except CellError Bool
  | [] => pure true
  | item :: items => do
    let passed ← range bounds item
    if passed then rangeAll bounds items else pure false

end

def customAll (condition : Option String) : List Cell → Except Condition.EvalError Bool
  | [] => pure true
  | item :: items => do
    let passed ← Condition.holds condition item
    if passed then customAll condition items else pure false

def custom (condition : Option String) : Cell → Except Condition.EvalError Bool
  | .list items => if items.isEmpty then pure false else customAll condition items
  | cell => Condition.holds condition cell

def reach (type : RuleType) (condition : Option String) (value : Cell) :
    Except VerdictError Bool :=
  match type with
  | .required => pure (required condition value)
  | .format => do
    let pattern ← (Pattern.ofText (condition.getD "")).mapError .pattern
    (format pattern value).mapError .cell
  | .range => do
    let bounds ← (Bounds.ofText (condition.getD "")).mapError .bounds
    (range bounds value).mapError .cell
  | .custom => (custom condition value).mapError .ofEval

/-- Whether a value satisfies a condition.  What goes wrong is a failure unless it is fatal, and a
rule of an unknown type fails. -/
def evaluate (type : Option String) (condition : Option String) (value : Cell) :
    Except VerdictError Bool :=
  match type.bind RuleType.ofText? with
  | none => pure false
  | some type =>
    match reach type condition value with
    | .ok passed => pure passed
    | .error e => if e.isFatal then throw e else pure false

end Verdict

end SheetAudit
