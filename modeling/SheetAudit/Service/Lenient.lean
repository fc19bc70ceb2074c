import SheetAudit.Json.Value
import SheetAudit.Rule.Basic
import SheetAudit.Text.Character

/-!
# Lenient reading of documents

A document that does not fit what is expected has problems, each with the path to the part that
does not fit.  Problems of different parts are collected in order.

Where a whole number is expected, a truth value, a floating-point number without a fraction and
the text of a whole number will do as well.  A text may have blanks around it, a sign, zeros in
front, a point with zeros after it, and single low lines between digits.  Where a text is
expected, only a text will do.
-/

namespace SheetAudit.Service

/-! ## Problems -/

/-- A step on the path to a part of a document. -/
inductive PathStep where
  | name (name : String)
  | index (index : Nat)
  deriving Repr, DecidableEq

inductive ProblemKind where
  | missing
  | intType
  | intParsing
  | intParsingSize
  | intFromFloat
  | finiteNumber
  | stringType
  | enum
  | listType
  | dictType
  | modelType
  | modelAttributesType
  | jsonInvalid
  | valueError
  deriving Repr, DecidableEq

def ProblemKind.text : ProblemKind → String
  | .missing => "missing"
  | .intType => "int_type"
  | .intParsing => "int_parsing"
  | .intParsingSize => "int_parsing_size"
  | .intFromFloat => "int_from_float"
  | .finiteNumber => "finite_number"
  | .stringType => "string_type"
  | .enum => "enum"
  | .listType => "list_type"
  | .dictType => "dict_type"
  | .modelType => "model_type"
  | .modelAttributesType => "model_attributes_type"
  | .jsonInvalid => "json_invalid"
  | .valueError => "value_error"

structure Problem where
  path : List PathStep
  kind : ProblemKind
  deriving Repr, DecidableEq

/-- A value, or the problems that there are instead. -/
abbrev Checked (α : Type) := Except (List Problem) α

namespace Checked

/-- One problem, at the place itself. -/
def fail {α : Type} (kind : ProblemKind) : Checked α := throw [⟨[], kind⟩]

/-- The problems of a part, with the way to the part in front. -/
def under {α : Type} (step : PathStep) (result : Checked α) : Checked α :=
  result.mapError (·.map fun problem => { problem with path := step :: problem.path })

/-- A function and its argument, with the problems of both. -/
def andAlso {α β : Type} (function : Checked (α → β)) (argument : Checked α) : Checked β :=
  match function, argument with
  | .ok f, .ok a => .ok (f a)
  | .error problems, .ok _ => .error problems
  | .ok _, .error problems => .error problems
  | .error problems, .error more => .error (problems ++ more)

/-- The values of several parts, with the problems of all. -/
def all {α : Type} : List (Checked α) → Checked (List α)
  | [] => pure []
  | part :: parts => andAlso (part.map List.cons) (all parts)

end Checked

open Text

/-! ## Whole numbers -/

/-- The whole number that a sign, if any, and ASCII digits denote. -/
def signedInt? (cs : List Char) : Option Int :=
  let negative := cs.head? == some '-'
  let digits := if negative || cs.head? == some '+' then cs.drop 1 else cs
  if digits.isEmpty || !digits.all Char.isDigit then none
  else
    let value : Int := digitsValue digits
    some (if negative then -value else value)

/-- Drop zeros and low lines in front of a number that starts with a zero; the last zero before a
point or the end stays. -/
def dropLeadingZeros (cs : List Char) : List Char :=
  if cs.head? != some '0' then cs
  else
    let zeros := cs.takeWhile fun c => c == '0' || c == '_'
    let rest := cs.drop zeros.length
    match rest with
    | c :: _ => if c.isDigit then rest else zeros.drop (zeros.length - 1) ++ rest
    | [] => zeros.drop (zeros.length - 1)

/-- Drop a point with nothing but zeros after it. -/
def dropZeroFraction (cs : List Char) : List Char :=
  if (cs.dropWhile (· != '.')).drop 1 |>.all (· == '0') then cs.takeWhile (· != '.') else cs

/-- Drop low lines, each of which must stand between two other characters. -/
def dropLowLines (cs : List Char) : List Char :=
  let doubled := (cs.zip (cs.drop 1)).any fun pair => pair.1 == '_' && pair.2 == '_'
  if cs.head? == some '_' || cs.getLast? == some '_' || doubled then cs else cs.filter (· != '_')

def intOfText (text : String) : Checked Int :=
  let cs := dropMargins text.toList
  if 4300 < (String.ofList cs).utf8ByteSize then .fail .intParsingSize
  else
    match signedInt? cs with
    | some value => pure value
    | none =>
      let unsigned := if cs.head? == some '+' then cs.drop 1 else cs
      match signedInt? (dropLowLines (dropZeroFraction (dropLeadingZeros unsigned))) with
      | some value => pure value
      | none => .fail .intParsing

def intOfDouble : Double → Checked Int
  | .nan => .fail .finiteNumber
  | .number x =>
    if x.isInfinite then .fail .finiteNumber
    else
      match x.toInt? with
      | none => .fail .intFromFloat
      | some value => if value.natAbs < twoPow 63 then pure value else .fail .intParsingSize

def intOf : Json → Checked Int
  | .int value => pure value
  | .bool value => pure (if value then 1 else 0)
  | .real value => intOfDouble value
  | .text value => intOfText value
  | _ => .fail .intType

def textOf : Json → Checked String
  | .text value => pure value
  | _ => .fail .stringType

/-- The name of a sheet that a document is taken for: numbers and texts stay what they are. -/
def sheetIdOf : Json → Checked SheetId
  | .int value => pure (.int value)
  | .text value => pure (.text value)
  | other =>
    match intOf other with
    | .ok value => pure (.int value)
    | .error problems =>
      .error ((problems.map fun p => { p with path := .name "int" :: p.path }) ++
        [⟨[.name "str"], .stringType⟩])

def severityOf : Json → Checked Severity
  | .text value =>
    match Severity.ofText? value with
    | some severity => pure severity
    | none => .fail .enum
  | _ => .fail .enum

/-! ## Members -/

def nullable {α : Type} (read : Json → Checked α) : Json → Checked (Option α)
  | .null => pure none
  | json => (read json).map some

def requiredMember {α : Type} (name : String) (read : Json → Checked α)
    (members : List (String × Json)) : Checked α :=
  Checked.under (.name name) <|
    match members.lookup name with
    | some value => read value
    | none => .fail .missing

/-- The member with a name, or a value if it is not there. -/
def memberOr {α : Type} (name : String) (absent : α) (read : Json → Checked α)
    (members : List (String × Json)) : Checked α :=
  match members.lookup name with
  | some value => Checked.under (.name name) (read value)
  | none => pure absent

/-- The rule that a document describes; `refusal` is the problem of a document that is no
object. -/
def ruleOf (refusal : ProblemKind) : Json → Checked Rule
  | .object members =>
    (pure Rule.mk : Checked _)
      |>.andAlso (memberOr "id" none (nullable intOf) members)
      |>.andAlso (memberOr "template_id" none (nullable intOf) members)
      |>.andAlso (memberOr "sheet_id" none (nullable sheetIdOf) members)
      |>.andAlso (requiredMember "rule_type" textOf members)
      |>.andAlso (requiredMember "field" textOf members)
      |>.andAlso (memberOr "condition" "" textOf members)
      |>.andAlso (memberOr "error_message" "" textOf members)
      |>.andAlso (memberOr "severity" .error severityOf members)
  | _ => .fail refusal

end SheetAudit.Service
