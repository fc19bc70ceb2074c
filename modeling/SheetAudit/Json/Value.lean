import SheetAudit.Number.Shortest
import SheetAudit.Text.Quoted

/-!
# Documents

A document is a value of the JavaScript object notation.  Whole numbers of any size are kept
apart from floating-point numbers, and the members of an object keep the order in which their
names first appear; a name that appears again only replaces the value.
-/

namespace SheetAudit

inductive Json where
  | null
  | bool (value : Bool)
  | int (value : Int)
  | real (value : Double)
  | text (value : String)
  | array (items : List Json)
  | object (members : List (String × Json))
  deriving Repr, Inhabited

namespace Json

/-- The members with a name bound to a value: in the place of an old value, otherwise last. -/
def bind (name : String) (value : Json) : List (String × Json) → List (String × Json)
  | [] => [(name, value)]
  | (other, old) :: rest =>
    if other == name then (name, value) :: rest else (other, old) :: bind name value rest

def get? (name : String) : Json → Option Json
  | .object members => members.lookup name
  | _ => none

def escapeChar (c : Char) : List Char :=
  if c == '\x22' || c == '\\' then ['\\', c]
  else if c.toNat < 0x20 || c.toNat == 0x7f then '\\' :: 'u' :: Text.hexPadded 4 c.toNat
  else [c]

def writeText (s : String) : String :=
  String.ofList ('\x22' :: s.toList.flatMap escapeChar ++ ['\x22'])

def writeReal : Double → String
  | .nan => "NaN"
  | .number x =>
    if x.isInfinite then (if x.negative then "-Infinity" else "Infinity") else x.text

mutual

def write : Json → String
  | .null => "null"
  | .bool value => if value then "true" else "false"
  | .int value => toString value
  | .real value => writeReal value
  | .text value => writeText value
  | .array items => "[" ++ String.intercalate "," (writeItems items) ++ "]"
  | .object members => "\x7b" ++ String.intercalate "," (writeMembers members) ++ "\x7d"

def writeItems : List Json → List String
  | [] => []
  | item :: items => write item :: writeItems items

def writeMembers : List (String × Json) → List String
  | [] => []
  | (name, value) :: members => (writeText name ++ ":" ++ write value) :: writeMembers members

end

end Json

end SheetAudit

namespace SheetAudit.Json

/-! ## Literal notation -/

mutual

def literal : Json → String
  | .null => "None"
  | .bool value => if value then "True" else "False"
  | .int value => toString value
  | .real value => value.text
  | .text value => Text.quoted value
  | .array items => "[" ++ String.intercalate ", " (literalItems items) ++ "]"
  | .object members => "\x7b" ++ String.intercalate ", " (literalMembers members) ++ "\x7d"

def literalItems : List Json → List String
  | [] => []
  | item :: items => literal item :: literalItems items

def literalMembers : List (String × Json) → List String
  | [] => []
  | (name, value) :: members =>
    (Text.quoted name ++ ": " ++ literal value) :: literalMembers members

end

/-- A document as it is shown by itself: a text as it is, anything else in literal notation. -/
def shown : Json → String
  | .text value => value
  | json => json.literal

end SheetAudit.Json
