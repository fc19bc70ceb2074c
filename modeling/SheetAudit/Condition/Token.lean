import SheetAudit.Number.Reading
import SheetAudit.Text.Character

/-!
# Tokens of a condition

A condition is written over a small set of characters.  It is cut from left to right into the
longest tokens, with blanks of any length between them: numbers with a sign of their own, texts
in either quote, comparisons, brackets, and words of which only a few are known.
-/

namespace SheetAudit.Condition

open Text

inductive Comparison where
  | equal
  | same
  | notEqual
  | less
  | lessOrEqual
  | greater
  | greaterOrEqual
  deriving Repr, DecidableEq

/-- The sign of a comparison; equality has two. -/
def Comparison.text : Comparison → String
  | .equal => "=="
  | .same => "="
  | .notEqual => "!="
  | .less => "<"
  | .lessOrEqual => "<="
  | .greater => ">"
  | .greaterOrEqual => ">="

inductive Token where
  | number (spelling : List Char)
  | quoted (quote : Char) (body : List Char)
  | comparison (sign : Comparison)
  | bang
  | opening
  | closing
  | and
  | or
  | not
  | value
  | bool (value : Bool)
  | null
  deriving Repr, DecidableEq

inductive Error where
  | forbiddenCharacter
  | unexpectedInput (position : Nat)
  | unknownWord (word : String)
  | empty
  | unexpectedToken (text : String)
  | tooDeep
  | unclosed
  | unexpectedEnd
  | noOperand (text : String)
  deriving Repr, DecidableEq

/-- How deep brackets and negations may nest. -/
def maxNesting : Nat := 100

def Error.message : Error → String
  | .forbiddenCharacter => "Condition contains characters outside the allowed set"
  | .unexpectedInput position => "Unexpected input at position " ++ toString position
  | .unknownWord word => "Unknown identifier: " ++ word
  | .empty => "Condition is empty"
  | .unexpectedToken text => "Unexpected token: " ++ text
  | .tooDeep => "Condition is nested more than " ++ toString maxNesting ++ " levels deep"
  | .unclosed => "Missing closing parenthesis"
  | .unexpectedEnd => "Unexpected end of condition"
  | .noOperand text => "Expected an operand, got " ++ text

namespace Token

def chars : Token → List Char
  | .number spelling => spelling
  | .quoted quote body => quote :: body ++ [quote]
  | .comparison sign => sign.text.toList
  | .bang => ['!']
  | .opening => ['(']
  | .closing => [')']
  | .and => "AND".toList
  | .or => "OR".toList
  | .not => "NOT".toList
  | .value => "value".toList
  | .bool true => "true".toList
  | .bool false => "false".toList
  | .null => "null".toList

def text (token : Token) : String := String.ofList token.chars

def kind : Token → String
  | .number _ => "number"
  | .quoted .. => "string"
  | .comparison _ | .bang => "op"
  | .opening | .closing => "paren"
  | .and | .or | .not => "keyword"
  | .value => "variable"
  | .bool _ | .null => "literal"

end Token

/-! ## Cutting tokens -/

def isAllowed (c : Char) : Bool :=
  c.isAlphanum || isBlank c || "()<>=!.'\x22_+-".toList.contains c

def digitsOf (cs : List Char) : List Char := cs.takeWhile Char.isDigit

def signOf : List Char → List Char
  | '+' :: _ => ['+']
  | '-' :: _ => ['-']
  | _ => []

/-- The digits at the start of a text, with a point among them, before them or after them. -/
def unsignedOf (cs : List Char) : List Char :=
  let whole := digitsOf cs
  match cs.drop whole.length with
  | '.' :: rest =>
    let fraction := digitsOf rest
    if whole.isEmpty && fraction.isEmpty then [] else whole ++ '.' :: fraction
  | _ => whole

def numberOf? (cs : List Char) : Option (List Char) :=
  let sign := signOf cs
  let body := unsignedOf (cs.drop sign.length)
  if body.isEmpty then none else some (sign ++ body)

def startsWord (c : Char) : Bool := c.isAlpha || c == '_'

def continuesWord (c : Char) : Bool := c.isAlphanum || c == '_'

def tokenOfWord (word : List Char) : Except Error Token :=
  match String.ofList word with
  | "AND" => pure .and
  | "OR" => pure .or
  | "NOT" => pure .not
  | "value" => pure .value
  | "true" => pure (.bool true)
  | "false" => pure (.bool false)
  | "null" => pure .null
  | unknown => throw (.unknownWord unknown)

/-- The comparison, the exclamation mark or the bracket at the start of a text. -/
def signToken? : List Char → Option Token
  | '<' :: '=' :: _ => some (.comparison .lessOrEqual)
  | '>' :: '=' :: _ => some (.comparison .greaterOrEqual)
  | '=' :: '=' :: _ => some (.comparison .equal)
  | '!' :: '=' :: _ => some (.comparison .notEqual)
  | '<' :: _ => some (.comparison .less)
  | '>' :: _ => some (.comparison .greater)
  | '=' :: _ => some (.comparison .same)
  | '!' :: _ => some .bang
  | '(' :: _ => some .opening
  | ')' :: _ => some .closing
  | _ => none

/-- The text in quotes at the start of a text. -/
def quotedToken? : List Char → Option Token
  | quote :: rest =>
    if quote == '\x27' || quote == '\x22' then
      let body := rest.takeWhile (· != quote)
      if body.length < rest.length then some (.quoted quote body) else none
    else none
  | [] => none

/-- The token at the start of a text that does not start with a blank; nothing if no token starts
there. -/
def firstToken (cs : List Char) : Option (Except Error Token) :=
  match numberOf? cs with
  | some spelling => some (pure (.number spelling))
  | none =>
    match quotedToken? cs, signToken? cs with
    | some token, _ => some (pure token)
    | none, some token => some (pure token)
    | none, none =>
      match cs with
      | c :: _ => if startsWord c then some (tokenOfWord (cs.takeWhile continuesWord)) else none
      | [] => none

/-- The tokens of a text.  `last` is the place after the last token, `position` that of the next
character, and `skip` characters still belong to the last token. -/
def tokensFrom (last position skip : Nat) : List Char → Except Error (List Token)
  | [] => pure []
  | c :: rest =>
    match skip with
    | skip + 1 => tokensFrom last (position + 1) skip rest
    | 0 =>
      if isBlank c then tokensFrom last (position + 1) 0 rest
      else
        match firstToken (c :: rest) with
        | none => throw (.unexpectedInput last)
        | some found => do
          let token ← found
          let size := token.chars.length
          let tokens ← tokensFrom (position + size) (position + 1) (size - 1) rest
          pure (token :: tokens)

def tokens (condition : String) : Except Error (List Token) :=
  if condition.toList.all isAllowed then tokensFrom 0 0 0 (dropBlankEnd condition.toList)
  else throw .forbiddenCharacter

end SheetAudit.Condition
