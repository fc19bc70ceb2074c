import SheetAudit.Cell
import SheetAudit.Condition.Token

/-!
# Conditions as trees

A comparison binds tightest, then negation, then conjunction, then disjunction.  Brackets leave
no trace in the tree, and a chain of one connective is one node.  Brackets and negations nest at
most a fixed number of levels; the reader counts the levels still allowed down.
-/

namespace SheetAudit.Condition

/-- What is compared: the value under test or a fixed cell. -/
inductive Operand where
  | value
  | literal (cell : Cell)
  deriving Repr

inductive Tree where
  | operand (operand : Operand)
  | compare (sign : Comparison) (left right : Operand)
  | not (inner : Tree)
  | all (parts : List Tree)
  | any (parts : List Tree)
  deriving Repr, Inhabited

def numberCell (spelling : List Char) : Cell :=
  .double ((readPlain? spelling).getD .nan)

def Operand.ofToken? : Token → Option Operand
  | .value => some .value
  | .number spelling => some (.literal (numberCell spelling))
  | .quoted _ body => some (.literal (.text (String.ofList body)))
  | .bool truth => some (.literal (.bool truth))
  | .null => some (.literal .empty)
  | _ => none

/-- What a reader makes of tokens: a part of the tree and the tokens after it. -/
abbrev Step (α : Type) := List Token → Except Error (α × List Token)

def readOperand (tokens : List Token) : Except Error (Operand × List Token) :=
  match tokens with
  | [] => throw .unexpectedEnd
  | token :: rest =>
    match Operand.ofToken? token with
    | some operand => pure (operand, rest)
    | none => throw (.noOperand token.text)

/-- Read an operand, or two with a comparison between them. -/
def readComparison (tokens : List Token) : Except Error (Tree × List Token) := do
  let (left, rest) ← readOperand tokens
  match rest with
  | .comparison sign :: rest => do
    let (right, rest) ← readOperand rest
    pure (.compare sign left right, rest)
  | _ => pure (.operand left, rest)

/-- Read parts with a connective between them; `fuel` bounds how many may follow the first. -/
def readChain (part : Step Tree) (connective : Token) :
    (fuel : Nat) → (tokens : List Token) → Except Error (List Tree × List Token)
  | 0, tokens => do
    let (first, rest) ← part tokens
    pure ([first], rest)
  | fuel + 1, tokens => do
    let (first, rest) ← part tokens
    match rest with
    | [] => pure ([first], [])
    | token :: later =>
      if token = connective then do
        let (others, rest) ← readChain part connective fuel later
        pure (first :: others, rest)
      else pure ([first], token :: later)

/-- A chain of one part is that part. -/
def joined (join : List Tree → Tree) : List Tree → Tree
  | [part] => part
  | parts => join parts

def readAll (part : Step Tree) (tokens : List Token) : Except Error (Tree × List Token) := do
  let (parts, rest) ← readChain part .and tokens.length tokens
  pure (joined .all parts, rest)

def readAny (part : Step Tree) (tokens : List Token) : Except Error (Tree × List Token) := do
  let (parts, rest) ← readChain (readAll part) .or tokens.length tokens
  pure (joined .any parts, rest)

def isNegation (token : Token) : Bool :=
  token == .not || token == .bang

/-- Read a negation, a condition in brackets or a comparison, with so many levels of nesting
left. -/
def readPart : Nat → Step Tree
  | 0, tokens =>
    match tokens with
    | token :: _ =>
      if isNegation token || token == .opening then throw .tooDeep else readComparison tokens
    | [] => readComparison tokens
  | levels + 1, tokens =>
    match tokens with
    | token :: rest =>
      if isNegation token then do
        let (inner, rest) ← readPart levels rest
        pure (.not inner, rest)
      else if token == .opening then do
        let (inner, rest) ← readAny (readPart levels) rest
        match rest with
        | .closing :: rest => pure (inner, rest)
        | _ => throw .unclosed
      else readComparison tokens
    | [] => readComparison tokens

def Tree.ofTokens (tokens : List Token) : Except Error Tree := do
  if tokens.isEmpty then throw .empty
  let (tree, rest) ← readAny (readPart maxNesting) tokens
  match rest with
  | [] => pure tree
  | token :: _ => throw (.unexpectedToken token.text)

def Tree.ofText (condition : String) : Except Error Tree := do
  Tree.ofTokens (← tokens condition)

end SheetAudit.Condition
