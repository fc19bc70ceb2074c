import SheetAudit.Pattern.Tree
import SheetAudit.Text.CharacterName

/-!
# Steps of a pattern reader

A pattern is read piece by piece, a backslash and the character after it being one piece.  The
reader remembers the groups opened so far, their names, and the flags of the whole pattern.

Three things can be wrong with a pattern: its form, its depth, and a count of repetitions beyond
the greatest.  What comes first in the pattern decides.
-/

namespace SheetAudit.Pattern

inductive Error where
  | invalid
  | tooDeep
  | tooManyRepeats
  deriving Repr, DecidableEq

/-- The message of an error in a pattern, where it is shown. -/
def Error.message : Error → String
  | .invalid => "invalid pattern"
  | .tooDeep => "pattern nested too deeply"
  | .tooManyRepeats => "the repetition number is too large"

/-- A character of a pattern, a character after a backslash, or a backslash at the end. -/
inductive Piece where
  | plain (c : Char)
  | escaped (c : Char)
  | dangling
  deriving Repr, DecidableEq

def piecesOf : List Char → List Piece
  | [] => []
  | '\\' :: c :: rest => .escaped c :: piecesOf rest
  | c :: rest => (if c == '\\' then .dangling else .plain c) :: piecesOf rest

/-- The state of a reader: the pieces left, the widths of the groups opened so far, known once
they are closed, the names of groups, how many groups were opened before the look behind it is in,
the flags of the whole pattern, and the groups that conditions refer to. -/
structure ReadState where
  left : List Piece
  widths : List (Option (Nat × Nat))
  names : List (String × Nat)
  behind : Option Nat
  flags : List Flag
  asked : List Nat

abbrev Reading := StateT ReadState (Except Error)

def refuse {α : Type} : Reading α := throw .invalid

def peek : Reading (Option Piece) := do
  match (← get).left with
  | [] => pure none
  | .dangling :: _ => refuse
  | piece :: _ => pure (some piece)

def takePiece : Reading (Option Piece) := do
  let piece ← peek
  modify fun s => { s with left := s.left.drop 1 }
  pure piece

def accept (c : Char) : Reading Bool := do
  if (← peek) == some (.plain c) then
    let _ ← takePiece
    pure true
  else pure false

def plainPrefix (test : Char → Bool) : List Piece → List Char
  | .plain c :: rest => if test c then c :: plainPrefix test rest else []
  | _ => []

/-- Take the characters that pass a test, at most so many. -/
def takeChars (limit : Option Nat) (test : Char → Bool) : Reading (List Char) := do
  let passing := plainPrefix test (← get).left
  let taken := match limit with
    | some limit => passing.take limit
    | none => passing
  modify fun s => { s with left := s.left.drop taken.length }
  let _ ← peek
  pure taken

def spelled (pieces : List Piece) : List Char :=
  pieces.flatMap fun
    | .plain c => [c]
    | .escaped c => ['\\', c]
    | .dangling => ['\\']

/-- Take a name that is not empty and ends before a character, and that character. -/
def takeName (terminator : Char) : Reading String := do
  let left := (← get).left
  let name := left.takeWhile (· != .plain terminator)
  if name.isEmpty || name.length == left.length || name.contains .dangling then refuse
  else
    modify fun s => { s with left := s.left.drop (name.length + 1) }
    let _ ← peek
    pure (String.ofList (spelled name))

/-! ## Escapes -/

inductive Escape where
  | code (code : Nat)
  | kind (kind : CharClass) (negated : Bool)
  | place (place : Place)
  | group (index : Nat)

def digitIn? (base : Nat) (c : Char) : Option Nat :=
  let value :=
    if c.isDigit then c.toNat - 48
    else if 'a' ≤ c ∧ c ≤ 'f' then c.toNat - 87
    else if 'A' ≤ c ∧ c ≤ 'F' then c.toNat - 55
    else 16
  if value < base then some value else none

def isDigitIn (base : Nat) (c : Char) : Bool := (digitIn? base c).isSome

def valueIn (base : Nat) (cs : List Char) : Nat :=
  cs.foldl (fun total c => total * base + (digitIn? base c).getD 0) 0

/-- The code written with an exact count of hexadecimal digits. -/
def takeHex (count : Nat) : Reading Nat := do
  let digits ← takeChars (some count) (isDigitIn 16)
  let code := valueIn 16 digits
  if digits.length == count && code < 0x110000 then pure code else refuse

def kindOf? : Char → Option (CharClass × Bool)
  | 'd' => some (.digit, false)
  | 'D' => some (.digit, true)
  | 's' => some (.blank, false)
  | 'S' => some (.blank, true)
  | 'w' => some (.word, false)
  | 'W' => some (.word, true)
  | _ => none

def controlOf? : Char → Option Nat
  | 'a' => some 7
  | 'b' => some 8
  | 'f' => some 12
  | 'n' => some 10
  | 'r' => some 13
  | 't' => some 9
  | 'v' => some 11
  | '\\' => some 92
  | _ => none

def placeOf? (asciiOnly : Bool) : Char → Option Place
  | 'A' => some .textStart
  | 'Z' => some .textEnd
  | 'b' => some (.boundary asciiOnly false)
  | 'B' => some (.boundary asciiOnly true)
  | _ => none

/-- A code of at most 255 written with octal digits. -/
def octalCode (digits : List Char) : Reading Nat :=
  let code := valueIn 8 digits
  if code ≤ 255 then pure code else refuse

def takeNamed : Reading Nat := do
  if !(← accept '\x7b') then refuse
  let name ← takeName '\x7d'
  match Text.codeNamed? name with
  | some code => pure code
  | none => refuse

/-- A code written with a letter and hexadecimal digits or a name, or a character that stands for
itself. -/
def takeCode (c : Char) : Reading Nat :=
  match c with
  | 'x' => takeHex 2
  | 'u' => takeHex 4
  | 'U' => takeHex 8
  | 'N' => takeNamed
  | _ => if c.isAlphanum then refuse else pure c.toNat

def isClosed (s : ReadState) (index : Nat) : Bool :=
  (s.widths[index]?.bind id).isSome

/-- Refuse a reference to a group that was not closed before the look behind around it. -/
def checkBehind (index : Nat) : Reading Unit := do
  let s ← get
  match s.behind with
  | some groups => if !isClosed s index || groups ≤ index then refuse
  | none => pure ()

/-- A reference to a group that is closed. -/
def checkReference (index : Nat) : Reading Unit := do
  if !isClosed (← get) index then refuse
  checkBehind index

def readEscape (asciiOnly : Bool) (c : Char) : Reading Escape := do
  match placeOf? asciiOnly c, kindOf? c, controlOf? c with
  | some place, _, _ => pure (.place place)
  | none, some (kind, negated), _ => pure (.kind kind negated)
  | none, none, some code => pure (.code code)
  | none, none, none =>
    if c == '0' then
      let more ← takeChars (some 2) (isDigitIn 8)
      pure (.code (valueIn 8 more))
    else if c.isDigit then
      let second ← takeChars (some 1) Char.isDigit
      let octal := isDigitIn 8 c && !second.isEmpty && second.all (isDigitIn 8)
      let third ← if octal then takeChars (some 1) (isDigitIn 8) else pure []
      if third.isEmpty then
        let index := valueIn 10 (c :: second)
        checkReference index
        pure (.group index)
      else
        let code ← octalCode (c :: second ++ third)
        pure (.code code)
    else
      let code ← takeCode c
      pure (.code code)

def readSetEscape (asciiOnly : Bool) (c : Char) : Reading Entry := do
  match controlOf? c, kindOf? c with
  | some code, _ => pure (.code code)
  | none, some (kind, negated) => pure (.kind kind asciiOnly negated)
  | none, none =>
    if isDigitIn 8 c then
      let more ← takeChars (some 2) (isDigitIn 8)
      let code ← octalCode (c :: more)
      pure (.code code)
    else
      let code ← takeCode c
      pure (.code code)

/-! ## Sets -/

/-- Read one end of a range, or an entry. -/
def readEntry (asciiOnly : Bool) : Piece → Reading Entry
  | .plain c => pure (.code c.toNat)
  | .escaped c => readSetEscape asciiOnly c
  | .dangling => refuse

/-- Read the entries of a set after those already read, up to its closing bracket. -/
def readEntries (asciiOnly : Bool) : Nat → List Entry → Reading (List Entry)
  | 0, _ => refuse
  | fuel + 1, read => do
    match ← takePiece with
    | none => refuse
    | some piece =>
      if piece == .plain ']' && !read.isEmpty then pure read
      else
        let entry ← readEntry asciiOnly piece
        if ← accept '-' then
          match ← takePiece with
          | none => refuse
          | some stop =>
            if stop == .plain ']' then pure (read ++ [entry, .code 45])
            else
              let last ← readEntry asciiOnly stop
              match entry, last with
              | .code first, .code last =>
                if last < first then refuse
                else readEntries asciiOnly fuel (read ++ [.range first last])
              | _, _ => refuse
        else readEntries asciiOnly fuel (read ++ [entry])

def readSet (flags : List Flag) : Reading Node := do
  let negated ← accept '^'
  let entries ← readEntries (flags.contains .ascii) ((← get).left.length + 1) []
  pure (.one ⟨foldOf flags, negated, entries⟩)

end SheetAudit.Pattern
