import SheetAudit.Number.Reading
import SheetAudit.Pattern.Reader

/-!
# Reading patterns

A pattern is read from left to right as alternatives of sequences.  Flags in front of everything
else hold for the whole pattern, flags of a group for that group.  Groups are numbered by their
opening brackets.
-/

namespace SheetAudit.Pattern

/-! ## Openings -/

/-- The first count of repetitions that is too great; as a bound it stands for no bound. -/
def maxRepeats : Nat := 4294967295

/-! ## Repetitions -/

def repeatCount (digits : List Char) : Reading Nat := do
  if maxIntDigits < digits.length then refuse
  let count := valueIn 10 digits
  if maxRepeats ≤ count then throw .tooManyRepeats
  pure count

/-- Read the counts after an opening brace; nothing is taken if they are no counts. -/
def readCounts : Reading (Option (Nat × Option Nat)) := do
  let start := (← get).left
  if start.head? == some (.plain '\x7d') then pure none
  else
    let low ← takeChars none Char.isDigit
    let comma ← accept ','
    let high ← if comma then takeChars none Char.isDigit else pure low
    if ← accept '\x7d' then
      let _ ← peek
      let least ← if low.isEmpty then pure 0 else repeatCount low
      if high.isEmpty then pure (some (least, none))
      else
        let most ← repeatCount high
        if most < least then refuse
        pure (some (least, some most))
    else
      modify fun s => { s with left := start }
      pure none

/-- The counts that a sign of repetition stands for; nothing if a brace stands for itself. -/
def readRepeat? (sign : Char) : Reading (Option (Nat × Option Nat)) :=
  match sign with
  | '?' => pure (some (0, some 1))
  | '*' => pure (some (0, none))
  | '+' => pure (some (1, none))
  | _ => readCounts

def readGreed : Reading Greed := do
  if ← accept '?' then pure .lazy
  else if ← accept '+' then pure .possessive
  else pure .greedy

/-! ## Flags of groups -/

/-- Read the flags taken away, after the minus, up to the colon. -/
def readRemoved : Nat → List Flag → Reading (List Flag)
  | 0, _ => refuse
  | fuel + 1, removed => do
    match ← takePiece with
    | some (.plain ':') => if removed.isEmpty then refuse else pure removed
    | some (.plain c) =>
      match Flag.ofChar? c with
      | some flag => if flag.isAlphabet then refuse else readRemoved fuel (flag :: removed)
      | none => refuse
    | _ => refuse

def scopedFlags (added removed : List Flag) : Reading FlagGroup :=
  if added.contains .plainOnly || removed.contains .plainOnly || added.any removed.contains then
    refuse
  else pure (.scoped added removed)

/-- Read the flags of a group from the first letter or the minus on, which has been taken. -/
def readFlags : Nat → List Flag → Char → Reading FlagGroup
  | 0, _, _ => refuse
  | fuel + 1, added, c =>
    match c with
    | ')' => if added.isEmpty then refuse else pure (.whole added)
    | ':' => if added.isEmpty then refuse else scopedFlags added []
    | '-' => do
      if added.contains .plainOnly then refuse
      let removed ← readRemoved ((← get).left.length + 1) []
      scopedFlags added removed
    | _ =>
      match Flag.ofChar? c with
      | none => refuse
      | some flag => do
        let added := flag :: added
        if added.contains .ascii && added.contains .unicode then refuse
        match ← takePiece with
        | some (.plain next) => readFlags fuel added next
        | _ => refuse

/-! ## Groups -/

def openGroup (name : Option String) : Reading Nat := do
  let s ← get
  let index := s.widths.length
  match name with
  | none => set { s with widths := s.widths ++ [none] }
  | some name =>
    if (s.names.lookup name).isSome then refuse
    set { s with widths := s.widths ++ [none], names := (name, index) :: s.names }
  pure index

def closeGroup (index : Nat) (body : Node) : Reading Unit :=
  modify fun s => { s with widths := s.widths.set index (some body.width) }

/-- The first number that no group can have. -/
def maxGroups : Nat := 1073741823

/-- The group that a reference by name or by number is to, for a condition. -/
def conditionGroup (name : String) : Reading Nat := do
  if Text.isIdentifier name then
    match (← get).names.lookup name with
    | some index => pure index
    | none => refuse
  else
    -- a negative number is no group, just as zero is none
    let index := ((readInt? name).getD 0).toNat
    if index == 0 || maxGroups ≤ index then refuse
    modify fun s => { s with asked := index :: s.asked }
    pure index

def skipComment : Reading Unit := do
  let left := (← get).left
  let comment := left.takeWhile (· != .plain ')')
  if comment.length == left.length then refuse
  modify fun s => { s with left := s.left.drop (comment.length + 1) }
  let _ ← peek

def requireClosing : Reading Unit := do
  if !(← accept ')') then refuse

/-- What an opening bracket and the signs after it open. -/
inductive Opening where
  | capture (name : Option String)
  | plain (flags : List Flag)
  | atomic
  | look (behind negated : Bool)
  | condition (index : Nat)
  | item (node : Node)
  | comment
  | flags (flags : List Flag)

def readNamed (flags : List Flag) : Reading Opening := do
  if ← accept '<' then
    let name ← takeName '>'
    if Text.isIdentifier name then pure (.capture (some name)) else refuse
  else if ← accept '=' then
    let name ← takeName ')'
    if !Text.isIdentifier name then refuse
    match (← get).names.lookup name with
    | none => refuse
    | some index =>
      checkReference index
      let width := ((← get).widths[index]?.bind id).getD (0, 0)
      pure (.item (.backref (foldOf flags) index width.1 width.2))
  else refuse

def readOpening (flags : List Flag) : Reading Opening := do
  if !(← accept '?') then pure (.capture none)
  else
    match ← takePiece with
    | some (.plain 'P') => readNamed flags
    | some (.plain ':') => pure (.plain flags)
    | some (.plain '#') => do
      skipComment
      pure .comment
    | some (.plain '=') => pure (.look false false)
    | some (.plain '!') => pure (.look false true)
    | some (.plain '<') =>
      match ← takePiece with
      | some (.plain '=') => pure (.look true false)
      | some (.plain '!') => pure (.look true true)
      | _ => refuse
    | some (.plain '(') => do
      let name ← takeName ')'
      let index ← conditionGroup name
      checkBehind index
      pure (.condition index)
    | some (.plain '>') => pure .atomic
    | some (.plain c) =>
      if c == '-' || (Flag.ofChar? c).isSome then do
        match ← readFlags ((← get).left.length + 1) [] c with
        | .whole flags => pure (.flags flags)
        | .scoped added removed => pure (.plain (changeFlags flags added removed))
      else refuse
    | _ => refuse

/-! ## Patterns -/

/-- How many calls the reader may nest.  It stops at a thousand, some of which its callers hold. -/
def maxCalls : Nat := 980

/-- How many calls deeper the inside of an opening is read: that of a condition is a sequence, that
of anything else has alternatives, which are sequences. -/
def Opening.calls : Opening → Nat
  | .condition _ => 1
  | _ => 2

/-- What may not be repeated: a place, and a repetition. -/
inductive ItemKind where
  | place
  | repetition
  | other
  deriving DecidableEq

structure Item where
  kind : ItemKind
  node : Node

/-- The parts of a sequence, held in reverse, as one part. -/
def sequenceOf : List Item → Node
  | [] => .empty
  | [item] => item.node
  | item :: earlier => .seq (sequenceOf earlier) item.node

/-- The alternatives of a pattern, held in reverse, as one part. -/
def alternativesOf : List Node → Node
  | [] => .empty
  | [node] => node
  | node :: earlier => .alt (alternativesOf earlier) node

def escapeItem (flags : List Flag) (escape : Escape) : Reading Item := do
  let fold := foldOf flags
  match escape with
  | .code code => pure ⟨.other, .one (.ofCode fold code)⟩
  | .kind kind negated =>
    pure ⟨.other, .one ⟨fold, false, [.kind kind (flags.contains .ascii) negated]⟩⟩
  | .place place => pure ⟨.place, .place place⟩
  | .group index =>
    let width := ((← get).widths[index]?.bind id).getD (0, 0)
    pure ⟨.other, .backref fold index width.1 width.2⟩

/-- Skip white space and comments in a pattern that is written out; tells whether the character
was one of them. -/
def skipVerbose (flags : List Flag) (c : Char) : Reading Bool := do
  if !flags.contains .verbose then pure false
  else if isAsciiBlank c then pure true
  else if c == '#' then
    let left := (← get).left
    let comment := left.takeWhile (· != .plain '\n')
    if comment.contains .dangling then refuse
    modify fun s => { s with left := s.left.drop (comment.length + 1) }
    let _ ← peek
    pure true
  else pure false

def repeatLast (counts : Nat × Option Nat) (items : List Item) : Reading (List Item) := do
  match items with
  | [] => refuse
  | last :: earlier =>
    if last.kind != .other then refuse
    let greed ← readGreed
    pure (⟨.repetition, .repeated greed counts.1 counts.2 last.node⟩ :: earlier)

mutual

/-- Read alternatives up to a closing bracket or the end.  `calls` says how many calls may still
nest, `outer` whether this is the whole pattern. -/
def readAlternatives (outer : Bool) (calls : Nat) :
    Nat → List Flag → List Node → Reading Node
  | 0, _, _ => refuse
  | fuel + 1, flags, read => do
    let node ← readSequence (outer && read.isEmpty) calls fuel flags []
    if ← accept '|' then
      let whole := (← get).flags
      readAlternatives outer calls fuel (if outer then whole else flags) (node :: read)
    else pure (alternativesOf (node :: read))

/-- Read a sequence after the parts already read, held in reverse.  `leading` says whether flags
for the whole pattern may stand in front of it. -/
def readSequence (leading : Bool) (calls : Nat) :
    Nat → List Flag → List Item → Reading Node
  | 0, _, _ => refuse
  | fuel + 1, flags, items => do
    match ← peek with
    | none | some (.plain '|') | some (.plain ')') => pure (sequenceOf items)
    | some piece => do
      let _ ← takePiece
      match piece with
      | .dangling => refuse
      | .escaped c => do
        let escape ← readEscape (flags.contains .ascii) c
        let item ← escapeItem flags escape
        readSequence leading calls fuel flags (item :: items)
      | .plain c =>
        if ← skipVerbose flags c then readSequence leading calls fuel flags items
        else if c == '[' then
          let node ← readSet flags
          readSequence leading calls fuel flags (⟨.other, node⟩ :: items)
        else if c == '?' || c == '*' || c == '+' || c == '\x7b' then
          match ← readRepeat? c with
          | none =>
            let item : Item := ⟨.other, .one (.ofCode (foldOf flags) c.toNat)⟩
            readSequence leading calls fuel flags (item :: items)
          | some counts =>
            let items ← repeatLast counts items
            readSequence leading calls fuel flags items
        else if c == '.' then
          let item : Item := ⟨.other, .any (flags.contains .dotAll)⟩
          readSequence leading calls fuel flags (item :: items)
        else if c == '^' then
          let place := if flags.contains .multiline then Place.lineStart else .textStart
          readSequence leading calls fuel flags (⟨.place, .place place⟩ :: items)
        else if c == '$' then
          let place := if flags.contains .multiline then Place.lineEnd else .finalBreak
          readSequence leading calls fuel flags (⟨.place, .place place⟩ :: items)
        else if c == '(' then
          match ← readOpening flags with
          | .comment => readSequence leading calls fuel flags items
          | .item node => readSequence leading calls fuel flags (⟨.other, node⟩ :: items)
          | .flags whole =>
            if !leading || !items.isEmpty then refuse
            modify fun s => { s with flags := s.flags ++ whole }
            let flags := (← get).flags
            readSequence leading calls fuel flags items
          | opening =>
            if calls < opening.calls then throw .tooDeep
            let node ← readGroup (calls - opening.calls) fuel flags opening
            readSequence leading calls fuel flags (⟨.other, node⟩ :: items)
        else
          let item : Item := ⟨.other, .one (.ofCode (foldOf flags) c.toNat)⟩
          readSequence leading calls fuel flags (item :: items)

def readGroup (calls : Nat) : Nat → List Flag → Opening → Reading Node
  | 0, _, _ => refuse
  | fuel + 1, flags, opening => do
    match opening with
    | .capture name =>
      let index ← openGroup name
      let body ← readAlternatives false calls fuel flags []
      requireClosing
      if calls < body.widthDepth then throw .tooDeep
      closeGroup index body
      pure (.group index body)
    | .plain inner =>
      let body ← readAlternatives false calls fuel inner []
      requireClosing
      pure body
    | .atomic =>
      let body ← readAlternatives false calls fuel flags []
      requireClosing
      pure (.atomic body)
    | .look behind negated =>
      let outerBehind := (← get).behind
      if behind && outerBehind.isNone then
        modify fun s => { s with behind := some s.widths.length }
      let body ← readAlternatives false calls fuel flags []
      if behind then modify fun s => { s with behind := outerBehind }
      requireClosing
      pure (.look behind negated body)
    | .condition index =>
      let yes ← readSequence false calls fuel flags []
      let branched ← accept '|'
      let no ← if branched then readSequence false calls fuel flags [] else pure .empty
      if (← peek) == some (.plain '|') then refuse
      requireClosing
      pure (.ifGroup index yes no)
    | .item _ | .comment | .flags _ => refuse

end

def readWhole : Reading Node := do
  let fuel := 3 * (← get).left.length + 3
  let node ← readAlternatives true maxCalls fuel [] []
  let s ← get
  if s.flags.contains .ascii && s.flags.contains .unicode then refuse
  if !s.left.isEmpty then refuse
  if s.asked.any (s.widths.length ≤ ·) then refuse
  if s.flags.contains .plainOnly && node.repeats then refuse
  if !node.looksBehindFixed then refuse
  -- what was read is gone through twice, the second time with two calls more than the reader has
  if maxCalls < node.widthDepth || maxCalls + 2 < node.depth then throw .tooDeep
  pure node

def ofText (text : String) : Except Error Node := do
  let start : ReadState := ⟨piecesOf text.toList, [none], [], none, [], []⟩
  let (node, _) ← readWhole.run start
  pure node

end SheetAudit.Pattern
