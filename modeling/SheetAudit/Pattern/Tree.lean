import SheetAudit.Text.Casing
import SheetAudit.Text.Character

/-!
# Patterns as trees

The parts of a pattern, with its flags worked into them.  A flag is a letter that changes how a
pattern or one of its groups is read and matched.

A pattern asks of one character that it lies in a set, or outside of it.  A set has single codes,
ranges of codes and classes.  Where case is set aside and the set has a letter with case, the
small form of the character is looked up among the small forms of the set.

Every part matches texts of a least and a greatest length; a part looked for behind a place must
have one length.
-/

namespace SheetAudit.Pattern

open Text

/-! ## Single characters -/

/-- How far the case of letters is set aside: not at all, for ASCII letters, for all. -/
inductive Fold where
  | exact
  | ascii
  | full
  deriving Repr, DecidableEq

inductive CharClass where
  | digit
  | blank
  | word
  deriving Repr, DecidableEq

inductive Entry where
  | code (code : Nat)
  | range (first last : Nat)
  | kind (kind : CharClass) (asciiOnly negated : Bool)
  deriving Repr, DecidableEq

/-- A set of characters, or of all others. -/
structure Letter where
  fold : Fold
  negated : Bool
  entries : List Entry
  deriving Repr, DecidableEq

def isAsciiBlank (c : Char) : Bool :=
  c == ' ' || (9 ≤ c.toNat && c.toNat ≤ 13)

def CharClass.holds (kind : CharClass) (asciiOnly : Bool) (c : Char) : Bool :=
  match kind, asciiOnly with
  | .digit, true => c.isDigit
  | .digit, false => isDigit c
  | .blank, true => isAsciiBlank c
  | .blank, false => isBlank c
  | .word, true => isAsciiWordChar c
  | .word, false => isWordChar c

/-- The small form of a character as far as case is set aside. -/
def Fold.lower (fold : Fold) (c : Char) : Char :=
  match fold with
  | .exact => c
  | .ascii => c.toLower
  | .full => lowerChar c

/-- The small forms that count as one with a small form. -/
def Fold.siblings (fold : Fold) (small : Char) : List Char :=
  match fold with
  | .full => caseSiblingsOf small
  | _ => [small]

def Fold.sources (fold : Fold) (small : Char) : List Nat :=
  match fold with
  | .exact => [small.toNat]
  | .ascii => if small.isLower then [small.toNat, small.toNat - 32] else [small.toNat]
  | .full =>
    small.toNat :: lowerRuns.filterMap fun run =>
      let code := (small.toNat - run.distance : Int).toNat
      if run.holds code then some code else none

/-- Whether a run has a code between two codes. -/
def runMeets (run : CaseRun) (first last : Nat) : Bool :=
  let start :=
    if first ≤ run.first then run.first
    else run.first + (first - run.first + run.step - 1) / run.step * run.step
  start ≤ run.last && start ≤ last

/-- Whether some letter with case has a code between two codes. -/
def Fold.meetsCase (fold : Fold) (first last : Nat) : Bool :=
  match fold with
  | .exact => false
  | .ascii => (first ≤ 90 && 65 ≤ last) || (first ≤ 122 && 97 ≤ last)
  | .full =>
    lowerRuns.any (runMeets · first last) || upperRuns.any (runMeets · first last) ||
      upperSpellings.any fun entry => first ≤ entry.1 && entry.1 ≤ last

def Entry.hasCase (fold : Fold) : Entry → Bool
  | .code value => fold.meetsCase value value
  | .range first last => fold.meetsCase first last
  | .kind .. => false

/-- Whether an entry holds a character as it is. -/
def Entry.holds (c : Char) : Entry → Bool
  | .code value => value == c.toNat
  | .range first last => first ≤ c.toNat && c.toNat ≤ last
  | .kind cls asciiOnly negated => cls.holds asciiOnly c != negated

/-- Whether an entry holds a character in any case. -/
def Entry.holdsFolded (fold : Fold) (c : Char) (entry : Entry) : Bool :=
  let small := fold.lower c
  match entry with
  | .kind .. => entry.holds small
  | .code value => (fold.siblings small).any fun s => (fold.sources s).contains value
  | .range first last =>
    (fold.siblings small).any fun s =>
      (fold.sources s).any fun code => first ≤ code && code ≤ last

namespace Letter

def holds (letter : Letter) (c : Char) : Bool :=
  let inside :=
    if letter.fold != .exact && letter.entries.any (Entry.hasCase letter.fold) then
      letter.entries.any (Entry.holdsFolded letter.fold c)
    else letter.entries.any (Entry.holds c)
  inside != letter.negated

def ofCode (fold : Fold) (code : Nat) : Letter := ⟨fold, false, [.code code]⟩

end Letter

/-! ## Flags -/

inductive Flag where
  | ascii
  | ignoreCase
  | multiline
  | dotAll
  | plainOnly
  | unicode
  | verbose
  deriving Repr, DecidableEq

def Flag.ofChar? : Char → Option Flag
  | 'a' => some .ascii
  | 'i' => some .ignoreCase
  | 'm' => some .multiline
  | 's' => some .dotAll
  | 't' => some .plainOnly
  | 'u' => some .unicode
  | 'x' => some .verbose
  | _ => none

def Flag.isAlphabet (flag : Flag) : Bool :=
  flag == .ascii || flag == .unicode

/-- The flags of a group: those added and those taken away; or flags for the whole pattern. -/
inductive FlagGroup where
  | whole (flags : List Flag)
  | scoped (added removed : List Flag)

/-- The flags in force after adding and removing some; a new alphabet replaces the old. -/
def changeFlags (flags added removed : List Flag) : List Flag :=
  let kept := if added.any Flag.isAlphabet then flags.filter (!·.isAlphabet) else flags
  (kept ++ added).filter (!removed.contains ·)

def foldOf (flags : List Flag) : Fold :=
  if flags.contains .ignoreCase then (if flags.contains .ascii then .ascii else .full) else .exact

/-! ## Parts -/

inductive Place where
  | textStart
  | textEnd
  | lineStart
  | lineEnd
  | finalBreak
  | boundary (asciiOnly negated : Bool)
  deriving Repr, DecidableEq

/-- In which order the counts of a repetition are tried, and whether others are tried at all. -/
inductive Greed where
  | greedy
  | lazy
  | possessive
  deriving Repr, DecidableEq

inductive Node where
  | empty
  | one (letter : Letter)
  | any (breaks : Bool)
  | place (place : Place)
  | backref (fold : Fold) (group : Nat) (least most : Nat)
  | seq (first second : Node)
  | alt (first second : Node)
  | group (index : Nat) (body : Node)
  | atomic (body : Node)
  | repeated (greed : Greed) (least : Nat) (most : Option Nat) (body : Node)
  | look (behind negated : Bool) (body : Node)
  | ifGroup (index : Nat) (yes no : Node)
  deriving Repr, Inhabited

/-- The length that stands for all greater ones. -/
def maxWidth : Nat := 18446744073709551616

def maxLookBehind : Nat := 4294967295

namespace Node

/-- The least and the greatest length of the texts that a part matches. -/
def width : Node → Nat × Nat
  | .empty | .place _ | .look .. => (0, 0)
  | .one _ | .any _ => (1, 1)
  | .backref _ _ least most => (least, most)
  | .seq first second =>
    let (least, most) := first.width
    let (nextLeast, nextMost) := second.width
    (min (least + nextLeast) maxWidth, min (most + nextMost) maxWidth)
  | .alt first second | .ifGroup _ first second =>
    let (least, most) := first.width
    let (otherLeast, otherMost) := second.width
    (min least otherLeast, max most otherMost)
  | .group _ body | .atomic body => body.width
  | .repeated _ least most body =>
    let (shortest, longest) := body.width
    let longest := match most with
      | some most => longest * most
      | none => if longest == 0 then 0 else maxWidth
    (min (shortest * least) maxWidth, min longest maxWidth)

/-- How deep one goes into a part to find its lengths.  Alternatives of one choice are equally
deep, and a sequence no deeper than its parts; the lengths of a group are known since it was
closed, and a look has none. -/
def widthDepth : Node → Nat
  | .empty | .one _ | .any _ | .place _ | .backref .. | .look .. => 0
  | .group .. => 1
  | .seq first second => max first.widthDepth second.widthDepth
  | .alt first second =>
    let before := match first with
      | .alt .. => first.widthDepth
      | _ => first.widthDepth + 1
    max before (second.widthDepth + 1)
  | .ifGroup _ first second => max first.widthDepth second.widthDepth + 1
  | .atomic body | .repeated _ _ _ body => body.widthDepth + 1

/-- How deep a part nests.  A set of more than one code is one level deeper than a code, and what
is looked for behind a place is gone into for its lengths once more. -/
def depth : Node → Nat
  | .empty | .any _ | .place _ | .backref .. => 0
  | .one letter => match letter.entries with
    | [.code _] => 0
    | _ => 1
  | .seq first second => max first.depth second.depth
  | .alt first second =>
    let before := match first with
      | .alt .. => first.depth
      | _ => first.depth + 1
    max before (second.depth + 1)
  | .ifGroup _ first second => max first.depth second.depth + 1
  | .look true _ body => max body.depth (body.widthDepth + 1) + 1
  | .group _ body | .atomic body | .repeated _ _ _ body | .look _ _ body => body.depth + 1

/-- Whether every part looked for behind a place has one length. -/
def looksBehindFixed : Node → Bool
  | .empty | .one _ | .any _ | .place _ | .backref .. => true
  | .seq first second | .alt first second | .ifGroup _ first second =>
    first.looksBehindFixed && second.looksBehindFixed
  | .group _ body | .atomic body | .repeated _ _ _ body => body.looksBehindFixed
  | .look behind _ body =>
    (!behind || (body.width.1 == body.width.2 && body.width.1 ≤ maxLookBehind)) &&
      body.looksBehindFixed

def repeats : Node → Bool
  | .empty | .one _ | .any _ | .place _ | .backref .. => false
  | .seq first second | .alt first second | .ifGroup _ first second =>
    first.repeats || second.repeats
  | .group _ body | .atomic body | .look _ _ body => body.repeats
  | .repeated .. => true

end Node

end SheetAudit.Pattern
