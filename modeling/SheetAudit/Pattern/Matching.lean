import SheetAudit.Pattern.Tree

/-!
# Matching patterns

A part of a pattern is matched at a point of the text and hands every point that it can reach, in
order of preference, to what comes after it, until that succeeds.  A repetition may go round once
without moving on, and then stops.
-/

namespace SheetAudit.Pattern

/-- A point of the text, with the texts that the groups have taken. -/
structure Point where
  before : List Char
  after : List Char
  place : Nat
  taken : List (Nat × List Char)
  deriving Repr

/-- What comes after a part: the point where the whole match ends, if it succeeds. -/
abbrev Rest := Point → Option Point

/-- A part as what it does at a point with what comes after it. -/
abbrev Part := Point → Rest → Option Point

namespace Point

def step? (p : Point) : Option (Char × Point) :=
  match p.after with
  | [] => none
  | c :: rest => some (c, { p with before := c :: p.before, after := rest, place := p.place + 1 })

def forward : Nat → Point → Point
  | 0, p => p
  | n + 1, p =>
    match p.step? with
    | some (_, p) => forward n p
    | none => p

def back : Nat → Point → Point
  | 0, p => p
  | n + 1, p =>
    match p.before with
    | [] => p
    | c :: rest => back n { p with before := rest, after := c :: p.after, place := p.place - 1 }

end Point

def Place.holds (place : Place) (p : Point) : Bool :=
  match place with
  | .textStart => p.before.isEmpty
  | .textEnd => p.after.isEmpty
  | .lineStart => p.before.isEmpty || p.before.head? == some '\n'
  | .lineEnd => p.after.isEmpty || p.after.head? == some '\n'
  | .finalBreak => p.after.isEmpty || p.after == ['\n']
  | .boundary asciiOnly negated =>
    let isWord := fun (c : Option Char) => c.any (CharClass.word.holds asciiOnly)
    if p.before.isEmpty && p.after.isEmpty then false
    else (isWord p.before.head? != isWord p.after.head?) != negated

def startsWith (fold : Fold) : List Char → List Char → Bool
  | [], _ => true
  | _ :: _, [] => false
  | c :: rest, d :: others => fold.lower c == fold.lower d && startsWith fold rest others

/-- Repeat a part as often as possible, then fewer times.  `count` tells how often it has matched
and `last` where it was tried last. -/
def greedyLoop (part : Part) (least : Nat) (most : Option Nat) (rest : Rest) :
    Nat → Nat → Option Nat → Point → Option Point
  | 0, _, _, _ => none
  | fuel + 1, count, last, p =>
    if count < least then
      part p (greedyLoop part least most rest fuel (count + 1) last)
    else if most.all (count < ·) && last != some p.place then
      match part p (greedyLoop part least most rest fuel (count + 1) (some p.place)) with
      | some done => some done
      | none => rest p
    else rest p

/-- Repeat a part as seldom as possible, then more times. -/
def lazyLoop (part : Part) (least : Nat) (most : Option Nat) (rest : Rest) :
    Nat → Nat → Option Nat → Point → Option Point
  | 0, _, _, _ => none
  | fuel + 1, count, last, p =>
    if count < least then
      part p (lazyLoop part least most rest fuel (count + 1) last)
    else
      match rest p with
      | some done => some done
      | none =>
        if most.all (count < ·) && last != some p.place then
          part p (lazyLoop part least most rest fuel (count + 1) (some p.place))
        else none

/-- Repeat a part as often as possible, every time in the way it matches first. -/
def possessiveLoop (part : Part) (least : Nat) (most : Option Nat) :
    Nat → Nat → Option Nat → Point → Option Point
  | 0, _, _, _ => none
  | fuel + 1, count, last, p =>
    if count < least then
      match part p some with
      | some next => possessiveLoop part least most fuel (count + 1) last next
      | none => none
    else if most.all (count < ·) && last != some p.place then
      match part p some with
      | some next => possessiveLoop part least most fuel (count + 1) (some p.place) next
      | none => some p
    else some p

namespace Node

def run : Node → Point → Rest → Option Point
  | .empty, p, rest => rest p
  | .one letter, p, rest =>
    match p.step? with
    | some (c, next) => if letter.holds c then rest next else none
    | none => none
  | .any breaks, p, rest =>
    match p.step? with
    | some (c, next) => if breaks || c != '\n' then rest next else none
    | none => none
  | .place spot, p, rest => if spot.holds p then rest p else none
  | .backref fold index _ _, p, rest =>
    match p.taken.lookup index with
    | some text => if startsWith fold text p.after then rest (p.forward text.length) else none
    | none => none
  | .seq first second, p, rest => first.run p fun next => second.run next rest
  | .alt first second, p, rest =>
    match first.run p rest with
    | some done => some done
    | none => second.run p rest
  | .group index body, p, rest =>
    body.run p fun next =>
      rest { next with taken := (index, p.after.take (next.place - p.place)) :: next.taken }
  | .atomic body, p, rest =>
    match body.run p some with
    | some next => rest next
    | none => none
  | .repeated greed least most body, p, rest =>
    let fuel := least + p.after.length + 3
    match greed with
    | .greedy => greedyLoop body.run least most rest fuel 0 none p
    | .lazy => lazyLoop body.run least most rest fuel 0 none p
    | .possessive =>
      match possessiveLoop body.run least most fuel 0 none p with
      | some next => rest next
      | none => none
  | .look behind negated body, p, rest =>
    let width := if behind then body.width.1 else 0
    let found := if p.place < width then none else body.run (p.back width) some
    match found with
    | some next => if negated then none else rest { p with taken := next.taken }
    | none => if negated then rest p else none
  | .ifGroup index yes no, p, rest =>
    if (p.taken.lookup index).isSome then yes.run p rest else no.run p rest

def foundFrom (node : Node) (before : List Char) (place : Nat) : List Char → Bool
  | [] => (node.run ⟨before, [], place, []⟩ some).isSome
  | c :: after =>
    (node.run ⟨before, c :: after, place, []⟩ some).isSome ||
      foundFrom node (c :: before) (place + 1) after

def found (node : Node) (text : List Char) : Bool :=
  foundFrom node [] 0 text

end Node

end SheetAudit.Pattern
