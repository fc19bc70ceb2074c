/-!
# Lists and texts in pieces

A list is cut into pieces of one size; only the last piece may be shorter.  A separator cuts a text
into parts; a text without it is one part.  A text is broken into lines at the line feed, the
carriage return, the pair of both, and the vertical, page, separator, next-line, line and paragraph
breaks of Unicode.  A break at the end opens no further line.
-/

namespace SheetAudit

/-- A list cut into pieces of a size, the last one holding what is left. -/
def pieces {α : Type} (size : Nat) (xs : List α) : List (List α) :=
  if _h : xs.isEmpty || size == 0 then (if xs.isEmpty then [] else [xs])
  else xs.take size :: pieces size (xs.drop size)
termination_by xs.length
decreasing_by
  simp at _h
  have : 0 < xs.length := List.length_pos_iff.mpr _h.1
  simp only [List.length_drop]
  omega

end SheetAudit

namespace SheetAudit.Text

def partsBetween (separator : Char) : List Char → List (List Char)
  | [] => [[]]
  | c :: rest =>
    if c == separator then [] :: partsBetween separator rest
    else
      match partsBetween separator rest with
      | [] => [[c]]
      | part :: parts => (c :: part) :: parts

def isLineBreak (c : Char) : Bool :=
  c == '\n' || c == '\r' || c == '\x0b' || c == '\x0c' || c == '\x1c' || c == '\x1d' ||
    c == '\x1e' || c == '\x85' || c == '\u2028' || c == '\u2029'

/-- The lines of a list of characters, the current line being held in reverse. -/
def linesFrom (current : List Char) : List Char → List (List Char)
  | [] => if current.isEmpty then [] else [current.reverse]
  | '\r' :: '\n' :: rest => current.reverse :: linesFrom [] rest
  | c :: rest =>
    if isLineBreak c then current.reverse :: linesFrom [] rest
    else linesFrom (c :: current) rest

/-- The lines of a text, without their breaks. -/
def lines (s : String) : List String :=
  (linesFrom [] s.toList).map String.ofList

/-- A list of characters in which every carriage return, alone or before a line feed, has become
a line feed. -/
def unifyNewlines : List Char → List Char
  | [] => []
  | '\r' :: '\n' :: rest => '\n' :: unifyNewlines rest
  | c :: rest => (if c == '\r' then '\n' else c) :: unifyNewlines rest

end SheetAudit.Text
