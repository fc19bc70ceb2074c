import SheetAudit.Pieces
import SheetAudit.Text.Quoted

/-!
# Reading UTF-8

Bytes are read as the encoding's well-formed sequences, so neither overlong forms nor surrogates
are accepted.  A failure names the bytes at fault: a byte that starts no sequence, the part of a
sequence before the byte that cannot continue it, or all that is left when a sequence is cut off
by the end of the data.

`decode` reads a whole byte string.  `decodeInPieces` reads as a stream does, piece by piece, and
counts positions from the start of the bytes that it then holds.
-/

namespace SheetAudit.Text

inductive Utf8Fault where
  | invalidStart
  | invalidContinuation
  | unexpectedEnd
  deriving Repr, DecidableEq

def Utf8Fault.message : Utf8Fault → String
  | .invalidStart => "invalid start byte"
  | .invalidContinuation => "invalid continuation byte"
  | .unexpectedEnd => "unexpected end of data"

/-- A fault together with the place of the first byte at fault, that byte, and how many bytes are
at fault. -/
structure Utf8Error where
  fault : Utf8Fault
  position : Nat
  byte : UInt8
  count : Nat
  deriving Repr, DecidableEq

def Utf8Error.message (e : Utf8Error) : String :=
  let place :=
    if e.count == 1 then
      "byte 0x" ++ String.ofList (hexPadded 2 e.byte.toNat) ++ " in position " ++
        toString e.position
    else
      "bytes in position " ++ toString e.position ++ "-" ++ toString (e.position + e.count - 1)
  "'utf-8' codec can't decode " ++ place ++ ": " ++ e.fault.message

/-- How a byte can open a sequence: the bits that it adds, and for each byte that must follow the
least and the greatest value that it may have. -/
def sequenceAfter (lead : UInt8) : Option (Nat × List (UInt8 × UInt8)) :=
  let tail := (0x80, 0xbf)
  if lead < 0x80 then some (lead.toNat, [])
  else if lead < 0xc2 then none
  else if lead < 0xe0 then some (lead.toNat - 0xc0, [tail])
  else if lead == 0xe0 then some (0, [(0xa0, 0xbf), tail])
  else if lead == 0xed then some (0xd, [(0x80, 0x9f), tail])
  else if lead < 0xf0 then some (lead.toNat - 0xe0, [tail, tail])
  else if lead == 0xf0 then some (0, [(0x90, 0xbf), tail, tail])
  else if lead < 0xf4 then some (lead.toNat - 0xf0, [tail, tail, tail])
  else if lead == 0xf4 then some (4, [(0x80, 0x8f), tail, tail])
  else none

inductive Continued where
  | complete (code : Nat)
  | refused (seen : Nat)
  | cutOff (seen : Nat)

/-- Read the bytes that must follow a lead byte; `seen` counts the bytes read so far. -/
def continueSequence (code seen : Nat) : List (UInt8 × UInt8) → List UInt8 → Continued
  | [], _ => .complete code
  | _ :: _, [] => .cutOff seen
  | (low, high) :: more, byte :: rest =>
    if low ≤ byte && byte ≤ high then
      continueSequence (code * 64 + (byte.toNat - 0x80)) (seen + 1) more rest
    else .refused seen

/-- What was read of some bytes: the characters, the bytes of a sequence that the end cut off,
and the error that stopped the reading. -/
structure Decoded where
  chars : List Char
  tail : List UInt8
  error? : Option Utf8Error

/-- Read bytes from a position on; the characters read so far are held in reverse, and `skip`
bytes still belong to the last of them. -/
def decodeFrom (position skip : Nat) (read : List Char) : List UInt8 → Decoded
  | [] => ⟨read.reverse, [], none⟩
  | byte :: rest =>
    match skip with
    | skip + 1 => decodeFrom (position + 1) skip read rest
    | 0 =>
      match sequenceAfter byte with
      | none => ⟨read.reverse, [], some ⟨.invalidStart, position, byte, 1⟩⟩
      | some (bits, follow) =>
        match continueSequence bits 1 follow rest with
        | .complete code =>
          decodeFrom (position + 1) follow.length (Char.ofNat code :: read) rest
        | .refused seen =>
          ⟨read.reverse, [], some ⟨.invalidContinuation, position, byte, seen⟩⟩
        | .cutOff _ => ⟨read.reverse, byte :: rest, none⟩

/-- The error of a sequence that the end of the data cut off, at a position. -/
def cutOffError (position : Nat) : List UInt8 → Option Utf8Error
  | [] => none
  | byte :: rest => some ⟨.unexpectedEnd, position, byte, rest.length + 1⟩

def decode (bytes : List UInt8) : Except Utf8Error (List Char) :=
  let read := decodeFrom 0 0 [] bytes
  match read.error? with
  | some e => throw e
  | none =>
    match cutOffError (bytes.length - read.tail.length) read.tail with
    | some e => throw e
    | none => pure read.chars

def byteOrderMark : List UInt8 := [0xef, 0xbb, 0xbf]

/-- Read pieces one after the other, each together with the bytes that the last one left over. -/
def decodePieces (held : List UInt8) : List (List UInt8) → Except Utf8Error (List Char)
  | [] =>
    match cutOffError 0 held with
    | some e => throw e
    | none => pure []
  | piece :: pieces =>
    let read := decodeFrom 0 0 [] (held ++ piece)
    match read.error? with
    | some e => throw e
    | none => do
      let rest ← decodePieces read.tail pieces
      pure (read.chars ++ rest)

def pieceSize : Nat := 8192

/-- Read a byte string as a stream does, less one mark at its start.  A text that ends inside the
mark is empty. -/
def decodeInPieces (bytes : List UInt8) : Except Utf8Error (List Char) :=
  if bytes.length < 3 && byteOrderMark.take bytes.length == bytes then pure []
  else
    match pieces pieceSize bytes with
    | [] => pure []
    | first :: rest =>
      let first := if byteOrderMark.isPrefixOf first then first.drop 3 else first
      decodePieces [] (first :: rest)

end SheetAudit.Text
