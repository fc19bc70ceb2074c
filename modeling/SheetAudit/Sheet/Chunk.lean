import SheetAudit.Address
import SheetAudit.Pieces
import SheetAudit.Table.Layout

/-!
# Chunks of a sheet

The rows of a sheet come in chunks, each of which knows the number of its first row.  A stream of
chunks ends with the sheet or breaks off with a fault; rows that came after the last whole chunk
are then lost.
-/

namespace SheetAudit

/-- Consecutive rows of a sheet, the first of which has the number `start`. -/
structure RowChunk where
  start : Int
  rows : List Row
  deriving Repr

/-- The item at an index; a negative index counts from the end. -/
def itemAt? {α : Type} (xs : List α) (index : Int) : Option α :=
  if 0 ≤ index then xs[index.toNat]?
  else if index.natAbs ≤ xs.length then xs[xs.length - index.natAbs]?
  else none

namespace RowChunk

/-- The number of the last row of a chunk. -/
def stop (chunk : RowChunk) : Int := chunk.start + chunk.rows.length - 1

def rowAt? (chunk : RowChunk) (number : Int) : Option Row :=
  if number < chunk.start then none else chunk.rows[(number - chunk.start).toNat]?

/-- The cell of a chunk at an address: empty outside the rows of the chunk and beyond the end of a
row.  There is none in a column that counts back beyond the start of its row. -/
def valueAt? (chunk : RowChunk) (address : Address) : Option Cell :=
  match chunk.rowAt? address.row with
  | none => some .empty
  | some row => if (row.length : Int) ≤ address.col then some .empty else itemAt? row address.col

def valueAt (chunk : RowChunk) (address : Address) : Cell :=
  (chunk.valueAt? address).getD .empty

end RowChunk

/-- Chunks made of rows that follow each other. -/
def numberedChunks (start : Nat) : List (List Row) → List RowChunk
  | [] => []
  | rows :: others => ⟨start, rows⟩ :: numberedChunks (start + rows.length) others

def chunksOf (size : Nat) (rows : List Row) : List RowChunk :=
  numberedChunks 0 (pieces size rows)

/-- The chunks that come of rows gathered since the last chunk and of rows still to come. -/
def gatherChunks (size start : Nat) (gathered : List Row) : List Row → List RowChunk
  | [] => if gathered.isEmpty then [] else [⟨start, gathered⟩]
  | row :: rows =>
    let held := gathered ++ [row]
    if held.length = size then ⟨start, held⟩ :: gatherChunks size (start + held.length) [] rows
    else gatherChunks size start held rows

/-- Rows as they come, and the fault, if any, that breaks them off. -/
structure RowStream (ε : Type) where
  rows : List Row
  fault? : Option ε

structure ChunkStream (ε : Type) where
  chunks : List RowChunk
  fault? : Option ε

/-- The chunks up to the one that reaches a row.  All chunks are taken if none does, and then a
fault, if there is one, is met. -/
def chunksThrough {ε : Type} (row : Int) (fault? : Option ε) :
    List RowChunk → Except ε (List RowChunk)
  | [] =>
    match fault? with
    | some fault => throw fault
    | none => pure []
  | chunk :: chunks =>
    if row ≤ chunk.stop then pure [chunk]
    else do
      let others ← chunksThrough row fault? chunks
      pure (chunk :: others)

def ChunkStream.through {ε : Type} (stream : ChunkStream ε) (row : Int) :
    Except ε (List RowChunk) :=
  chunksThrough row stream.fault? stream.chunks

/-- The cell at an address in some chunks, empty if none of them has its row. -/
def valueInChunks (chunks : List RowChunk) (address : Address) : Cell :=
  match chunks.find? fun chunk => chunk.start ≤ address.row && address.row ≤ chunk.stop with
  | some chunk => chunk.valueAt address
  | none => .empty

namespace RowStream

variable {ε : Type}

def broken (fault : ε) : RowStream ε := ⟨[], some fault⟩

def ofRows (rows : List Row) : RowStream ε := ⟨rows, none⟩

def mapFault {δ : Type} (f : ε → δ) (stream : RowStream ε) : RowStream δ :=
  ⟨stream.rows, stream.fault?.map f⟩

def chunked (size : Nat) (stream : RowStream ε) : ChunkStream ε :=
  let chunks := chunksOf size stream.rows
  match stream.fault? with
  | none => ⟨chunks, none⟩
  | some fault => ⟨chunks.filter (·.rows.length == size), some fault⟩

/-- All rows of a stream, or the fault that breaks them off. -/
def toRows (stream : RowStream ε) : Except ε (List Row) :=
  match stream.fault? with
  | none => .ok stream.rows
  | some fault => .error fault

end RowStream

end SheetAudit
