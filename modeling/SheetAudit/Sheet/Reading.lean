import SheetAudit.Sheet.Source
import SheetAudit.Table.Scanner

/-!
# Reading sheets

Sheets are read in chunks of a size, and scanned for tables with lookaheads.
-/

namespace SheetAudit

structure ReadOptions where
  chunkSize : Nat
  verticalLookahead : Int
  matrixLookahead : Int
  chunkSize_pos : 0 < chunkSize

namespace ReadOptions

def default : ReadOptions := ⟨1000, 50, 100, by decide⟩

def chunkSizeMessage : String := "chunk_size must be at least 1"

/-- The options with a chunk size and lookaheads; a chunk has at least one row. -/
def ofInts? (chunkSize verticalLookahead matrixLookahead : Int) : Option ReadOptions :=
  if h : 0 < chunkSize then
    some ⟨chunkSize.toNat, verticalLookahead, matrixLookahead, by omega⟩
  else none

def scanOptions (options : ReadOptions) : ScanOptions :=
  { ScanOptions.default with
    verticalLookahead := options.verticalLookahead
    matrixLookahead := options.matrixLookahead }

end ReadOptions

inductive TablesError where
  | file (cause : FileError)
  | scan (cause : ScanError)
  deriving Repr, DecidableEq

def TablesError.message : TablesError → String
  | .file cause => cause.message
  | .scan cause => cause.message

def tablesOfChunks (options : ScanOptions) (stream : ChunkStream FileError) :
    Except TablesError (List Table) := do
  let rows := stream.chunks.flatMap (·.rows)
  let scanner ← ((Scanner.start options).feedRows rows).mapError .scan
  match stream.fault? with
  | some fault => throw (.file fault)
  | none => scanner.finish.2.mapError .scan

namespace Folder

def chunksOf (folder : Folder) (options : ReadOptions) (sheet : SheetSource) :
    ChunkStream FileError :=
  (folder.rowsOf sheet).chunked options.chunkSize

def tablesOf (folder : Folder) (options : ReadOptions) (sheet : SheetSource) :
    Except TablesError (List Table) :=
  tablesOfChunks options.scanOptions (folder.chunksOf options sheet)

end Folder

end SheetAudit
