import SheetAudit.Sheet.Reading

/-!
# Sessions

A session is a folder, the options with which sheets are read, the sheets of the file that was
opened last, and named cursors.  A cursor hands out the chunks of a sheet one by one.  Its file is
read when the first chunk is asked for, and later changes of the file do not show; the size of its
chunks is fixed when it is made.  Nothing follows the last chunk or a fault.
-/

namespace SheetAudit

inductive Cursor where
  | waiting (sheet : SheetSource) (options : ReadOptions)
  | running (rest : ChunkStream FileError)
  | closed

structure Session where
  folder : Folder
  options : ReadOptions
  sheets : List SheetSource
  cursors : List (String × Cursor)

namespace Session

def start (folder : Folder) : Session := ⟨folder, .default, [], []⟩

/-- The sheet at an index; a negative index counts from the last. -/
def sheetAt (session : Session) (index : Int) : Except FileError SheetSource :=
  match itemAt? session.sheets index with
  | some sheet => pure sheet
  | none => throw .noSuchSheet

/-- Open a file.  The sheets opened before stay if it cannot be opened. -/
def openFile (session : Session) (path : Option String) :
    Session × Except FileError (List SheetSource) :=
  match session.folder.openSheets path with
  | .ok sheets => ({ session with sheets }, .ok sheets)
  | .error e => (session, .error e)

def chunks (session : Session) (index : Int) : ChunkStream FileError :=
  match session.sheetAt index with
  | .ok sheet => session.folder.chunksOf session.options sheet
  | .error e => ⟨[], some e⟩

def rows (session : Session) (index : Int) : Except FileError (List Row) := do
  let sheet ← session.sheetAt index
  (session.folder.rowsOf sheet).toRows

def tables (session : Session) (index : Int) : Except TablesError (List Table) := do
  let sheet ← (session.sheetAt index).mapError .file
  session.folder.tablesOf session.options sheet

def setCursor (session : Session) (name : String) (cursor : Cursor) : Session :=
  { session with cursors := (name, cursor) :: session.cursors.filter (·.1 != name) }

def startCursor (session : Session) (name : String) (index : Int) :
    Session × Except FileError Unit :=
  match session.sheetAt index with
  | .ok sheet => (session.setCursor name (.waiting sheet session.options), .ok ())
  | .error e => (session, .error e)

/-- Take the next chunk of a stream, if there is one, and leave the cursor after it. -/
def takeChunk (stream : ChunkStream FileError) : Cursor × Except FileError (Option RowChunk) :=
  match stream.chunks, stream.fault? with
  | chunk :: chunks, fault? => (.running ⟨chunks, fault?⟩, .ok (some chunk))
  | [], some fault => (.closed, .error fault)
  | [], none => (.closed, .ok none)

def nextChunk (session : Session) (name : String) :
    Session × Except FileError (Option RowChunk) :=
  let stream := match session.cursors.lookup name with
    | some (.waiting sheet options) => session.folder.chunksOf options sheet
    | some (.running rest) => rest
    | some .closed | none => ⟨[], none⟩
  let (cursor, chunk) := takeChunk stream
  (session.setCursor name cursor, chunk)

def closeCursor (session : Session) (name : String) : Session :=
  session.setCursor name .closed

end Session

end SheetAudit
