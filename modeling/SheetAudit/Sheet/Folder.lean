import SheetAudit.Pieces
import SheetAudit.Sheet.Workbook
import SheetAudit.Text.Quoted

/-!
# Folders

A folder holds files by their paths, parts of which stand between slashes.  A file holds bytes or a
workbook; a feed is a workbook that hands out its rows just as they are and may break off with a
fault of its own.  A path that starts with a slash leads nowhere, nor does one that holds a null
character.
-/

namespace SheetAudit

inductive FeedFaultKind where
  | fatal
  | input
  | runtime
  | value
  deriving Repr, DecidableEq

structure FeedFault where
  kind : FeedFaultKind
  message : String
  deriving Repr, DecidableEq

structure FeedSheet where
  name : String
  rows : RowStream FeedFault

inductive Content where
  | folder
  | bytes (data : List UInt8)
  | workbook (format : WorkbookFormat) (sheets : List WorkbookSheet)
  | feed (sheets : Except FeedFault (List FeedSheet))

inductive PathFault where
  | nothing
  | notAFolder
  | isAFolder
  | nullCharacter
  deriving Repr, DecidableEq

def PathFault.message (path : String) : PathFault → String
  | .nothing => "[Errno 2] No such file or directory: " ++ Text.quoted path
  | .notAFolder => "[Errno 20] Not a directory: " ++ Text.quoted path
  | .isAFolder => "[Errno 21] Is a directory: " ++ Text.quoted path
  | .nullCharacter => "embedded null byte"

/-- A folder: contents by the parts of their paths. -/
structure Folder where
  entries : List (List String × Content)

namespace Folder

def parts (path : String) : List String :=
  (Text.partsBetween '/' path.toList).map String.ofList

/-- The parts of a path that name something. -/
def namedParts (path : String) : List String :=
  (parts path).filter fun part => part != "" && part != "."

def empty : Folder := ⟨[]⟩

def erase (folder : Folder) (path : String) : Folder :=
  ⟨folder.entries.filter fun entry => entry.1 != namedParts path⟩

/-- The folder with a file at a path, in place of an old one. -/
def insert (folder : Folder) (path : String) (content : Content) : Folder :=
  ⟨(folder.erase path).entries ++ [(namedParts path, content)]⟩

/-- What the parts of a path lead to.  The parts of a file's path but the last lead to folders, and
no parts lead to the folder itself. -/
def contentAt? (folder : Folder) (parts : List String) : Option Content :=
  match folder.entries.lookup parts with
  | some content => some content
  | none =>
    if folder.entries.any fun entry => parts.isPrefixOf entry.1 then some .folder
    else if parts.isEmpty then some .folder
    else none

/-- Follow the parts of a path one by one from a place given by its parts. -/
def follow (folder : Folder) (place : List String) : List String → Except PathFault Content
  | [] =>
    match folder.contentAt? place with
    | some content => pure content
    | none => throw .nothing
  | part :: parts =>
    match folder.contentAt? place with
    | none => throw .nothing
    | some .folder =>
      if part == "" || part == "." then folder.follow place parts
      else if part == ".." then folder.follow place.dropLast parts
      else folder.follow (place ++ [part]) parts
    | some _ => throw .notAFolder

def find (folder : Folder) (path : String) : Except PathFault Content :=
  if path.contains '\x00' then throw .nullCharacter
  else if path.isEmpty || path.startsWith "/" then throw .nothing
  else folder.follow [] (parts path)

def has (folder : Folder) (path : String) : Bool :=
  match folder.find path with
  | .ok _ => true
  | .error _ => false

/-- The bytes that a path leads to; a workbook has none that could be read as text. -/
def bytesAt (folder : Folder) (path : String) : Except PathFault (List UInt8) := do
  match ← folder.find path with
  | .folder => throw .isAFolder
  | .bytes data => pure data
  | .workbook _ _ | .feed _ => pure []

end Folder

end SheetAudit
