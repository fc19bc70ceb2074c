import SheetAudit.Sheet.Csv
import SheetAudit.Sheet.Folder
import SheetAudit.Text.Casing

/-!
# Sheets of a file

The extension of its path says how a file is read.  A file of comma-separated records has one
sheet, a workbook those that it lists.  Opening a file lists its sheets; the rows of a sheet are
read from the file anew each time, so a file that has changed since shows its new rows.  A sheet of
the newer workbook format is found again by its place, one of the older format by its name.
-/

namespace SheetAudit

inductive FileKind where
  | xlsx
  | xls
  | csv
  deriving Repr, DecidableEq

def FileKind.text : FileKind → String
  | .xlsx => "xlsx"
  | .xls => "xls"
  | .csv => "csv"

structure SheetSource where
  index : Nat
  name : String
  path : String
  kind : FileKind
  deriving Repr, DecidableEq

inductive WorkbookFault where
  | path (cause : PathFault)
  | notZipped
  | unknownFormat
  | noSheetNamed (name : String)
  deriving Repr, DecidableEq

inductive RecordsFault where
  | path (cause : PathFault)
  | records (cause : Csv.Fault)
  deriving Repr, DecidableEq

inductive FileError where
  | unsupported (extension : String) (path : Option String)
  | missing (path : String)
  | noSheets (path : String)
  | workbook (cause : WorkbookFault) (path : String)
  | records (cause : RecordsFault) (path : String)
  | noSuchSheet
  | feed (cause : FeedFault)
  deriving Repr, DecidableEq

def WorkbookFault.message (path : String) : WorkbookFault → String
  | .path cause => cause.message path
  | .notZipped => "File is not a zip file"
  | .unknownFormat => "Excel file format cannot be determined, you must specify an engine manually."
  | .noSheetNamed name => "Worksheet named '" ++ name ++ "' not found"

def RecordsFault.message (path : String) : RecordsFault → String
  | .path cause => cause.message path
  | .records cause => cause.message

namespace FileError

def message : FileError → String
  | .unsupported extension _ =>
    "Unsupported file type: " ++ (if extension.isEmpty then "<none>" else extension)
  | .missing path => "File does not exist at path: " ++ path
  | .noSheets _ => "No worksheet found in the Excel file"
  | .workbook cause path => "Failed to read Excel file: " ++ cause.message path
  | .records cause path => "Failed to read CSV file: " ++ cause.message path
  | .noSuchSheet => "list index out of range"
  | .feed cause => cause.message

/-- Whether an error says that the file as such cannot be read. -/
def isFatal : FileError → Bool
  | .missing _ | .noSheets _ | .workbook _ _ | .records _ _ => true
  | .feed cause => cause.kind = .fatal
  | .unsupported _ _ | .noSuchSheet => false

/-- Whether an error says that the file is not of the right sort. -/
def isInput : FileError → Bool
  | .unsupported _ _ => true
  | .feed cause => cause.kind = .input
  | _ => false

end FileError

/-! ## Kinds of files -/

/-- The extension of a path: what follows the last point of its last part, with the point.  Points
at the start of that part begin no extension. -/
def extension (path : String) : String :=
  let name := ((Text.partsBetween '/' path.toList).getLast?.getD []).dropWhile (· == '.')
  match (Text.partsBetween '.' name).reverse with
  | last :: _ :: _ => String.ofList ('.' :: last)
  | _ => ""

def FileKind.ofPath (path : Option String) : Except FileError FileKind :=
  match Text.lower (extension (path.getD "")) with
  | ".xlsx" => pure .xlsx
  | ".xls" => pure .xls
  | ".csv" => pure .csv
  | other => throw (.unsupported other path)

/-! ## Opening -/

/-- The name of the only sheet of a file of records. -/
def recordsSheetName : String := "CSV Data"

namespace Folder

/-- The names of the sheets of a workbook of the newer format. -/
def zippedSheetNames (folder : Folder) (path : String) : Except FileError (List String) :=
  match folder.find path with
  | .error cause => throw (.workbook (.path cause) path)
  | .ok .folder => throw (.workbook (.path .isAFolder) path)
  | .ok (.bytes _) | .ok (.workbook .binary _) => throw (.workbook .notZipped path)
  | .ok (.workbook .zipped sheets) => pure (sheets.map (·.name))
  | .ok (.feed (.error fault)) => throw (.feed fault)
  | .ok (.feed (.ok sheets)) => pure (sheets.map (·.name))

/-- The names of the sheets of a workbook that is read as one of the older format. -/
def binarySheetNames (folder : Folder) (path : String) : Except FileError (List String) :=
  match folder.find path with
  | .error cause => throw (.workbook (.path cause) path)
  | .ok .folder => throw (.workbook (.path .isAFolder) path)
  | .ok (.bytes _) | .ok (.feed _) => throw (.workbook .unknownFormat path)
  | .ok (.workbook _ sheets) => pure (sheets.map (·.name))

def sheetNames (folder : Folder) (path : String) : FileKind → Except FileError (List String)
  | .csv => pure [recordsSheetName]
  | .xlsx => folder.zippedSheetNames path
  | .xls => folder.binarySheetNames path

/-- Sheets with names and places from an index on. -/
def numberedSheets (path : String) (kind : FileKind) (index : Nat) :
    List String → List SheetSource
  | [] => []
  | name :: names => ⟨index, name, path, kind⟩ :: numberedSheets path kind (index + 1) names

def openSheets (folder : Folder) (path : Option String) : Except FileError (List SheetSource) := do
  let kind ← FileKind.ofPath path
  let path := path.getD ""
  if !folder.has path then throw (.missing path)
  let names ← folder.sheetNames path kind
  if names.isEmpty then throw (.noSheets path)
  pure (numberedSheets path kind 0 names)

/-! ## Reading -/

def zippedSheetRows (folder : Folder) (sheet : SheetSource) : RowStream FileError :=
  match folder.find sheet.path with
  | .error cause => .broken (.workbook (.path cause) sheet.path)
  | .ok .folder => .broken (.workbook (.path .isAFolder) sheet.path)
  | .ok (.bytes _) | .ok (.workbook .binary _) => .broken (.workbook .notZipped sheet.path)
  | .ok (.workbook .zipped sheets) =>
    match sheets[sheet.index]? with
    | some found => .ofRows (Workbook.zippedRows found.rows)
    | none => .broken .noSuchSheet
  | .ok (.feed (.error fault)) => .broken (.feed fault)
  | .ok (.feed (.ok sheets)) =>
    match sheets[sheet.index]? with
    | some found =>
      ⟨found.rows.rows.map (·.map Cell.normalized), found.rows.fault?.map .feed⟩
    | none => .broken .noSuchSheet

def binarySheetRows (folder : Folder) (sheet : SheetSource) : RowStream FileError :=
  match folder.find sheet.path with
  | .error cause => .broken (.workbook (.path cause) sheet.path)
  | .ok .folder => .broken (.workbook (.path .isAFolder) sheet.path)
  | .ok (.bytes _) | .ok (.feed _) => .broken (.workbook .unknownFormat sheet.path)
  | .ok (.workbook _ sheets) =>
    match sheets.find? (·.name == sheet.name) with
    | some found => .ofRows (Workbook.binaryRows found.rows)
    | none => .broken (.workbook (.noSheetNamed sheet.name) sheet.path)

def recordRows (folder : Folder) (sheet : SheetSource) : RowStream FileError :=
  match folder.bytesAt sheet.path with
  | .error cause => .broken (.records (.path cause) sheet.path)
  | .ok bytes =>
    (Csv.rowsOfBytes bytes).mapFault fun cause => .records (.records cause) sheet.path

def rowsOf (folder : Folder) (sheet : SheetSource) : RowStream FileError :=
  match sheet.kind with
  | .csv => folder.recordRows sheet
  | .xlsx => folder.zippedSheetRows sheet
  | .xls => folder.binarySheetRows sheet

end Folder

end SheetAudit
