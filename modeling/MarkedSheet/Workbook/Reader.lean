import MarkedSheet.Csv.Reader
import MarkedSheet.Files.Tree
import MarkedSheet.Text.Case
import MarkedSheet.Workbook.Sheet

/-!
# Reading workbooks

A workbook file gives a sheet for each of its grids, a file of comma-separated records gives one
sheet with the name of the file. Blank lines of such a file are no rows. All rows are filled up to
the width of the widest, and the blank rows at the end are left out.
-/

namespace MarkedSheet

/-- Why a workbook cannot be read. -/
inductive ReadError
  /-- The file is no workbook. -/
  | notWorkbook (path : Text)
  /-- A folder has the name of a workbook. -/
  | workbookFolder (path : Text) (e : FileError)
  /-- A folder has the name of a file of records. -/
  | tableFolder (path : Text) (e : FileError)
  /-- The records are not encoded in UTF-8. -/
  | encoding (path : Text) (e : EncodingError)
  /-- The records end between quotation marks; the row is that of the last record. -/
  | unended (path : Text) (row : Nat)
  /-- Files with such a name are not read. -/
  | unsupported (name : Text)
  deriving DecidableEq, Repr

/-- The description of an error. -/
def ReadError.message : ReadError → String
  | .notWorkbook path => s!"Failed to open workbook {String.ofList path}: File is not a zip file"
  | .workbookFolder path e => s!"Failed to open workbook {String.ofList path}: {e.message}"
  | .tableFolder path e => s!"Failed to read CSV {String.ofList path}: {e.message}"
  | .encoding path e => s!"Failed to read CSV {String.ofList path}: {e.message}"
  | .unended path row => s!"Failed to read CSV {String.ofList path}: Error tokenizing data. "
      ++ s!"C error: EOF inside string starting at row {row}"
  | .unsupported name => s!"Unsupported workbook type: {String.ofList name}"

namespace CellValue

/-- A value as it is kept in a workbook: an empty text is nothing, and a day is the midnight it
begins with. -/
def kept : CellValue → CellValue
  | .text [] => .empty
  | .day iso => .moment (iso ++ "T00:00:00".toList)
  | value => value

/-- A value is there. -/
def isThere (value : CellValue) : Bool :=
  value != .empty

end CellValue

namespace Sheet

/-- The width of rows: that of the widest row without the empty values it ends with. -/
def gridWidth (rows : List (List CellValue)) : Nat :=
  (rows.map fun row => (row.reverse.dropWhile fun v => !v.isThere).length).foldl max 0

/-- The rows that the values of a grid give. -/
def gridRows (grid : List (List CellValue)) : List Row :=
  let kept := grid.map fun row => row.map CellValue.kept
  let width := gridWidth kept
  dropBlankRows (kept.map fun row => Row.fit width (row.map CellValue.toCell))

/-- The cell that a field gives. -/
def fieldCell (field : Text) : Cell :=
  if field.isEmpty then none else some field

/-- The rows that records give. -/
def recordRows (records : List Csv.Record) : List Row :=
  let width := (records.map Csv.Record.size).foldl max 0
  let lines := records.filter fun r => !r.isBlank
  dropBlankRows (lines.map fun r => Row.fit width (r.fields.map fieldCell))

end Sheet

/-- The rows of comma-separated records, or the number of the row that does not end. -/
def tableRows? (t : Text) : Except Nat (List Row) :=
  let records := Csv.records t
  if Csv.isUnended t then .error (records.length - 1) else .ok (Sheet.recordRows records)

/-- The kinds of files that are read. -/
inductive BookKind
  | workbook
  | table
  deriving DecidableEq, Repr

/-- The kind that the name of a file tells. -/
def BookKind.ofName? (name : Text) : Option BookKind :=
  let suffix := (suffixOf name).lower
  if suffix = ".xlsx".toList then some .workbook
  else if suffix = ".csv".toList then some .table
  else none

namespace FileTree

/-- The sheets of a workbook at a location. -/
def workbookSheets (tree : FileTree) (location : Location) (headerOffset : Nat) :
    Except ReadError (List Sheet) :=
  let path := tree.fullPath location
  match tree.file? location with
  | some (.workbook grids _) => .ok (grids.map fun (name, grid) =>
      ⟨name, Sheet.gridRows grid, location.getLastD [], headerOffset⟩)
  | some _ => .error (.notWorkbook path)
  | none => .error (.workbookFolder path (.isFolder path))

/-- The sheet of a file of records at a location. -/
def tableSheets (tree : FileTree) (location : Location) (headerOffset : Nat) :
    Except ReadError (List Sheet) :=
  let path := tree.fullPath location
  let name := location.getLastD []
  match tree.file? location with
  | none => .error (.tableFolder path (.isFolder path))
  | some content => match content.decodeTable with
    | .error e => .error (.encoding path e)
    | .ok t => match tableRows? t with
      | .error row => .error (.unended path row)
      | .ok rows => .ok [⟨stemOf name, rows, name, headerOffset⟩]

/-- The sheets of the file at a location, where something is. -/
def sheets (tree : FileTree) (location : Location) (headerOffset : Nat) :
    Except ReadError (List Sheet) :=
  match BookKind.ofName? (location.getLastD []) with
  | some .workbook => tree.workbookSheets location headerOffset
  | some .table => tree.tableSheets location headerOffset
  | none => .error (.unsupported (location.getLastD []))

end FileTree

end MarkedSheet
