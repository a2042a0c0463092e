import MarkedSheet.Csv.Writer
import MarkedSheet.Localization.Entry
import MarkedSheet.Mapping

/-!
# Tables of localized texts

A table has a column of keys and a column for each language. Entries are merged into the column of
one language: a key that is there gets the new text, a new key gets a row at the end. Of several
columns with one name the last counts when the table is read.
-/

namespace MarkedSheet

namespace Localization

/-- The name of the column of keys. -/
def keyColumn : Text := "KeyName".toList

/-- A table with named columns. A row tells what it has under each name. -/
structure Table where
  columns : List Text
  rows : List (Mapping Text Text)
  deriving DecidableEq, Repr

/-- What a row has under a name. -/
def fieldOf (row : Mapping Text Text) (column : Text) : Text :=
  (row.get? column).getD []

namespace Table

/-- The fields of a record under their names. Missing fields are empty, additional ones are left
out. -/
def rowOf (columns fields : List Text) : Mapping Text Text :=
  .ofList (columns.zip (fields.rightpad columns.length []))

/-- The fields of a record; a line without a character has none. -/
def fieldsOf (r : Csv.Record) : List Text :=
  if r.isVacant then [] else r.fields

/-- The table that records give. The first has the names of the columns; lines without a character
are left out after it. -/
def ofRecords : List Csv.Record → Table
  | [] => ⟨[], []⟩
  | head :: rest =>
    let columns := fieldsOf head
    ⟨columns, (rest.filter fun r => !r.isVacant).map fun r => rowOf columns r.fields⟩

/-- The table that a text gives. -/
def ofText (t : Text) : Table :=
  ofRecords (Csv.records t)

/-- The records that a table is written as. -/
def toRecords (table : Table) : List (List Text) :=
  table.columns :: table.rows.map fun row => table.columns.map (fieldOf row)

/-- The table in writing. -/
def text (table : Table) : Text :=
  Csv.write table.toRecords

/-- The table with a column of keys, at the front if there was none, and with a column for the
language, at the end if there was none. -/
def withColumns (table : Table) (language : Text) : Table :=
  let columns := if table.columns.contains keyColumn then table.columns
    else keyColumn :: table.columns
  { table with columns := if columns.contains language then columns else columns ++ [language] }

end Table

/-- Rows into which entries are merged, with the row of each key. -/
structure Merge where
  rows : List (Mapping Text Text)
  places : Mapping Text Nat
  deriving DecidableEq, Repr

namespace Merge

/-- The first row of each key that is not empty. -/
def placesOf (rows : List (Mapping Text Text)) : Mapping Text Nat :=
  rows.zipIdx.foldl (fun places (row, i) =>
    let key := fieldOf row keyColumn
    if key.isEmpty || (places.get? key).isSome then places else places.set key i) []

/-- Merges one entry. -/
def add (language : Text) (merge : Merge) (e : Entry) : Merge :=
  match merge.places.get? e.key with
  | some i => { merge with rows := merge.rows.modify i fun row => row.set language e.text }
  | none => ⟨merge.rows ++ [.ofList [(keyColumn, e.key), (language, e.text)]],
      merge.places.set e.key merge.rows.length⟩

end Merge

/-- The table with entries merged into the column of a language. -/
def Table.merge (table : Table) (language : Text) (entries : List Entry) : Table :=
  let merged := entries.foldl (Merge.add language) ⟨table.rows, Merge.placesOf table.rows⟩
  { table.withColumns language with rows := merged.rows }

end Localization

end MarkedSheet
