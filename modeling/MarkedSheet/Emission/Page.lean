import MarkedSheet.Emission.Reported
import MarkedSheet.Header.Schema
import MarkedSheet.KeyValues.Value

/-!
# Pages

A page is a sheet ready to be written: its data rows under their schema, the note row if notes are
wanted, and what the settings say about empty values and row numbers.
-/

namespace MarkedSheet

/-- The data rows of a sheet with all that their writing depends on. -/
structure Page where
  schema : Schema
  rows : List Row
  emptyToken : Text := KeyValues.defaultEmptyToken
  notes : Option Row := none
  firstRowNumber : Nat := 3

namespace Page

/-- The cell in a row and a column. The row has to exist. -/
def cell (page : Page) (r col : Nat) : Except RangeError Cell :=
  match page.rows[r]? with
  | some row => .ok (row.cell col)
  | none => .error (.row r)

/-- The number of a row in the sheet, counted from one. -/
def rowNumber (page : Page) (r : Nat) : Nat :=
  page.firstRowNumber + r

/-- A value as it is written. -/
def written (page : Page) (value : Cell) : Text :=
  KeyValues.normalize page.emptyToken value.text

/-- Warns of outer blanks in a cell that is written. -/
def checkSpace (page : Page) (r col : Nat) (value : Cell) : Reported Unit :=
  .warnIf value.hasOuterSpace
    (.valueSpace value.text (page.schema.title col) (page.rowNumber r))

end Page

end MarkedSheet
