import MarkedSheet.Emission.Page
import MarkedSheet.KeyValues.Line

/-!
# Sheets of two columns

A sheet with exactly two meaningful columns is a flat list: the trimmed first cell of each row and
the second cell as it stands. Rows without a key are left out.
-/

namespace MarkedSheet

/-- The sheet has another number of meaningful columns than two. -/
structure NotTwoColumns where
  count : Nat
  deriving DecidableEq, Repr

/-- The description of the error. -/
def NotTwoColumns.message (e : NotTwoColumns) : String :=
  if e.count < 2 then s!"not enough values to unpack (expected 2, got {e.count})"
  else "too many values to unpack (expected 2)"

namespace Page

/-- The pairs of a key column and a value column. -/
def flatPairs (keyCol valueCol : Nat) (rows : List Row) : List (Text × Text) :=
  rows.filterMap fun row =>
    let key := row.cell keyCol
    if key.isBlank then none else some (key.trimmed, (row.cell valueCol).text)

/-- The line of a pair. -/
def flatLine (unit : Text) (depth : Int) (pair : Text × Text) : Text :=
  KeyValues.indentation unit depth ++ KeyValues.quote pair.1 ++ ' ' :: KeyValues.quote pair.2

/-- The lines of a page with two meaningful columns. -/
def flatLines (page : Page) (unit : Text) (depth : Int) : Except NotTwoColumns (List Text) :=
  match page.schema.meaningful with
  | [keyCol, valueCol] => .ok ((flatPairs keyCol valueCol page.rows).map (flatLine unit depth))
  | cols => .error ⟨cols.length⟩

end Page

end MarkedSheet
