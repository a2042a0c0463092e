import MarkedSheet.Sheet.RowGroup

/-!
# Sheets

A sheet is a grid of cells with a name. At an offset from the top stand the note row and the title
row, and the data rows follow. The width is that of the title row without its empty end; note and
data rows are cut or filled up to it.
-/

namespace MarkedSheet

/-- A worksheet as it was read. -/
structure Sheet where
  name : Text
  rows : List Row
  source : Text
  headerOffset : Nat
  deriving DecidableEq, Repr

namespace Sheet

/-- The row with that index. -/
def row (s : Sheet) (i : Nat) : Except RangeError Row :=
  match s.rows[i]? with
  | some row => .ok row
  | none => .error (.row i)

/-- The note row and the title row exist. -/
def hasHeaderRows (s : Sheet) : Bool :=
  s.headerOffset + 2 ≤ s.rows.length

/-- A row without the blank cells it ends with. -/
def dropBlankEnd (row : Row) : Row :=
  (row.reverse.dropWhile Cell.isBlank).reverse

/-- The title row, without the blank cells it ends with. -/
def titleRow (s : Sheet) : Except RangeError Row :=
  (s.row (s.headerOffset + 1)).map dropBlankEnd

/-- The number of columns. -/
def width (s : Sheet) : Except RangeError Nat :=
  (titleRow s).map List.length

/-- The note row. -/
def noteRow (s : Sheet) : Except RangeError Row := do
  let row ← s.row s.headerOffset
  let width ← s.width
  return row.fit width

/-- The data rows. -/
def dataRows (s : Sheet) : Except RangeError (List Row) := do
  match s.rows.drop (s.headerOffset + 2) with
  | [] => return []
  | rows =>
    let width ← s.width
    return rows.map (Row.fit width)

/-- The number of the first data row, counted from one. -/
def firstDataRowNumber (s : Sheet) : Nat :=
  s.headerOffset + 3

/-- Rows without the blank rows they end with. -/
def dropBlankRows (rows : List Row) : List Row :=
  (rows.reverse.dropWhile Row.isBlank).reverse

end Sheet

end MarkedSheet
