import MarkedSheet.Text.Blank

/-!
# Cells and rows

A cell holds a text or nothing; a row is a list of cells and may be shorter than the title row.
-/

namespace MarkedSheet

/-- A cell holds a text or nothing. -/
abbrev Cell := Option Text

/-- The cells of one row, from the first column on. -/
abbrev Row := List Cell

namespace Cell

/-- The text in the cell, empty if there is none. -/
def text (c : Cell) : Text :=
  c.getD []

/-- There is nothing but blanks in the cell. -/
def isBlank (c : Cell) : Bool :=
  (text c).isBlank

/-- The text in the cell without outer blanks. -/
def trimmed (c : Cell) : Text :=
  (text c).trim

/-- The cell has blanks around something that is not blank. -/
def hasOuterSpace (c : Cell) : Bool :=
  (text c).hasOuterSpace

@[simp] theorem isBlank_none : isBlank none = true := rfl

@[simp] theorem trimmed_none : trimmed none = [] := rfl

theorem trimmed_eq_nil_iff {c : Cell} : trimmed c = [] ↔ isBlank c :=
  Text.trim_eq_nil_iff

end Cell

namespace Row

/-- The cell in a column; a column past the end of the row holds nothing. -/
def cell (row : Row) (col : Nat) : Cell :=
  (row[col]?).join

/-- The row cut or filled up with empty cells to a width. -/
def fit (width : Nat) (row : Row) : Row :=
  (row.take width).rightpad width none

/-- Every cell of the row is blank. -/
def isBlank (row : Row) : Bool :=
  row.all Cell.isBlank

@[simp] theorem length_fit (width : Nat) (row : Row) : (fit width row).length = width := by
  simp only [fit, List.rightpad, List.length_append, List.length_take, List.length_replicate]
  omega

end Row

end MarkedSheet
