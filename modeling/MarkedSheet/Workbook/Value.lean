import MarkedSheet.Number.Shortest
import MarkedSheet.Sheet.Cell

/-!
# Values in workbooks

What a workbook holds in its cells, and the text of each: truth values are 1 and 0, a whole double
has no point, other doubles have their shortest text, and times keep their ISO form.
-/

namespace MarkedSheet

/-- What a cell of a workbook holds. -/
inductive CellValue
  /-- Nothing. -/
  | empty
  /-- A truth value. -/
  | flag (b : Bool)
  /-- A whole number. -/
  | whole (i : Int)
  /-- A double. -/
  | double (x : Double)
  /-- A text. -/
  | text (t : Text)
  /-- A day, in ISO form. -/
  | day (iso : Text)
  /-- A day with a time, or a time alone, in ISO form. -/
  | moment (iso : Text)
  deriving DecidableEq, Repr

namespace CellValue

/-- The text of a double, none if it is not a number. -/
def doubleCell : Double → Cell
  | .nan => none
  | .signed negative x =>
    if x.isInteger then
      some (Text.ofInt (if negative then -(x.wholePart : Int) else x.wholePart))
    else some ((if negative then ['-'] else []) ++ x.text)

/-- The cell of a grid that a value gives. -/
def toCell : CellValue → Cell
  | .empty => none
  | .flag b => some (if b then ['1'] else ['0'])
  | .whole i => some (Text.ofInt i)
  | .double x => doubleCell x
  | .text t => some t
  | .day iso => some iso
  | .moment iso => some iso

end CellValue

end MarkedSheet
