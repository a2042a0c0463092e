import MarkedSheet.Text.Basic

/-!
# Lines and columns

An error in a text of several lines tells the line and the column of its place.
-/

namespace MarkedSheet

namespace Text

/-- The line of a place in a text and the column in it, both counted from one. -/
def lineColumn (t : Text) (position : Nat) : Nat × Nat :=
  let before := t.take position
  (before.count '\n' + 1, (before.reverse.takeWhile (· != '\n')).length + 1)

@[simp] theorem lineColumn_zero (t : Text) : lineColumn t 0 = (1, 1) := by
  simp [lineColumn]

end Text

end MarkedSheet
