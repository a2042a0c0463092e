import MarkedSheet.Text.Basic

/-!
# Warnings

What a sheet has that is probably not meant, with the place in the sheet. Rows are counted from one
as in the sheet, columns from zero.
-/

namespace MarkedSheet

/-- Something in a sheet that is probably not meant. -/
inductive Warning
  /-- The title of a column has outer blanks. -/
  | titleSpace (title : Text) (col : Nat)
  /-- A written cell has outer blanks. -/
  | valueSpace (value title : Text) (row : Nat)
  /-- No column can hold the keys of the objects. -/
  | noPrimary
  /-- Rows come before the first object. -/
  | noObjectKey (first last : Nat) (title : Text)
  /-- Rows come before the first element of the array opened in a column. -/
  | noElementKey (first last : Nat) (name : Text) (col : Nat)
  /-- A key has no column to take its value from. -/
  | noValueColumn (col : Nat) (title : Text) (row : Nat)
  /-- A column stands between a key column and its value column. -/
  | unwritten (col : Nat) (title : Text) (keyCol valueCol : Nat)
  /-- A localized text comes before the first object. -/
  | textWithoutKey (row col : Nat)
  /-- Localized texts for the value on the left stand in the first column. -/
  | noLeftColumn (col : Nat)
  deriving DecidableEq, Repr

/-- The text of a warning. -/
def Warning.message : Warning → String
  | .titleSpace title col =>
    s!"header '{String.ofList title}' in column {col} has leading/trailing whitespace"
  | .valueSpace value title row =>
    s!"value '{String.ofList value}' of '{String.ofList title}' in row {row} "
      ++ "has leading/trailing whitespace"
  | .noPrimary => "title row has no key column, nothing to emit"
  | .noObjectKey first last title =>
    s!"rows {first}-{last} have no '{String.ofList title}' value, skipped"
  | .noElementKey first last name _ =>
    s!"rows {first}-{last} under '{String.ofList name}' have no element key, skipped"
  | .noValueColumn col title row =>
    s!"key column {col} ('{String.ofList title}') has no value column, row {row} skipped"
  | .unwritten col title keyCol valueCol =>
    s!"column {col} ('{String.ofList title}') sits between key column {keyCol} and its "
      ++ s!"value column {valueCol} and is not written"
  | .textWithoutKey row col =>
    s!"localized text in row {row}, column {col} has no key row, skipped"
  | .noLeftColumn col =>
    s!"'#LocValues' in column {col} has no column to its left, skipped"

end MarkedSheet
