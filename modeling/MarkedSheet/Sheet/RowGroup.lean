import MarkedSheet.Sheet.Cell

/-!
# Groups of rows under one key

A blank key cell carries the key above it down, so neighbouring rows with one carried key form a
group. Rows before the first key form a group without a key.
-/

namespace MarkedSheet

/-- What a range of rows or columns reaches for and is not there. -/
inductive RangeError
  /-- The row does not exist. -/
  | row (r : Nat)
  /-- The column does not exist. -/
  | column (col : Nat)
  deriving DecidableEq, Repr

/-- The description of a range error. -/
def RangeError.message (_ : RangeError) : String :=
  "list index out of range"

/-- The rows from `start` up to `stop` under one carried key. -/
structure RowGroup where
  key : Option Text
  start : Nat
  stop : Nat
  deriving DecidableEq, Repr

namespace RowGroup

/-- The number of rows in the group. -/
def size (g : RowGroup) : Nat :=
  g.stop - g.start

/-- The groups of the rows from row `r` on, where a group under `key` has begun at row `start`. -/
def collect (col : Nat) (key : Option Text) (start : Nat) : Nat → List Row → List RowGroup
  | r, [] => if start < r then [⟨key, start, r⟩] else []
  | r, row :: rest =>
    let cell := row.cell col
    if cell.isBlank then collect col key start (r + 1) rest
    else if r = start then collect col (some cell.trimmed) start (r + 1) rest
    else if key = some cell.trimmed then collect col key start (r + 1) rest
    else ⟨key, start, r⟩ :: collect col (some cell.trimmed) r (r + 1) rest

/-- The groups of a range of rows that all exist. -/
def ofRange (rows : List Row) (start stop col : Nat) : List RowGroup :=
  collect col none start start ((rows.take stop).drop start)

/-- The groups of a range of rows. -/
def ofRange? (rows : List Row) (start stop col : Nat) : Except RangeError (List RowGroup) :=
  if start < stop ∧ rows.length < stop then .error (.row (max start rows.length))
  else .ok (ofRange rows start stop col)

end RowGroup

/-- A row of a range has something in the column. The search ends at the first such row. -/
def columnHasValues (rows : List Row) (start stop col : Nat) : Except RangeError Bool :=
  if ((rows.take stop).drop start).any fun row => !(row.cell col).isBlank then .ok true
  else if start < stop ∧ rows.length < stop then .error (.row (max start rows.length))
  else .ok false

theorem RowGroup.ofRange?_of_le {rows : List Row} {start stop col : Nat} (h : stop ≤ rows.length) :
    RowGroup.ofRange? rows start stop col = .ok (RowGroup.ofRange rows start stop col) := by
  simp [ofRange?, Nat.not_lt.2 h]

end MarkedSheet
