import MarkedSheet.Header.Bracket

/-!
# The outline of a title row

The columns of a sheet are arranged once, without a look at the data: a container holds the items of
the columns up to its close, a key column takes the next value column, and the columns in between
are passed over. What is written later follows the outline from left to right.
-/

namespace MarkedSheet

/-- One item of an outline, in the columns it takes. -/
inductive Item
  /-- A plain column. -/
  | plain (col : Nat)
  /-- A column of ability slots. -/
  | ability (col : Nat)
  /-- A key column with its value column, and the columns between them that are not written. -/
  | pairs (keyCol valueCol : Nat) (unwritten : List Nat)
  /-- A key column without a value column. -/
  | loneKey (col : Nat)
  /-- A container from its open to its close, with the items in between. -/
  | container (family : Family) (col close : Nat) (items : List Item)
  /-- A column that writes nothing where it stands. -/
  | silent (col : Nat) (kind : Kind)
  /-- The range of columns goes beyond the title row. -/
  | beyond (col : Nat)
  deriving Repr

/-- Where the value column of a key column is. -/
inductive ValueColumn
  /-- In this column. -/
  | found (col : Nat)
  /-- There is none. -/
  | absent
  /-- The search left the title row. -/
  | beyond
  deriving DecidableEq, Repr

/-- The value column of a key column: the first before the end of the range, unless another key
column comes first. -/
def valueColumn (kinds : List Kind) (keyCol stop : Nat) : ValueColumn :=
  let after := (kinds.take stop).drop (keyCol + 1)
  match after.findIdx? fun kind => kind = .value || kind = .key with
  | some offset => if after[offset]? = some .value then .found (keyCol + 1 + offset) else .absent
  | none => if kinds.length < stop then .beyond else .absent

/-- The columns strictly between two that could have been written. -/
def unwrittenBetween (kinds : List Kind) (keyCol valueCol : Nat) : List Nat :=
  (List.range' (keyCol + 1) (valueCol - (keyCol + 1))).filter fun col =>
    (kinds[col]?).elim false (!·.annotates)

theorem lt_of_valueColumn_eq_found {kinds : List Kind} {keyCol stop col : Nat}
    (h : valueColumn kinds keyCol stop = .found col) : keyCol < col := by
  unfold valueColumn at h
  simp only at h
  split at h
  · split at h
    · simp only [ValueColumn.found.injEq] at h; omega
    · simp at h
  · split at h <;> simp at h

/-- The outline of the columns from `col` up to `stop`. -/
def outline (kinds : List Kind) (col stop : Nat) : List Item :=
  if _hcol : col < stop then
    match kinds[col]? with
    | none => [.beyond col]
    | some (.opening family) =>
      .container family col (closeColumn kinds col stop family)
          (outline kinds (col + 1) (closeColumn kinds col stop family))
        :: outline kinds (closeColumn kinds col stop family + 1) stop
    | some .key =>
      match _hvalue : valueColumn kinds col stop with
      | .found valueCol =>
        .pairs col valueCol (unwrittenBetween kinds col valueCol)
          :: outline kinds (valueCol + 1) stop
      | .absent => .loneKey col :: outline kinds (col + 1) stop
      | .beyond => [.beyond col]
    | some .ability => .ability col :: outline kinds (col + 1) stop
    | some .plain => .plain col :: outline kinds (col + 1) stop
    | some kind => .silent col kind :: outline kinds (col + 1) stop
  else []
termination_by stop - col
decreasing_by
  · have := closeColumn_le kinds col stop family
    omega
  · have := @lt_closeColumn kinds col stop family _hcol
    omega
  · have := lt_of_valueColumn_eq_found _hvalue
    omega
  all_goals omega

end MarkedSheet
