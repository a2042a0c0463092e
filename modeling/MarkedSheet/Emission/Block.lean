import MarkedSheet.Emission.Page
import MarkedSheet.Header.Outline
import MarkedSheet.KeyValues.Collapse

/-!
# Writing blocks

A block is a range of rows in a range of columns. Its lines are written column by column at a depth:
plain columns and ability slots under their titles, pairs of key and value columns, and containers
with the blocks of the columns up to their close. A container writes the lines that open and close
it around what is inside, one step deeper for the container and one more for each of its elements.
`document` opens one container for each group of rows under a primary key and drops the containers
that stay empty.
-/

namespace MarkedSheet

/-- The column after what begins in a column: after the close of a container, after the value column
of a key column, else the next. -/
def nextColumn (kinds : List Kind) (col stop : Nat) : Nat :=
  match kinds[col]? with
  | some (.opening family) => closeColumn kinds col stop family + 1
  | some .key => match valueColumn kinds col stop with
    | .found valueCol => valueCol + 1
    | .absent | .beyond => col + 1
  | _ => col + 1

theorem lt_nextColumn {kinds : List Kind} {col stop : Nat} (h : col < stop) :
    col < nextColumn kinds col stop := by
  unfold nextColumn
  split
  · exact Nat.lt_succ_of_lt (lt_closeColumn h)
  · split
    next hvalue => exact Nat.lt_succ_of_lt (lt_of_valueColumn_eq_found hvalue)
    all_goals exact Nat.lt_succ_self _
  · exact Nat.lt_succ_self _

namespace Page

open KeyValues (commentLine pairLine openLine closeLine)

/-- The rows of a range. -/
def rowRange (start stop : Nat) : List Nat :=
  List.range' start (stop - start)

section Lines

variable (page : Page) (unit : Text)

/-- The name of the object in a row, as a comment. -/
def nameLines (r : Nat) (depth : Int) : Reported (List Text) :=
  match page.schema.nameNote? with
  | none => return []
  | some col => do
    let name ← .lift (page.cell r col)
    return if name.isBlank then [] else [commentLine unit depth name.trimmed]

/-- The note on a column, as a comment; only the first row has it. -/
def noteLines (r col : Nat) (depth : Int) : List Text :=
  match page.notes with
  | none => []
  | some notes =>
    let note := notes.cell col
    if r != 0 || note.isBlank then [] else [commentLine unit depth note.trimmed]

/-- The values of a plain column. Blank cells are left out. -/
def plainLines (col start stop : Nat) (depth : Int) : Reported (List Text) :=
  .collect (fun r => do
    let value ← .lift (page.cell r col)
    if value.isBlank then return []
    page.checkSpace r col value
    return page.noteLines unit r col depth
      ++ [pairLine unit depth (page.schema.title col) (page.written value)])
    (rowRange start stop)

/-- The values of a column of ability slots. Blank cells are written as nothing. -/
def abilityLines (col start stop : Nat) (depth : Int) : Reported (List Text) :=
  .collect (fun r => do
    let value ← .lift (page.cell r col)
    page.checkSpace r col value
    return page.noteLines unit r col depth
      ++ [pairLine unit depth (page.schema.title col)
        (if value.isBlank then [] else page.written value)])
    (rowRange start stop)

/-- The pairs of a key column and its value column. Rows without a key or a value are left out, and
columns in between that are not written are told. -/
def pairLines (keyCol valueCol start stop : Nat) (depth : Int) : Reported (List Text) := do
  .warnAll ((unwrittenBetween page.schema.kinds keyCol valueCol).map fun col =>
    .unwritten col (page.schema.title col) keyCol valueCol)
  .collect (fun r => do
    let key ← .lift (page.cell r keyCol)
    let value ← .lift (page.cell r valueCol)
    if key.isBlank || value.isBlank then return []
    page.checkSpace r keyCol key
    page.checkSpace r valueCol value
    return [pairLine unit depth (page.written key) (page.written value)])
    (rowRange start stop)

/-- A key column without a value column writes nothing; its keys are reported. -/
def loneKeyLines (col start stop : Nat) : Reported (List Text) :=
  .collect (fun r => do
    let key ← .lift (page.cell r col)
    .warnIf (!key.isBlank)
      (.noValueColumn col (page.schema.title col) (page.rowNumber r))
    return [])
    (rowRange start stop)

/-- What begins in a key column. -/
def keyLines (col colStop start stop : Nat) (depth : Int) : Reported (List Text) :=
  match valueColumn page.schema.kinds col colStop with
  | .found valueCol => page.pairLines unit col valueCol start stop depth
  | .absent => page.loneKeyLines col start stop
  | .beyond => .lift (.error (.column col))

/-- One numbered container for each row, with the block of that row. -/
def numberedLines (block : Nat → Nat → Int → Reported (List Text)) (start stop : Nat)
    (depth : Int) : Reported (List Text) :=
  .collect (fun r => do
    let inside ← block r (r + 1) (depth + 1)
    return openLine unit depth (Text.ofNat (r - start + 1)) :: inside ++ [closeLine unit depth])
    (rowRange start stop)

/-- One container for each group of rows under an element key. The name of the first row is left to
the object around the array. -/
def elementLines (name : Text) (col : Nat) (block : Nat → Nat → Int → Reported (List Text))
    (start : Nat) (groups : List RowGroup) (depth : Int) : Reported (List Text) :=
  .collect (fun g => do
    match g.key with
    | none =>
      .warn (.noElementKey (page.rowNumber g.start) (page.rowNumber (g.stop - 1)) name col)
      return []
    | some key =>
      let names ← if g.start = start then pure [] else page.nameLines unit g.start depth
      let inside ← block g.start g.stop (depth + 1)
      return names ++ openLine unit depth key :: inside ++ [closeLine unit depth])
    groups

/-- An array with its elements one below another. Where its own column holds nothing, the elements
are numbered. -/
def arrayDownLines (col : Nat) (block : Nat → Nat → Int → Reported (List Text))
    (start stop : Nat) (depth : Int) : Reported (List Text) := do
  let name := Family.arrayDown.containerName (some (page.schema.title col))
  let keyed ← .lift (columnHasValues page.rows start stop col)
  if keyed then
    let groups ← .lift (RowGroup.ofRange? page.rows start stop col)
    let inside ← page.elementLines unit name col block start groups (depth + 1)
    return openLine unit depth name :: inside ++ [closeLine unit depth]
  else
    let inside ← numberedLines unit block start stop (depth + 1)
    return openLine unit depth name :: inside ++ [closeLine unit depth]

/-- An array with its elements side by side; several rows are its elements. -/
def arrayAcrossLines (col : Nat) (block : Nat → Nat → Int → Reported (List Text))
    (start stop : Nat) (depth : Int) : Reported (List Text) := do
  let name := Family.arrayAcross.containerName (some (page.schema.title col))
  let inside ← if stop - start ≤ 1 then block start stop (depth + 1)
    else numberedLines unit block start stop (depth + 1)
  return openLine unit depth name :: inside ++ [closeLine unit depth]

/-- The title of a map: what its column holds in the first row, else its name. -/
def mapTitle (family : Family) (col start : Nat) : Reported Text := do
  let title ← .lift (page.cell start col)
  return if title.isBlank then family.containerName (some (page.schema.title col))
    else title.trimmed

/-- A map with the block of its columns. -/
def mapLines (family : Family) (col : Nat) (block : Nat → Nat → Int → Reported (List Text))
    (start stop : Nat) (depth : Int) : Reported (List Text) := do
  let title ← page.mapTitle family col start
  let inside ← block start stop (depth + 1)
  return openLine unit depth title :: inside ++ [closeLine unit depth]

/-- A container, given the block of the columns it holds. -/
def containerLines (family : Family) (col : Nat)
    (block : Nat → Nat → Int → Reported (List Text)) (start stop : Nat) (depth : Int) :
    Reported (List Text) :=
  match family with
  | .arrayDown => page.arrayDownLines unit col block start stop depth
  | .arrayAcross => page.arrayAcrossLines unit col block start stop depth
  | .mapAcross | .mapDown => page.mapLines unit family col block start stop depth

/-- What begins in a column, given the blocks of the columns a container there holds. Columns that
are ignored, annotate others, or close nothing write nothing. -/
def columnLines (col colStop : Nat) (block : Family → Nat → Nat → Int → Reported (List Text))
    (start stop : Nat) (depth : Int) : Reported (List Text) :=
  match page.schema.kinds[col]? with
  | none => .lift (.error (.column col))
  | some (.opening family) => page.containerLines unit family col (block family) start stop depth
  | some .key => page.keyLines unit col colStop start stop depth
  | some .ability => page.abilityLines unit col start stop depth
  | some .plain => page.plainLines unit col start stop depth
  | some _ => return []

/-- The lines of the rows from `start` up to `stop` in the columns from `col` up to `colStop`. -/
def block (start stop col colStop : Nat) (depth : Int) : Reported (List Text) :=
  if _hcol : col < colStop then do
    let first ← page.columnLines unit col colStop
      (fun family s e d =>
        block s e (col + 1) (closeColumn page.schema.kinds col colStop family) d)
      start stop depth
    let others ← block start stop (nextColumn page.schema.kinds col colStop) colStop depth
    return first ++ others
  else return []
termination_by colStop - col
decreasing_by
  · have := closeColumn_le page.schema.kinds col colStop family
    omega
  · have := @lt_nextColumn page.schema.kinds col colStop _hcol
    omega

/-- The container of one object, after its name. -/
def objectLines (primary : Nat) (g : RowGroup) (depth : Int) : Reported (List Text) := do
  match g.key with
  | none =>
    .warn (.noObjectKey (page.rowNumber g.start) (page.rowNumber (g.stop - 1))
      (page.schema.title primary))
    return []
  | some key =>
    let cell ← .lift (page.cell g.start primary)
    page.checkSpace g.start primary cell
    let names ← page.nameLines unit g.start depth
    let inside ← page.block unit g.start g.stop (primary + 1) page.schema.width (depth + 1)
    return names ++ openLine unit depth key :: inside ++ [closeLine unit depth]

/-- The lines of all objects of a page, with the containers that stay empty. -/
def objectsLines (depth : Int) : Reported (List Text) :=
  match page.schema.primary? with
  | none => do
    .warn .noPrimary
    return []
  | some primary => do
    let groups ← .lift (RowGroup.ofRange? page.rows 0 page.rows.length primary)
    .collect (page.objectLines unit primary · depth) groups

/-- The lines of all objects of a page, without the containers that stay empty. -/
def document (depth : Int) : Reported (List Text) := do
  let lines ← page.objectsLines unit depth
  return KeyValues.collapse lines

end Lines

end Page

end MarkedSheet
