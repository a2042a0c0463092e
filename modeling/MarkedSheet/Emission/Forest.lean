import MarkedSheet.Emission.Block
import MarkedSheet.KeyValues.Node

/-!
# The forest of a block

What a block writes is a forest: item by item of the outline of its columns, the values of the rows
come under their titles, pairs of key and value columns side by side, and containers with the blocks
of the columns they hold. The forest knows nothing of depth and indentation; that the lines of a
block are the lines of its forest is `block_eq` in `Proofs/Emission/Lines`.
-/

namespace MarkedSheet

namespace Page

open KeyValues (Node Place)

/-- The name of the object in a row, as a comment. -/
def nameComment (page : Page) (r : Nat) : Reported (List Node) :=
  match page.schema.nameNote? with
  | none => return []
  | some col => do
    let name ← .lift (page.cell r col)
    return if name.isBlank then [] else [.comment name.trimmed]

/-- The note on a column, as a comment; only the first row has it. -/
def noteComment (page : Page) (r col : Nat) : List Node :=
  match page.notes with
  | none => []
  | some notes =>
    let note := notes.cell col
    if r != 0 || note.isBlank then [] else [.comment note.trimmed]

/-- The values of a plain column. Blank cells are left out. -/
def plainNodes (page : Page) (col start stop : Nat) : Reported (List Node) :=
  .collect (fun r => do
    let value ← .lift (page.cell r col)
    if value.isBlank then return []
    page.checkSpace r col value
    return page.noteComment r col
      ++ [.pair ⟨r, col⟩ (page.schema.title col) (page.written value)])
    (rowRange start stop)

/-- The values of a column of ability slots. Blank cells are written as nothing. -/
def abilityNodes (page : Page) (col start stop : Nat) : Reported (List Node) :=
  .collect (fun r => do
    let value ← .lift (page.cell r col)
    page.checkSpace r col value
    return page.noteComment r col
      ++ [.pair ⟨r, col⟩ (page.schema.title col)
        (if value.isBlank then [] else page.written value)])
    (rowRange start stop)

/-- The pairs of a key column and its value column. Rows without a key or a value are left out. -/
def pairNodes (page : Page) (keyCol valueCol : Nat) (unwritten : List Nat) (start stop : Nat) :
    Reported (List Node) := do
  .warnAll (unwritten.map fun col =>
    .unwritten col (page.schema.title col) keyCol valueCol)
  .collect (fun r => do
    let key ← .lift (page.cell r keyCol)
    let value ← .lift (page.cell r valueCol)
    if key.isBlank || value.isBlank then return []
    page.checkSpace r keyCol key
    page.checkSpace r valueCol value
    return [.pair ⟨r, keyCol⟩ (page.written key) (page.written value)])
    (rowRange start stop)

/-- A key column without a value column writes nothing; its keys are reported. -/
def loneKeyNodes (page : Page) (col start stop : Nat) : Reported (List Node) :=
  .collect (fun r => do
    let key ← .lift (page.cell r col)
    .warnIf (!key.isBlank)
      (.noValueColumn col (page.schema.title col) (page.rowNumber r))
    return [])
    (rowRange start stop)

/-- One numbered container for each row, with the block of that row. -/
def numberedNodes (block : Nat → Nat → Reported (List Node)) (start stop : Nat) :
    Reported (List Node) :=
  .collect (fun r => do
    let children ← block r (r + 1)
    return [.container (Text.ofNat (r - start + 1)) children])
    (rowRange start stop)

/-- One container for each group of rows under an element key. The name of the first row is left to
the object around the array. -/
def elementNodes (page : Page) (name : Text) (col : Nat)
    (block : Nat → Nat → Reported (List Node)) (start : Nat) (groups : List RowGroup) :
    Reported (List Node) :=
  .collect (fun g => do
    match g.key with
    | none =>
      .warn (.noElementKey (page.rowNumber g.start) (page.rowNumber (g.stop - 1)) name col)
      return []
    | some key =>
      let comments ← if g.start = start then pure [] else page.nameComment g.start
      let children ← block g.start g.stop
      return comments ++ [.container key children])
    groups

/-- A container, given the block of the columns it holds. -/
def containerNodes (page : Page) (family : Family) (col : Nat)
    (block : Nat → Nat → Reported (List Node)) (start stop : Nat) : Reported (List Node) := do
  let name := family.containerName (some (page.schema.title col))
  match family with
  | .arrayDown =>
    let keyed ← .lift (columnHasValues page.rows start stop col)
    if keyed then
      let groups ← .lift (RowGroup.ofRange? page.rows start stop col)
      let children ← page.elementNodes name col block start groups
      return [.container name children]
    else
      let children ← numberedNodes block start stop
      return [.container name children]
  | .arrayAcross =>
    let children ← if stop - start ≤ 1 then block start stop else numberedNodes block start stop
    return [.container name children]
  | .mapAcross | .mapDown =>
    let title ← page.mapTitle family col start
    let children ← block start stop
    return [.container title children]

mutual

/-- The forest of one item over a range of rows. -/
def itemNodes (page : Page) : Item → Nat → Nat → Reported (List Node)
  | .plain col, start, stop => page.plainNodes col start stop
  | .ability col, start, stop => page.abilityNodes col start stop
  | .pairs keyCol valueCol unwritten, start, stop =>
    page.pairNodes keyCol valueCol unwritten start stop
  | .loneKey col, start, stop => page.loneKeyNodes col start stop
  | .container family col _ items, start, stop =>
    page.containerNodes family col (page.itemsNodes items) start stop
  | .silent _ _, _, _ => return []
  | .beyond col, _, _ => .lift (.error (.column col))

/-- The forest of the items of an outline over a range of rows. -/
def itemsNodes (page : Page) : List Item → Nat → Nat → Reported (List Node)
  | [], _, _ => return []
  | item :: rest, start, stop => do
    let first ← page.itemNodes item start stop
    let others ← page.itemsNodes rest start stop
    return first ++ others

end

/-- The forest of the rows from `rowStart` up to `rowStop` in the columns from `colStart` up to
`colStop`. -/
def blockNodes (page : Page) (rowStart rowStop colStart colStop : Nat) : Reported (List Node) :=
  page.itemsNodes (outline page.schema.kinds colStart colStop) rowStart rowStop

/-- The container of one object, after its name. -/
def objectNodes (page : Page) (primary : Nat) (g : RowGroup) : Reported (List Node) := do
  match g.key with
  | none =>
    .warn (.noObjectKey (page.rowNumber g.start) (page.rowNumber (g.stop - 1))
      (page.schema.title primary))
    return []
  | some key =>
    let cell ← .lift (page.cell g.start primary)
    page.checkSpace g.start primary cell
    let comments ← page.nameComment g.start
    let children ← page.blockNodes g.start g.stop (primary + 1) page.schema.width
    return comments ++ [.container key children]

/-- The forest of all objects of a page. -/
def documentNodes (page : Page) : Reported (List Node) :=
  match page.schema.primary? with
  | none => do
    .warn .noPrimary
    return []
  | some primary => do
    let groups ← .lift (RowGroup.ofRange? page.rows 0 page.rows.length primary)
    .collect (page.objectNodes primary) groups

end Page

end MarkedSheet
