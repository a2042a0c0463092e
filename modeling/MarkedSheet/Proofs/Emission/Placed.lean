import MarkedSheet.Proofs.Emission.Agreement
import MarkedSheet.Proofs.Emission.Entries
import MarkedSheet.Proofs.Header.Renaming

/-!
# A page at other places

What a page has may stand at other places in a second page: further down among other rows, under
other row numbers, in other columns between columns that are not read (`Page.PlacedIn`). The second
page is then written as the first, step by step: the warnings are the same but for the places they
tell, and the forests are related by every relation that allows for other places and for what the
notes of the two pages add to an entry (`PlacedLaw`).
-/

namespace MarkedSheet

/-- How far down rows are moved, how much is added to their numbers, and where columns are put. -/
structure Placing where
  rows : Nat
  numbers : Nat
  col : Nat → Nat

/-- The warning with the row numbers and the columns of the other page. -/
def Warning.placed (m : Placing) : Warning → Warning
  | .titleSpace title col => .titleSpace title (m.col col)
  | .valueSpace value title row => .valueSpace value title (row + m.numbers)
  | .noPrimary => .noPrimary
  | .noObjectKey first last title => .noObjectKey (first + m.numbers) (last + m.numbers) title
  | .noElementKey first last name col =>
    .noElementKey (first + m.numbers) (last + m.numbers) name (m.col col)
  | .noValueColumn col title row => .noValueColumn (m.col col) title (row + m.numbers)
  | .unwritten col title keyCol valueCol =>
    .unwritten (m.col col) title (m.col keyCol) (m.col valueCol)
  | .textWithoutKey row col => .textWithoutKey (row + m.numbers) (m.col col)
  | .noLeftColumn col => .noLeftColumn (m.col col)

namespace Page

open Reported
open KeyValues (Node)

/-- The rows and the meaningful columns of `part` stand at other places in `page`, in one
arrangement with theirs. -/
structure PlacedIn (part page : Page) (m : Placing) : Prop where
  emptyToken : page.emptyToken = part.emptyToken
  number : page.firstRowNumber + m.rows = part.firstRowNumber + m.numbers
  long : part.rows.length + m.rows ≤ page.rows.length
  cell : ∀ r < part.rows.length, ∀ col ∈ part.schema.meaningful,
    page.cell (r + m.rows) (m.col col) = part.cell r col
  title : ∀ col ∈ part.schema.meaningful, page.schema.title (m.col col) = part.schema.title col
  nameNote : page.schema.nameNote? = part.schema.nameNote?.map m.col
  primary : page.schema.primary? = part.schema.primary?.map m.col
  block : ∀ primary, part.schema.primary? = some primary →
    Renames (· ∈ part.schema.meaningful) m.col
      (outline part.schema.kinds (primary + 1) part.schema.width)
      (outline page.schema.kinds (m.col primary + 1) page.schema.width)

/-- A relation of forests that is kept when forests are put together and does not look at places.
Before the pair of a written cell the notes of the two pages may stand. -/
structure PlacedLaw (part page : Page) (m : Placing) (R : List Node → List Node → Prop) :
    Prop where
  nil : R [] []
  append : ∀ {s s' t t'}, R s s' → R t t' → R (s ++ t) (s' ++ t')
  wrap : ∀ {s s'} (name : Text), R s s' → R [.container name s] [.container name s']
  comment : ∀ content, R [.comment content] [.comment content]
  pair : ∀ r col key value, R [.pair ⟨r, col⟩ key value] [.pair ⟨r + m.rows, m.col col⟩ key value]
  noted : ∀ r, ∀ col ∈ part.schema.meaningful, ∀ key value,
    value = [] ∨ value = part.written (part.cellAt r col) →
    R (part.noteComment r col ++ [.pair ⟨r, col⟩ key value])
      (page.noteComment (r + m.rows) (m.col col) ++ [.pair ⟨r + m.rows, m.col col⟩ key value])

/-- The second forest and its warnings are those of the first at other places. -/
abbrev Follows (m : Placing) (R : List Node → List Node → Prop) (x y : Reported (List Node)) :
    Prop :=
  Agree (Warning.placed m) R x y

section Rows

variable {part page : Page} {m : Placing} {R : List Node → List Node → Prop}
  (h : part.PlacedIn page m)

include h

theorem PlacedIn.cell_eq {r col : Nat} (hr : r < part.rows.length)
    (hcol : col ∈ part.schema.meaningful) :
    page.cell (r + m.rows) (m.col col) = .ok (part.cellAt r col) := by
  rw [h.cell r hr col hcol, part.cell_eq hr]

theorem PlacedIn.rowNumber_eq (r : Nat) :
    page.rowNumber (r + m.rows) = part.rowNumber r + m.numbers := by
  have := h.number
  simp only [rowNumber]
  omega

theorem PlacedIn.written_eq (value : Cell) : page.written value = part.written value := by
  rw [written, written, h.emptyToken]

theorem PlacedIn.row_cell_eq {r col : Nat} (hr : r < part.rows.length)
    (hcol : col ∈ part.schema.meaningful) :
    (page.rows[r + m.rows]?).map (·.cell (m.col col)) = (part.rows[r]?).map (·.cell col) := by
  have hcell := h.cell_eq hr hcol
  have hlong := h.long
  have hin : r + m.rows < page.rows.length := by omega
  rw [page.cell_eq hin, Except.ok.injEq, page.cellAt_eq (List.getElem?_eq_getElem hin),
    part.cellAt_eq (List.getElem?_eq_getElem hr)] at hcell
  rw [List.getElem?_eq_getElem hin, List.getElem?_eq_getElem hr]
  exact congrArg some hcell

theorem PlacedIn.checkSpace {r col : Nat} (hcol : col ∈ part.schema.meaningful) (value : Cell) :
    Agree (Warning.placed m) Eq (part.checkSpace r col value)
      (page.checkSpace (r + m.rows) (m.col col) value) := by
  unfold Page.checkSpace
  rw [h.rowNumber_eq, h.title col hcol]
  exact agree_warnIf _ _

theorem PlacedIn.mapTitle {r col : Nat} (hr : r < part.rows.length)
    (hcol : col ∈ part.schema.meaningful) (family : Family) :
    Agree (Warning.placed m) Eq (part.mapTitle family col r)
      (page.mapTitle family (m.col col) (r + m.rows)) := by
  unfold Page.mapTitle
  rw [h.cell_eq hr hcol, part.cell_eq hr, h.title col hcol]
  exact agree_pure rfl

variable (law : PlacedLaw part page m R)

include law

theorem PlacedIn.nameComment {r : Nat} (hr : r < part.rows.length) :
    Follows m R (part.nameComment r) (page.nameComment (r + m.rows)) := by
  unfold Page.nameComment
  rw [h.nameNote]
  rcases hnote : part.schema.nameNote? with _ | col
  · exact agree_pure law.nil
  · simp only [Option.map_some]
    rw [h.cell_eq hr (Schema.nameNote_mem_meaningful hnote), part.cell_eq hr]
    refine agree_pure ?_
    split
    · exact law.nil
    · exact law.comment _

variable {start stop : Nat} (hstop : stop ≤ part.rows.length)

include hstop

theorem PlacedIn.plainNodes {col : Nat} (hcol : col ∈ part.schema.meaningful) :
    Follows m R (part.plainNodes col start stop)
      (page.plainNodes (m.col col) (start + m.rows) (stop + m.rows)) := by
  refine agree_rows law.nil law.append fun r _ hlt => ?_
  have hr := Nat.lt_of_lt_of_le hlt hstop
  rw [h.cell_eq hr hcol, part.cell_eq hr, lift_ok_bind, lift_ok_bind]
  split
  · exact agree_pure law.nil
  · refine (h.checkSpace hcol _).bind fun _ _ _ => ?_
    rw [h.title col hcol, h.written_eq]
    exact agree_pure (law.noted r col hcol _ _ (.inr rfl))

theorem PlacedIn.abilityNodes {col : Nat} (hcol : col ∈ part.schema.meaningful) :
    Follows m R (part.abilityNodes col start stop)
      (page.abilityNodes (m.col col) (start + m.rows) (stop + m.rows)) := by
  refine agree_rows law.nil law.append fun r _ hlt => ?_
  have hr := Nat.lt_of_lt_of_le hlt hstop
  rw [h.cell_eq hr hcol, part.cell_eq hr, lift_ok_bind, lift_ok_bind]
  refine (h.checkSpace hcol _).bind fun _ _ _ => ?_
  rw [h.title col hcol, h.written_eq]
  refine agree_pure (law.noted r col hcol _ _ ?_)
  split
  · exact .inl rfl
  · exact .inr rfl

theorem PlacedIn.pairNodes {keyCol valueCol : Nat} {unwritten : List Nat}
    (hkey : keyCol ∈ part.schema.meaningful) (hvalue : valueCol ∈ part.schema.meaningful)
    (hunwritten : ∀ col ∈ unwritten, col ∈ part.schema.meaningful) :
    Follows m R (part.pairNodes keyCol valueCol unwritten start stop)
      (page.pairNodes (m.col keyCol) (m.col valueCol) (unwritten.map m.col) (start + m.rows)
        (stop + m.rows)) := by
  unfold Page.pairNodes
  have hwarnings : ((unwritten.map m.col).map fun col =>
      Warning.unwritten col (page.schema.title col) (m.col keyCol) (m.col valueCol))
        = (unwritten.map fun col =>
          Warning.unwritten col (part.schema.title col) keyCol valueCol).map
            (Warning.placed m) := by
    rw [List.map_map, List.map_map]
    exact List.map_congr_left fun col hcol => by
      simp [Warning.placed, h.title col (hunwritten col hcol)]
  rw [hwarnings]
  refine (agree_warnAll _).bind fun _ _ _ => ?_
  refine agree_rows law.nil law.append fun r _ hlt => ?_
  have hr := Nat.lt_of_lt_of_le hlt hstop
  rw [h.cell_eq hr hkey, h.cell_eq hr hvalue, part.cell_eq hr, part.cell_eq hr, lift_ok_bind,
    lift_ok_bind, lift_ok_bind, lift_ok_bind]
  split
  · exact agree_pure law.nil
  · refine (h.checkSpace hkey _).bind fun _ _ _ => (h.checkSpace hvalue _).bind fun _ _ _ => ?_
    rw [h.written_eq, h.written_eq]
    exact agree_pure (law.pair ..)

theorem PlacedIn.loneKeyNodes {col : Nat} (hcol : col ∈ part.schema.meaningful) :
    Follows m R (part.loneKeyNodes col start stop)
      (page.loneKeyNodes (m.col col) (start + m.rows) (stop + m.rows)) := by
  refine agree_rows law.nil law.append fun r _ hlt => ?_
  have hr := Nat.lt_of_lt_of_le hlt hstop
  rw [h.cell_eq hr hcol, part.cell_eq hr, lift_ok_bind, lift_ok_bind, h.title col hcol,
    h.rowNumber_eq]
  exact (agree_warnIf _ _).bind fun _ _ _ => agree_pure law.nil

end Rows

section Containers

variable {part page : Page} {m : Placing} {R : List Node → List Node → Prop}
  {block block' : Nat → Nat → Reported (List Node)} (law : PlacedLaw part page m R)

include law

theorem PlacedLaw.wrapped {x y : Reported (List Node)} (h : Follows m R x y) (name : Text) :
    Follows m R (do let children ← x; return [.container name children])
      (do let children ← y; return [.container name children]) :=
  h.bind fun _ _ hchildren => agree_pure (law.wrap name hchildren)

variable (h : part.PlacedIn page m)
  (hblock : ∀ s e, s < e → e ≤ part.rows.length →
    Follows m R (block s e) (block' (s + m.rows) (e + m.rows)))

include hblock

theorem PlacedLaw.numberedNodes {start stop : Nat} (hstop : stop ≤ part.rows.length) :
    Follows m R (numberedNodes block start stop)
      (numberedNodes block' (start + m.rows) (stop + m.rows)) := by
  refine agree_rows law.nil law.append fun r _ hlt => ?_
  rw [Nat.add_right_comm, Nat.add_sub_add_right]
  exact law.wrapped (hblock r (r + 1) (Nat.lt_succ_self r) (by omega)) _

include h

theorem PlacedIn.elementNodes (name : Text) (col start : Nat) {groups : List RowGroup}
    (hgroups : ∀ g ∈ groups, g.start < g.stop ∧ g.stop ≤ part.rows.length) :
    Follows m R (part.elementNodes name col block start groups)
      (page.elementNodes name (m.col col) block' (start + m.rows)
        (groups.map (RowGroup.shift m.rows))) := by
  refine agree_collect law.nil law.append _ fun g hg => ?_
  obtain ⟨key, first, last⟩ := g
  obtain ⟨hne, hle⟩ : first < last ∧ last ≤ part.rows.length := hgroups _ hg
  simp only [RowGroup.shift, Nat.add_right_cancel_iff]
  cases key with
  | none =>
    have hlast : last + m.rows - 1 = last - 1 + m.rows := by omega
    simp only [hlast, h.rowNumber_eq]
    exact (agree_warn _).bind fun _ _ _ => agree_pure law.nil
  | some key =>
    have hnamed : ∀ s s', R s s' → Follows m R
        (do let children ← block first last; return s ++ [.container key children])
        (do let children ← block' (first + m.rows) (last + m.rows)
            return s' ++ [.container key children]) := fun _ _ hcomments =>
      (hblock first last hne hle).bind fun _ _ hchildren =>
        agree_pure (law.append hcomments (law.wrap key hchildren))
    simp only
    split
    · exact hnamed [] [] law.nil
    · exact (h.nameComment law (Nat.lt_of_lt_of_le hne hle)).bind hnamed

theorem PlacedIn.containerNodes {family : Family} {col : Nat}
    (hcol : col ∈ part.schema.meaningful) {start stop : Nat} (hlt : start < stop)
    (hstop : stop ≤ part.rows.length) :
    Follows m R (part.containerNodes family col block start stop)
      (page.containerNodes family (m.col col) block' (start + m.rows) (stop + m.rows)) := by
  have hnumbered : Follows m R (Page.numberedNodes block start stop)
      (Page.numberedNodes block' (start + m.rows) (stop + m.rows)) :=
    law.numberedNodes hblock hstop
  have hwhole := hblock start stop hlt hstop
  have hmap := fun family => (h.mapTitle (Nat.lt_of_lt_of_le hlt hstop) hcol family).bind
    (S := R) (f := fun title => do
      let children ← block start stop
      return [.container title children])
    (g := fun title => do
      let children ← block' (start + m.rows) (stop + m.rows)
      return [.container title children])
    fun title _ heq => by subst heq; exact law.wrapped hwhole title
  cases family with
  | arrayDown =>
    have hlong : stop + m.rows ≤ page.rows.length := by have := h.long; omega
    have hcells := fun r (_ : start ≤ r) (hr : r < stop) =>
      h.row_cell_eq (Nat.lt_of_lt_of_le hr hstop) hcol
    have hbounds : ∀ g ∈ RowGroup.ofRange part.rows start stop col,
        g.start < g.stop ∧ g.stop ≤ part.rows.length := by
      intro g hg
      have hg := (RowGroup.tiles_ofRange col (Nat.le_of_lt hlt) hstop).bounds hg
      exact ⟨hg.2.1, Nat.le_trans hg.2.2 hstop⟩
    obtain ⟨keyed, hkeyed⟩ := RowGroup.columnHasValues_of_le col start hstop
    simp only [Page.containerNodes]
    rw [RowGroup.columnHasValues_of_cells col hcells hstop hlong, hkeyed,
      RowGroup.ofRange?_of_le hlong, RowGroup.ofRange?_of_le hstop,
      RowGroup.ofRange_of_cells col hcells, h.title col hcol]
    simp only [lift_ok_bind]
    split
    · exact law.wrapped (h.elementNodes law hblock _ col start hbounds) _
    · exact law.wrapped hnumbered _
  | arrayAcross =>
    simp only [Page.containerNodes, h.title col hcol, Nat.add_sub_add_right]
    split
    · exact law.wrapped hwhole _
    · exact law.wrapped hnumbered _
  | mapAcross => exact hmap .mapAcross
  | mapDown => exact hmap .mapDown

end Containers

section Blocks

variable {part page : Page} {m : Placing} {R : List Node → List Node → Prop}
  (h : part.PlacedIn page m) (law : PlacedLaw part page m R)

include h law

/-- The items of an outline give for the rows of a part what the same items in the columns of the
page give for these rows there. -/
theorem PlacedIn.itemsNodes {items items' : List Item}
    (hitems : Renames (· ∈ part.schema.meaningful) m.col items items') : ∀ {start stop : Nat},
    start < stop → stop ≤ part.rows.length →
      Follows m R (part.itemsNodes items start stop)
        (page.itemsNodes items' (start + m.rows) (stop + m.rows)) := by
  -- All items but those that are missing from the second outline go step by step.
  have both : ∀ {item item' : Item} {rest rest' : List Item} {start stop : Nat},
      Follows m R (part.itemNodes item start stop)
        (page.itemNodes item' (start + m.rows) (stop + m.rows)) →
      Follows m R (part.itemsNodes rest start stop)
        (page.itemsNodes rest' (start + m.rows) (stop + m.rows)) →
      Follows m R (part.itemsNodes (item :: rest) start stop)
        (page.itemsNodes (item' :: rest') (start + m.rows) (stop + m.rows)) := by
    intro item item' rest rest' start stop hitem hrest
    rw [Page.itemsNodes, Page.itemsNodes]
    refine hitem.bind fun _ _ hfirst => hrest.bind fun _ _ hothers => ?_
    exact agree_pure (law.append hfirst hothers)
  induction hitems with
  | nil =>
    intro start stop _ _
    rw [Page.itemsNodes, Page.itemsNodes]
    exact agree_pure law.nil
  | plain hcol _ ih =>
    intro start stop hlt hstop
    refine both ?_ (ih hlt hstop)
    rw [itemNodes, itemNodes]
    exact h.plainNodes law hstop hcol
  | ability hcol _ ih =>
    intro start stop hlt hstop
    refine both ?_ (ih hlt hstop)
    rw [itemNodes, itemNodes]
    exact h.abilityNodes law hstop hcol
  | pairs hkey hvalue hunwritten _ ih =>
    intro start stop hlt hstop
    refine both ?_ (ih hlt hstop)
    rw [itemNodes, itemNodes]
    exact h.pairNodes law hstop hkey hvalue hunwritten
  | loneKey hcol _ ih =>
    intro start stop hlt hstop
    refine both ?_ (ih hlt hstop)
    rw [itemNodes, itemNodes]
    exact h.loneKeyNodes law hstop hcol
  | container hcol _ _ ihItems ihRest =>
    intro start stop hlt hstop
    refine both ?_ (ihRest hlt hstop)
    rw [itemNodes, itemNodes]
    exact h.containerNodes law (fun s e hse he => ihItems hse he) hcol hlt hstop
  | silent _ ih =>
    intro start stop hlt hstop
    refine both ?_ (ih hlt hstop)
    rw [itemNodes, itemNodes]
    exact agree_pure law.nil
  | @dropped col kind rest rest' _ ih =>
    intro start stop hlt hstop
    have hrest := ih hlt hstop
    obtain ⟨ws, a, b, hpart, hpage, hab⟩ := hrest.eq
    rw [Page.itemsNodes, itemNodes, hpage, hpart]
    exact ⟨a, b, rfl, rfl, hab, by simp⟩

theorem PlacedIn.objectNodes {primary : Nat} (hprimary : part.schema.primary? = some primary)
    {g : RowGroup} (hne : g.start < g.stop) (hle : g.stop ≤ part.rows.length) :
    Follows m R (part.objectNodes primary g)
      (page.objectNodes (m.col primary) (g.shift m.rows)) := by
  obtain ⟨key, start, stop⟩ := g
  replace hne : start < stop := hne
  replace hle : stop ≤ part.rows.length := hle
  have hrow : start < part.rows.length := by omega
  have hcol := Schema.primary_mem_meaningful hprimary
  simp only [Page.objectNodes, RowGroup.shift, blockNodes, h.title primary hcol]
  cases key with
  | none =>
    have hlast : stop + m.rows - 1 = stop - 1 + m.rows := by omega
    simp only [hlast, h.rowNumber_eq]
    exact (agree_warn _).bind fun _ _ _ => agree_pure law.nil
  | some key =>
    simp only
    rw [h.cell_eq hrow hcol, part.cell_eq hrow, lift_ok_bind, lift_ok_bind]
    refine (h.checkSpace hcol _).bind fun _ _ _ => ?_
    refine (h.nameComment law hrow).bind fun _ _ hcomments => ?_
    refine (h.itemsNodes law (h.block primary hprimary) hne hle).bind fun _ _ hchildren => ?_
    exact agree_pure (law.append hcomments (law.wrap key hchildren))

/-- The objects of a part are written in the page as they are alone. -/
theorem PlacedIn.objects {primary : Nat} (hprimary : part.schema.primary? = some primary) :
    Follows m R
      (collect (part.objectNodes primary)
        (RowGroup.ofRange part.rows 0 part.rows.length primary))
      (collect (page.objectNodes (m.col primary))
        ((RowGroup.ofRange part.rows 0 part.rows.length primary).map (RowGroup.shift m.rows))) := by
  refine agree_collect law.nil law.append _ fun g hg => ?_
  have htiles := RowGroup.tiles_ofRange primary (Nat.zero_le _) (Nat.le_refl part.rows.length)
  obtain ⟨-, hne, hle⟩ := htiles.bounds hg
  exact h.objectNodes law hprimary hne hle

/-- A page that has the rows of the part and no others is written as the part. -/
theorem PlacedIn.documentNodes (hrows : page.rows.length = part.rows.length) :
    Follows m R part.documentNodes page.documentNodes := by
  have hzero : m.rows = 0 := by have := h.long; omega
  unfold Page.documentNodes
  rw [h.primary]
  rcases hprimary : part.schema.primary? with _ | primary
  · exact (agree_warn _).bind fun _ _ _ => agree_pure law.nil
  · have hgroups : RowGroup.ofRange page.rows 0 page.rows.length (m.col primary)
        = (RowGroup.ofRange part.rows 0 part.rows.length primary).map (RowGroup.shift m.rows) := by
      rw [hrows, ← RowGroup.ofRange_of_cells primary fun r _ hr =>
        h.row_cell_eq hr (Schema.primary_mem_meaningful hprimary), hzero, Nat.add_zero,
        Nat.add_zero]
    simp only [Option.map_some]
    rw [RowGroup.ofRange?_of_le (Nat.le_refl _), RowGroup.ofRange?_of_le (Nat.le_refl _),
      lift_ok_bind, lift_ok_bind, hgroups]
    exact h.objects law hprimary

end Blocks

end Page

end MarkedSheet
