import MarkedSheet.Proofs.Emission.Containers
import MarkedSheet.Proofs.Header.Layout

/-!
# What all forests of a page have in common

A forest is put together from the entries of rows and the names of objects, side by side and in
containers. What holds of the entries and the names and is kept on the way (`ForestLaw`) holds of
the forest of every block (`ForestLaw.itemsNodes`) and of the whole page
(`ForestLaw.documentNodes`).
-/

namespace MarkedSheet

namespace Page

open Reported
open KeyValues (Node)

/-- What is said of a forest holds of the entries of the rows and is kept when forests are put
together. -/
structure ForestLaw (page : Page) (Q : List Node → Prop) : Prop where
  nil : Q []
  append : ∀ {nodes nodes'}, Q nodes → Q nodes' → Q (nodes ++ nodes')
  wrap : ∀ {nodes} (name : Text), Q nodes → Q [.container name nodes]
  name : ∀ r, r < page.rows.length → Q (page.nameEntry r)
  plain : ∀ r col, r < page.rows.length → Q (page.plainEntry r col)
  ability : ∀ r col, r < page.rows.length → Q (page.abilityEntry r col)
  pair : ∀ keyCol valueCol r, r < page.rows.length → Q (page.pairEntry keyCol valueCol r)

/-- The text is what is written for some cell, or it is empty. -/
def Writes (page : Page) (value : Text) : Prop :=
  value = [] ∨ ∃ r col, value = page.written (page.cellAt r col)

variable {page : Page} {Q : List Node → Prop} {start stop : Nat}

/-- All entries of rows are pairs of written values, with a note directly before them or without. -/
theorem forestLaw_of_pairs (hnil : Q []) (happend : ∀ {s t}, Q s → Q t → Q (s ++ t))
    (hwrap : ∀ {nodes} (name : Text), Q nodes → Q [.container name nodes])
    (hname : ∀ r, r < page.rows.length → Q (page.nameEntry r))
    (hpair : ∀ place key value, page.Writes value → Q [.pair place key value])
    (hnoted : ∀ content place key value, page.Writes value →
      Q [.comment content, .pair place key value]) : page.ForestLaw Q := by
  have hentry : ∀ r col key value, page.Writes value →
      Q (page.noteComment r col ++ [.pair ⟨r, col⟩ key value]) := by
    intro r col key value hvalue
    rcases page.noteComment_cases r col with h | ⟨content, h⟩
    · rw [h]
      exact hpair _ key value hvalue
    · rw [h]
      exact hnoted content _ key value hvalue
  refine ⟨hnil, happend, hwrap, hname, fun r col _ => ?_, fun r col _ => ?_,
    fun keyCol valueCol r _ => ?_⟩
  · unfold plainEntry
    split
    · exact hnil
    · exact hentry r col _ _ (.inr ⟨r, col, rfl⟩)
  · refine hentry r col _ _ ?_
    unfold shownValue
    split
    · exact .inl rfl
    · exact .inr ⟨r, col, rfl⟩
  · unfold pairEntry
    split
    · exact hnil
    · exact hpair _ _ _ (.inr ⟨r, valueCol, rfl⟩)

theorem ForestLaw.and {Q' : List Node → Prop} (law : page.ForestLaw Q) (law' : page.ForestLaw Q') :
    page.ForestLaw fun nodes => Q nodes ∧ Q' nodes where
  nil := ⟨law.nil, law'.nil⟩
  append h h' := ⟨law.append h.1 h'.1, law'.append h.2 h'.2⟩
  wrap name h := ⟨law.wrap name h.1, law'.wrap name h.2⟩
  name r hr := ⟨law.name r hr, law'.name r hr⟩
  plain r col hr := ⟨law.plain r col hr, law'.plain r col hr⟩
  ability r col hr := ⟨law.ability r col hr, law'.ability r col hr⟩
  pair keyCol valueCol r hr := ⟨law.pair keyCol valueCol r hr, law'.pair keyCol valueCol r hr⟩

theorem ForestLaw.rangeLaw (law : page.ForestLaw Q) :
    page.RangeLaw fun _ _ _ nodes => Q nodes where
  nil _ := law.nil
  append _ _ h h' := law.append h h'
  wrap name h := law.wrap name h
  named hlt hle h := law.append (law.name _ (Nat.lt_of_lt_of_le hlt hle)) h

theorem ForestLaw.flatMap (law : page.ForestLaw Q) {entry : Nat → List Node}
    (hentry : ∀ r, r < page.rows.length → Q (entry r)) (hstop : stop ≤ page.rows.length) :
    Q ((rowRange start stop).flatMap entry) := by
  have hrows : ∀ r ∈ rowRange start stop, r < page.rows.length := fun r hr =>
    Nat.lt_of_lt_of_le (mem_rowRange hr).2 hstop
  revert hrows
  induction rowRange start stop with
  | nil => exact fun _ => law.nil
  | cons r rest ih =>
    intro hrows
    have hrest := ih fun r' hr' => hrows r' (List.mem_cons_of_mem _ hr')
    exact law.append (hentry r (hrows r List.mem_cons_self)) hrest

theorem ForestLaw.cons (law : page.ForestLaw Q) {item : Item} {rest : List Item}
    (hitem : (page.itemNodes item start stop).Gives fun _ nodes => Q nodes)
    (hrest : (page.itemsNodes rest start stop).Gives fun _ nodes => Q nodes) :
    (page.itemsNodes (item :: rest) start stop).Gives fun _ nodes => Q nodes := by
  rw [Page.itemsNodes]
  exact hitem.bind fun _ _ h => hrest.bind fun _ _ h' => gives_pure (law.append h h')

theorem ForestLaw.itemsNodes (law : page.ForestLaw Q) {col colStop : Nat} {items : List Item}
    (h : Laid page.schema.kinds col colStop items) :
    ∀ {start stop : Nat}, start < stop → stop ≤ page.rows.length →
      (page.itemsNodes items start stop).Gives fun _ nodes => Q nodes := by
  induction h with
  | done _ =>
    intro start stop _ _
    exact gives_pure law.nil
  | @plain col _ rest _ _ _ ih =>
    intro start stop hrow hrows
    have hitem : (page.itemNodes (.plain col) start stop).Gives fun _ nodes => Q nodes := by
      rw [itemNodes]
      refine (gives_plainNodes hrows col).mono fun _ _ hnodes => ?_
      rw [hnodes]
      exact law.flatMap (fun r => law.plain r col) hrows
    exact law.cons hitem (ih hrow hrows)
  | @ability col _ rest _ _ _ ih =>
    intro start stop hrow hrows
    have hitem : (page.itemNodes (.ability col) start stop).Gives fun _ nodes => Q nodes := by
      rw [itemNodes]
      refine (gives_abilityNodes hrows col).mono fun _ _ hnodes => ?_
      rw [hnodes]
      exact law.flatMap (fun r => law.ability r col) hrows
    exact law.cons hitem (ih hrow hrows)
  | @pairs col valueCol _ rest _ _ _ _ ih =>
    intro start stop hrow hrows
    have hitem : (page.itemNodes (.pairs col valueCol (unwrittenBetween page.schema.kinds col
        valueCol)) start stop).Gives fun _ nodes => Q nodes := by
      rw [itemNodes]
      refine (gives_pairNodes hrows col valueCol _).mono fun _ _ hnodes => ?_
      rw [hnodes.2]
      exact law.flatMap (law.pair col valueCol) hrows
    exact law.cons hitem (ih hrow hrows)
  | @loneKey col _ rest _ _ _ _ ih =>
    intro start stop hrow hrows
    have hitem : (page.itemNodes (.loneKey col) start stop).Gives fun _ nodes => Q nodes := by
      rw [itemNodes]
      refine (gives_loneKeyNodes hrows col).mono fun _ _ hnodes => ?_
      rw [hnodes]
      exact law.nil
    exact law.cons hitem (ih hrow hrows)
  | @container family col close _ items rest _ _ _ _ _ ihItems ihRest =>
    intro start stop hrow hrows
    have hitem : (page.itemNodes (.container family col close items) start stop).Gives
        fun _ nodes => Q nodes := by
      rw [itemNodes]
      exact gives_containerNodes law.rangeLaw (fun _ _ _ _ _ => law.nil) hrow hrows
        fun s e _ hse he => ihItems hse (by omega)
    exact law.cons hitem (ihRest hrow hrows)
  | silent _ _ _ _ ih =>
    intro start stop hrow hrows
    exact law.cons (gives_pure law.nil) (ih hrow hrows)

/-- A block of rows and columns that exist has a forest. -/
theorem exists_blockNodes (page : Page) {rowStart rowStop : Nat} (hrow : rowStart < rowStop)
    (hrows : rowStop ≤ page.rows.length) (colStart : Nat) {colStop : Nat}
    (hcols : colStop ≤ page.schema.width) :
    ∃ ws nodes, page.blockNodes rowStart rowStop colStart colStop = ⟨ws, .ok nodes⟩ := by
  have law : page.ForestLaw fun _ => True := by constructor <;> simp
  have hlaid := laid_outline page.schema.kinds colStart colStop (by simpa using hcols)
  obtain ⟨ws, nodes, hnodes, -⟩ := (law.itemsNodes hlaid hrow hrows).eq
  exact ⟨ws, nodes, hnodes⟩

theorem ForestLaw.objectNodes (law : page.ForestLaw Q) (primary : Nat) {g : RowGroup}
    (hne : g.start < g.stop) (hle : g.stop ≤ page.rows.length) :
    (page.objectNodes primary g).Gives fun _ nodes => Q nodes := by
  have hrow : g.start < page.rows.length := by omega
  have hlaid := laid_outline page.schema.kinds (primary + 1) page.schema.width (by simp)
  unfold Page.objectNodes
  rcases g.key with _ | key
  · exact gives_mk law.nil
  · simp only [page.cell_eq hrow, lift_ok, bind_ok, List.nil_append]
    refine Gives.bind (P := fun _ _ => True) ?_ fun _ _ _ => ?_
    · simp [checkSpace, warnIf_eq, gives_mk]
    · refine (gives_nameComment hrow).bind ?_
      rintro _ _ ⟨rfl, rfl⟩
      refine (law.itemsNodes hlaid hne hle).bind fun _ children h => gives_pure ?_
      exact law.append (law.name _ hrow) (law.wrap key h)

/-- The forest of a page exists, and what is kept by all that puts it together holds of it. -/
theorem ForestLaw.documentNodes (law : page.ForestLaw Q) :
    page.documentNodes.Gives fun _ nodes => Q nodes := by
  unfold Page.documentNodes
  rcases page.schema.primary? with _ | primary
  · exact gives_mk law.nil
  · have htiles := RowGroup.tiles_ofRange primary (Nat.zero_le page.rows.length)
      (Nat.le_refl page.rows.length)
    simp only [RowGroup.ofRange?_of_le (Nat.le_refl _), lift_ok, bind_ok, List.nil_append]
    refine gives_groups (P := fun _ _ nodes => Q nodes) (Q := fun _ _ nodes => Q nodes) law.nil
      (fun _ _ _ _ _ _ _ h h' => law.append h h') htiles fun g hg => ?_
    obtain ⟨-, hne, hle⟩ := htiles.bounds hg
    exact law.objectNodes primary hne hle

end Page

end MarkedSheet
