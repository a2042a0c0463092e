import MarkedSheet.Emission.Forest
import MarkedSheet.Proofs.Header.Layout

/-!
# The lines of a forest

A block writes its lines with their depth, handler by handler; its forest has neither lines nor
depth. Both give the same warnings, fail alike, and the lines written are those of the forest
(`block_eq`), also for a whole page (`objectsLines_eq`). It is shown handler by handler: what a
handler writes at a depth is what it gives as a forest, written at that depth (`Prints`).
-/

namespace MarkedSheet

namespace Reported

open KeyValues (Node linesOf linesOf_append)

variable {α : Type} {unit : Text} {depth : Int}

/-- The lines are those of the forest at the depth, with the same warnings, or both fail alike. -/
def Prints (unit : Text) (depth : Int) (lines : Reported (List Text))
    (forest : Reported (List Node)) : Prop :=
  lines = do
    let nodes ← forest
    return linesOf unit depth nodes

theorem prints_pure {lines : List Text} {nodes : List Node} (h : lines = linesOf unit depth nodes) :
    Prints unit depth (pure lines) (pure nodes) := by
  subst h
  rfl

/-- What both do first. -/
theorem prints_bind (x : Reported α) {f : α → Reported (List Text)} {g : α → Reported (List Node)}
    (h : ∀ a, Prints unit depth (f a) (g a)) : Prints unit depth (x >>= f) (x >>= g) := by
  obtain ⟨ws, _ | a⟩ := x
  · rfl
  · have ha := h a
    unfold Prints at ha ⊢
    simp only [bind_ok, ha]
    rcases g a with ⟨more, _ | nodes⟩ <;> simp

/-- What is written inside, at a depth of its own, and what is made of it. -/
theorem Prints.bind {inside : Int} {x : Reported (List Text)} {y : Reported (List Node)}
    (hx : Prints unit inside x y) {f : List Text → Reported (List Text)}
    {g : List Node → Reported (List Node)}
    (h : ∀ nodes, Prints unit depth (f (linesOf unit inside nodes)) (g nodes)) :
    Prints unit depth (x >>= f) (y >>= g) := by
  obtain ⟨ws, _ | nodes⟩ := y
  · rw [hx]
    rfl
  · have hnodes := h nodes
    rw [hx]
    unfold Prints at hnodes ⊢
    simp only [bind_ok, pure_eq, List.append_nil, hnodes]
    rcases g nodes with ⟨more, _ | nodes'⟩ <;> simp

theorem prints_collect {f : α → Reported (List Text)} {g : α → Reported (List Node)}
    (h : ∀ a, Prints unit depth (f a) (g a)) :
    ∀ as : List α, Prints unit depth (collect f as) (collect g as)
  | [] => rfl
  | a :: rest => (h a).bind fun first => (prints_collect h rest).bind fun others =>
    prints_pure (linesOf_append unit depth first others).symm

end Reported

namespace Page

open Reported
open KeyValues (Node linesOf linesOf_append commentLine pairLine openLine closeLine)

variable (page : Page) (unit : Text)

section Handlers

variable {depth : Int}

/-- A container is written with a line before and a line after what is inside. -/
theorem linesOf_container (name : Text) (nodes : List Node) :
    openLine unit depth name :: linesOf unit (depth + 1) nodes ++ [closeLine unit depth]
      = linesOf unit depth [.container name nodes] := by
  simp [linesOf, Node.lines, openLine, closeLine]

/-- A container after the comments that stand before it. -/
theorem linesOf_named (comments : List Node) (name : Text) (nodes : List Node) :
    linesOf unit depth comments
        ++ openLine unit depth name :: linesOf unit (depth + 1) nodes ++ [closeLine unit depth]
      = linesOf unit depth (comments ++ [.container name nodes]) := by
  rw [linesOf_append, ← linesOf_container, List.append_assoc]

theorem prints_nameLines (r : Nat) (depth : Int) :
    Prints unit depth (page.nameLines unit r depth) (page.nameComment r) := by
  unfold nameLines nameComment
  rcases page.schema.nameNote? with _ | col
  · rfl
  · refine prints_bind _ fun name => prints_pure ?_
    split <;> simp [linesOf, Node.lines, commentLine]

theorem noteLines_eq (r col : Nat) (depth : Int) :
    page.noteLines unit r col depth = linesOf unit depth (page.noteComment r col) := by
  unfold noteLines noteComment
  rcases page.notes with _ | notes
  · rfl
  · simp only
    split <;> simp [linesOf, Node.lines, commentLine]

/-- A pair after the note on its column. -/
theorem linesOf_noted (r col : Nat) (place : KeyValues.Place) (key value : Text) :
    page.noteLines unit r col depth ++ [pairLine unit depth key value]
      = linesOf unit depth (page.noteComment r col ++ [.pair place key value]) := by
  rw [noteLines_eq, linesOf_append]
  simp [linesOf, Node.lines, pairLine]

theorem prints_plainLines (col start stop : Nat) (depth : Int) :
    Prints unit depth (page.plainLines unit col start stop depth)
      (page.plainNodes col start stop) := by
  refine prints_collect (fun r => prints_bind _ fun value => ?_) _
  split
  · rfl
  · exact prints_bind _ fun _ => prints_pure (page.linesOf_noted unit r col _ _ _)

theorem prints_abilityLines (col start stop : Nat) (depth : Int) :
    Prints unit depth (page.abilityLines unit col start stop depth)
      (page.abilityNodes col start stop) :=
  prints_collect (fun r => prints_bind _ fun _ => prints_bind _ fun _ =>
    prints_pure (page.linesOf_noted unit r col _ _ _)) _

theorem prints_pairLines (keyCol valueCol start stop : Nat) (depth : Int) :
    Prints unit depth (page.pairLines unit keyCol valueCol start stop depth)
      (page.pairNodes keyCol valueCol (unwrittenBetween page.schema.kinds keyCol valueCol)
        start stop) := by
  refine prints_bind _ fun _ => prints_collect (fun r => ?_) _
  refine prints_bind _ fun key => prints_bind _ fun value => ?_
  split
  · rfl
  · refine prints_bind _ fun _ => prints_bind _ fun _ => prints_pure ?_
    simp [linesOf, Node.lines, pairLine]

theorem prints_loneKeyLines (col start stop : Nat) (depth : Int) :
    Prints unit depth (page.loneKeyLines col start stop) (page.loneKeyNodes col start stop) := by
  refine prints_collect (fun r => ?_) _
  exact prints_bind _ fun _ => prints_bind _ fun _ => rfl

end Handlers

section Containers

variable {lines : Nat → Nat → Int → Reported (List Text)} {nodes : Nat → Nat → Reported (List Node)}
  (hblock : ∀ start stop depth, Prints unit depth (lines start stop depth) (nodes start stop))

include hblock

theorem prints_numberedLines (start stop : Nat) (depth : Int) :
    Prints unit depth (numberedLines unit lines start stop depth)
      (numberedNodes nodes start stop) := by
  refine prints_collect (fun r => (hblock r (r + 1) (depth + 1)).bind fun inside => ?_) _
  exact prints_pure (linesOf_container unit _ inside)

theorem prints_elementLines (name : Text) (col start : Nat) (groups : List RowGroup) (depth : Int) :
    Prints unit depth (page.elementLines unit name col lines start groups depth)
      (page.elementNodes name col nodes start groups) := by
  refine prints_collect (fun g => ?_) _
  rcases g.key with _ | key
  · exact prints_bind _ fun _ => rfl
  · have hnamed : ∀ comments : List Node, Prints unit depth (do
          let inside ← lines g.start g.stop (depth + 1)
          return linesOf unit depth comments
            ++ openLine unit depth key :: inside ++ [closeLine unit depth])
        (do
          let children ← nodes g.start g.stop
          return comments ++ [.container key children]) := by
      intro comments
      refine (hblock g.start g.stop (depth + 1)).bind fun inside => ?_
      exact prints_pure (linesOf_named unit comments key inside)
    simp only
    split
    · exact hnamed []
    · exact (page.prints_nameLines unit g.start depth).bind hnamed

theorem prints_arrayDownLines (col start stop : Nat) (depth : Int) :
    Prints unit depth (page.arrayDownLines unit col lines start stop depth)
      (page.containerNodes .arrayDown col nodes start stop) := by
  refine prints_bind _ fun keyed => ?_
  cases keyed with
  | true =>
    refine prints_bind _ fun groups => ?_
    refine (page.prints_elementLines unit hblock _ col start groups (depth + 1)).bind
      fun inside => ?_
    exact prints_pure (linesOf_container unit _ inside)
  | false =>
    refine (prints_numberedLines unit hblock start stop (depth + 1)).bind fun inside => ?_
    exact prints_pure (linesOf_container unit _ inside)

theorem prints_arrayAcrossLines (col start stop : Nat) (depth : Int) :
    Prints unit depth (page.arrayAcrossLines unit col lines start stop depth)
      (page.containerNodes .arrayAcross col nodes start stop) := by
  unfold arrayAcrossLines containerNodes
  simp only
  split
  · refine (hblock start stop (depth + 1)).bind fun inside => ?_
    exact prints_pure (linesOf_container unit _ inside)
  · refine (prints_numberedLines unit hblock start stop (depth + 1)).bind fun inside => ?_
    exact prints_pure (linesOf_container unit _ inside)

theorem prints_containerLines (family : Family) (col start stop : Nat) (depth : Int) :
    Prints unit depth (page.containerLines unit family col lines start stop depth)
      (page.containerNodes family col nodes start stop) := by
  cases family with
  | arrayDown => exact page.prints_arrayDownLines unit hblock col start stop depth
  | arrayAcross => exact page.prints_arrayAcrossLines unit hblock col start stop depth
  | mapAcross | mapDown =>
    refine prints_bind _ fun title => (hblock start stop (depth + 1)).bind fun inside => ?_
    exact prints_pure (linesOf_container unit title inside)

end Containers

section Blocks

/-- What a column that writes nothing gives. -/
theorem columnLines_silent {col colStop : Nat} {kind : Kind}
    (hkind : page.schema.kinds[col]? = some kind) (hopening : ∀ family, kind ≠ .opening family)
    (hkey : kind ≠ .key) (hability : kind ≠ .ability) (hplain : kind ≠ .plain)
    (block : Family → Nat → Nat → Int → Reported (List Text)) (start stop : Nat) (depth : Int) :
    page.columnLines unit col colStop block start stop depth = pure [] := by
  cases kind <;> simp_all [columnLines]

theorem nextColumn_silent {kinds : List Kind} {col stop : Nat} {kind : Kind}
    (hkind : kinds[col]? = some kind) (hopening : ∀ family, kind ≠ .opening family)
    (hkey : kind ≠ .key) : nextColumn kinds col stop = col + 1 := by
  cases kind <;> simp_all [nextColumn]

/-- What begins in a column and what follows it. -/
theorem prints_cons {depth : Int} {item : Item} {rest : List Item} {start stop : Nat}
    {first others : Reported (List Text)}
    (hfirst : Prints unit depth first (page.itemNodes item start stop))
    (hothers : Prints unit depth others (page.itemsNodes rest start stop)) :
    Prints unit depth (do
      let first ← first
      let others ← others
      return first ++ others) (page.itemsNodes (item :: rest) start stop) := by
  rw [itemsNodes]
  refine hfirst.bind fun nodes => hothers.bind fun nodes' => ?_
  exact prints_pure (linesOf_append unit depth nodes nodes').symm

/-- A block writes the lines of its forest. The outline of the columns has the recursion of `block`,
so the induction is on it. -/
theorem prints_block (col colStop : Nat) : ∀ (start stop : Nat) (depth : Int),
    Prints unit depth (page.block unit start stop col colStop depth)
      (page.blockNodes start stop col colStop) := by
  unfold blockNodes
  fun_induction outline page.schema.kinds col colStop with
  | case1 col colStop hlt hnone =>
    intro start stop depth
    rw [block, dif_pos hlt, columnLines, hnone]
    rfl
  | case2 col colStop hlt family hkind ihItems ihRest =>
    intro start stop depth
    rw [block, dif_pos hlt, columnLines, nextColumn, hkind]
    exact page.prints_cons unit
      (page.prints_containerLines unit ihItems family col start stop depth)
      (ihRest start stop depth)
  | case3 col colStop hlt hkind valueCol hvalue ih =>
    intro start stop depth
    rw [block, dif_pos hlt, columnLines, nextColumn, hkind]
    simp only [keyLines, hvalue]
    exact page.prints_cons unit (page.prints_pairLines unit col valueCol start stop depth)
      (ih start stop depth)
  | case4 col colStop hlt hkind hvalue ih =>
    intro start stop depth
    rw [block, dif_pos hlt, columnLines, nextColumn, hkind]
    simp only [keyLines, hvalue]
    exact page.prints_cons unit (page.prints_loneKeyLines unit col start stop depth)
      (ih start stop depth)
  | case5 col colStop hlt hkind hvalue =>
    intro start stop depth
    rw [block, dif_pos hlt, columnLines, hkind]
    simp only [keyLines, hvalue]
    rfl
  | case6 col colStop hlt hkind ih =>
    intro start stop depth
    rw [block, dif_pos hlt, columnLines, nextColumn, hkind]
    exact page.prints_cons unit (page.prints_abilityLines unit col start stop depth)
      (ih start stop depth)
  | case7 col colStop hlt hkind ih =>
    intro start stop depth
    rw [block, dif_pos hlt, columnLines, nextColumn, hkind]
    exact page.prints_cons unit (page.prints_plainLines unit col start stop depth)
      (ih start stop depth)
  | case8 col colStop hlt kind hopening hkey hability hplain hkind ih =>
    intro start stop depth
    rw [block, dif_pos hlt, page.columnLines_silent unit hkind hopening hkey hability hplain,
      nextColumn_silent hkind hopening hkey]
    exact page.prints_cons unit rfl (ih start stop depth)
  | case9 col colStop hlt =>
    intro start stop depth
    rw [block, dif_neg hlt]
    rfl

/-- The lines of a block are those of its forest at the depth, with the same warnings. -/
theorem block_eq (start stop col colStop : Nat) (depth : Int) :
    page.block unit start stop col colStop depth = do
      let nodes ← page.blockNodes start stop col colStop
      return linesOf unit depth nodes :=
  page.prints_block unit col colStop start stop depth

theorem prints_objectLines (primary : Nat) (g : RowGroup) (depth : Int) :
    Prints unit depth (page.objectLines unit primary g depth) (page.objectNodes primary g) := by
  unfold objectLines objectNodes
  rcases g.key with _ | key
  · exact prints_bind _ fun _ => rfl
  · refine prints_bind _ fun cell => prints_bind _ fun _ => ?_
    refine (page.prints_nameLines unit g.start depth).bind fun comments => ?_
    refine (page.prints_block unit (primary + 1) page.schema.width g.start g.stop
      (depth + 1)).bind fun inside => ?_
    exact prints_pure (linesOf_named unit comments key inside)

/-- The lines of all objects are those of the forest of the page. -/
theorem objectsLines_eq (depth : Int) :
    page.objectsLines unit depth = do
      let nodes ← page.documentNodes
      return linesOf unit depth nodes := by
  change Prints unit depth (page.objectsLines unit depth) page.documentNodes
  unfold objectsLines documentNodes
  rcases page.schema.primary? with _ | primary
  · rfl
  · exact prints_bind _ fun groups =>
      prints_collect (fun g => page.prints_objectLines unit primary g depth) groups

variable {page}

/-- A document is the lines of its forest without the containers that stay empty. -/
theorem document_eq {ws : List Warning} {nodes : List Node}
    (h : page.documentNodes = ⟨ws, .ok nodes⟩) (unit : Text) (depth : Int) :
    page.document unit depth = ⟨ws, .ok (KeyValues.collapse (linesOf unit depth nodes))⟩ := by
  rw [document, objectsLines_eq, h]
  simp

end Blocks

end Page

end MarkedSheet
