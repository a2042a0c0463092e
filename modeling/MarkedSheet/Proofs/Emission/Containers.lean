import MarkedSheet.Proofs.Emission.Entries

/-!
# What containers give

A container splits its rows in one of three ways: one block for all of them, one for each row, or
one for each group of rows under an element key. What is kept when ranges of rows are put together
and containers are opened around them (`RangeLaw`) holds of the container when it holds of the
blocks of the columns inside (`gives_containerNodes`).
-/

namespace MarkedSheet

namespace Page

open Reported
open KeyValues (Node)

/-- What is said of a range of rows, the warnings on it and its forest is kept by all that a
container does with them. -/
structure RangeLaw (page : Page) (Q : Nat → Nat → List Warning → List Node → Prop) : Prop where
  nil : ∀ r, Q r r [] []
  append : ∀ {start mid stop ws ws' nodes nodes'}, start < mid → mid ≤ stop →
    Q start mid ws nodes → Q mid stop ws' nodes' → Q start stop (ws ++ ws') (nodes ++ nodes')
  wrap : ∀ {start stop ws nodes} (name : Text), Q start stop ws nodes →
    Q start stop ws [.container name nodes]
  named : ∀ {start stop ws nodes}, start < stop → stop ≤ page.rows.length →
    Q start stop ws nodes → Q start stop ws (page.nameEntry start ++ nodes)

/-- What is said of a range of rows holds where an array leaves them out for want of an element
key. -/
def HoldsUnkeyed (page : Page) (col : Nat) (Q : Nat → Nat → List Warning → List Node → Prop) :
    Prop :=
  ∀ name start stop, start < stop →
    Q start stop [.noElementKey (page.rowNumber start) (page.rowNumber (stop - 1)) name col] []

variable {page : Page} {Q : Nat → Nat → List Warning → List Node → Prop}
  {block : Nat → Nat → Reported (List Node)} {start stop col : Nat}

theorem gives_wrap (law : page.RangeLaw Q) {x : Reported (List Node)} (name : Text)
    (hx : x.Gives (Q start stop)) :
    (do let children ← x; return [Node.container name children] : Reported (List Node)).Gives
      (Q start stop) := by
  refine hx.bind fun ws children h => gives_mk ?_
  rw [List.append_nil]
  exact law.wrap name h

theorem gives_numberedNodes (law : page.RangeLaw Q) (hle : start ≤ stop)
    (hblock : ∀ s e, start ≤ s → s < e → e ≤ stop → (block s e).Gives (Q s e)) :
    (numberedNodes block start stop).Gives (Q start stop) :=
  gives_rows (P := fun r => Q r (r + 1)) (Q := fun r => Q r stop) (law.nil stop)
    (fun r _ _ _ _ hlt hP hQ => law.append (Nat.lt_succ_self r) hlt hP hQ) hle
    fun r hr hlt => gives_wrap law _ (hblock r (r + 1) hr (Nat.lt_succ_self r) hlt)

theorem gives_elementNodes (law : page.RangeLaw Q) (hunkeyed : page.HoldsUnkeyed col Q)
    {name : Text} {groups : List RowGroup} (hstop : stop ≤ page.rows.length)
    (htiles : RowGroup.Tiles stop start groups)
    (hblock : ∀ s e, start ≤ s → s < e → e ≤ stop → (block s e).Gives (Q s e)) :
    (page.elementNodes name col block start groups).Gives (Q start stop) := by
  refine gives_groups (P := fun g => Q g.start g.stop) (Q := fun s => Q s stop) (law.nil stop)
    (fun g _ _ _ _ hne hle hP hQ => law.append hne hle hP hQ) htiles fun g hg => ?_
  obtain ⟨hs, hne, he⟩ := htiles.bounds hg
  rcases g.key with _ | key
  · exact gives_mk (hunkeyed name g.start g.stop hne)
  · have hchildren := hblock g.start g.stop hs hne he
    simp only
    split
    · refine (gives_pure (Q := fun ws nodes => ws = [] ∧ nodes = []) ⟨rfl, rfl⟩).bind ?_
      rintro _ _ ⟨rfl, rfl⟩
      exact gives_wrap law key hchildren
    · refine (gives_nameComment (by omega)).bind ?_
      rintro _ _ ⟨rfl, rfl⟩
      refine hchildren.bind fun ws children h => gives_mk ?_
      rw [List.append_nil]
      exact law.named hne (by omega) (law.wrap key h)

/-- What holds of the blocks inside a container, for every range of its rows, holds of the
container. -/
theorem gives_containerNodes (law : page.RangeLaw Q) {family : Family}
    (hunkeyed : family = .arrayDown → page.HoldsUnkeyed col Q) (hlt : start < stop)
    (hstop : stop ≤ page.rows.length)
    (hblock : ∀ s e, start ≤ s → s < e → e ≤ stop → (block s e).Gives (Q s e)) :
    (page.containerNodes family col block start stop).Gives (Q start stop) := by
  have hle := Nat.le_of_lt hlt
  have hnumbered := gives_numberedNodes law hle hblock
  have hwhole := hblock start stop (Nat.le_refl _) hlt (Nat.le_refl _)
  cases family with
  | arrayDown =>
    simp only [containerNodes]
    obtain ⟨keyed, hkeyed⟩ := RowGroup.columnHasValues_of_le col start hstop
    rw [hkeyed, RowGroup.ofRange?_of_le hstop]
    cases keyed with
    | false => exact gives_wrap law _ hnumbered
    | true =>
      have htiles := RowGroup.tiles_ofRange col hle hstop
      exact gives_wrap law _ (gives_elementNodes law (hunkeyed rfl) hstop htiles hblock)
  | arrayAcross =>
    simp only [containerNodes]
    split
    · exact gives_wrap law _ hwhole
    · exact gives_wrap law _ hnumbered
  | mapAcross =>
    simp only [containerNodes]
    refine (gives_mapTitle (by omega) _ col).bind fun ws title hws => ?_
    subst hws
    exact gives_wrap law title hwhole
  | mapDown =>
    simp only [containerNodes]
    refine (gives_mapTitle (by omega) _ col).bind fun ws title hws => ?_
    subst hws
    exact gives_wrap law title hwhole

end Page

end MarkedSheet
