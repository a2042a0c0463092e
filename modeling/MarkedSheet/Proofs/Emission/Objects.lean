import MarkedSheet.Proofs.Emission.Forests
import MarkedSheet.Proofs.Emission.Independence

/-!
# The objects of a page

The forest of a page are the forests of its objects, one after another (`documentNodes_objects`):
each group of rows under a primary key has its name and then a container with the block of its rows.
-/

namespace MarkedSheet

namespace Page

open Reported
open KeyValues (Node)

variable (page : Page) (primary : Nat)

/-- The groups of rows that make the objects. -/
def objectGroups : List RowGroup :=
  RowGroup.ofRange page.rows 0 page.rows.length primary

/-- What the container of an object holds. -/
def objectChildren (g : RowGroup) : List Node :=
  (page.blockNodes g.start g.stop (primary + 1) page.schema.width).result.toOption.getD []

/-- The container of an object after its name; nothing for rows without a key. -/
def objectForest (g : RowGroup) : List Node :=
  match g.key with
  | none => []
  | some key => page.nameEntry g.start ++ [.container key (page.objectChildren primary g)]

section Objects

theorem tiles_objectGroups : RowGroup.Tiles page.rows.length 0 (page.objectGroups primary) :=
  RowGroup.tiles_ofRange primary (Nat.zero_le _) (Nat.le_refl _)

theorem blockNodes_objectChildren {g : RowGroup} (hg : g ∈ page.objectGroups primary) :
    ∃ ws, page.blockNodes g.start g.stop (primary + 1) page.schema.width
      = ⟨ws, .ok (page.objectChildren primary g)⟩ := by
  obtain ⟨-, hne, hle⟩ := (page.tiles_objectGroups primary).bounds hg
  obtain ⟨ws, nodes, hblock⟩ :=
    page.exists_blockNodes hne hle (primary + 1) (Nat.le_refl _)
  refine ⟨ws, ?_⟩
  rw [objectChildren, hblock]
  rfl

theorem gives_objectNodes {g : RowGroup} (hg : g ∈ page.objectGroups primary) :
    (page.objectNodes primary g).Gives fun _ nodes => nodes = page.objectForest primary g := by
  obtain ⟨-, hne, hle⟩ := (page.tiles_objectGroups primary).bounds hg
  have hrow : g.start < page.rows.length := by omega
  obtain ⟨ws, hblock⟩ := page.blockNodes_objectChildren primary hg
  unfold objectNodes objectForest
  rcases g.key with _ | key
  · exact gives_mk rfl
  · simp only [page.cell_eq hrow, lift_ok, bind_ok, List.nil_append]
    refine Gives.bind (P := fun _ _ => True) ?_ fun _ _ _ => ?_
    · simp [checkSpace, warnIf_eq, gives_mk]
    · refine (gives_nameComment hrow).bind ?_
      rintro _ _ ⟨rfl, rfl⟩
      rw [hblock]
      exact gives_mk rfl

/-- The forest of a page are the forests of its objects, one after another. -/
theorem documentNodes_objects (hprimary : page.schema.primary? = some primary) :
    ∃ ws, page.documentNodes
      = ⟨ws, .ok ((page.objectGroups primary).flatMap (page.objectForest primary))⟩ := by
  have hgives : page.documentNodes.Gives fun _ nodes =>
      nodes = (page.objectGroups primary).flatMap (page.objectForest primary) := by
    rw [page.documentNodes_eq hprimary]
    refine gives_collect (P := fun g _ nodes => nodes = page.objectForest primary g)
      (Q := fun gs _ nodes => nodes = gs.flatMap (page.objectForest primary)) rfl ?_ _
      fun g hg => page.gives_objectNodes primary hg
    rintro g rest ws nodes ws' nodes' rfl rfl
    rfl
  obtain ⟨ws, nodes, hnodes, rfl⟩ := hgives.eq
  exact ⟨ws, hnodes⟩

end Objects

end Page

end MarkedSheet
