import MarkedSheet.Proofs.Emission.Notes
import MarkedSheet.Proofs.Emission.Objects

/-!
# Exactly the containers without a pair disappear

The collapse pass goes by neighbouring lines and never sees the forest. Where no comment names an
object and no value can be taken for a bracket, it takes out of the forest the containers that hold
no pair at any depth, and nothing else (`document_prunes`). A note always stands directly before a
pair, so a container without a pair has no comment either and is empty in the end.
-/

namespace MarkedSheet

namespace KeyValues

mutual

/-- What remains of a node without the containers that hold no pair. -/
def Node.withPairs : Node → List Node
  | .comment content => [.comment content]
  | .pair place key value => [.pair place key value]
  | .container name children =>
    if (pairsOf children).isEmpty then [] else [.container name (withPairs children)]

/-- What remains of a forest without the containers that hold no pair, however deep. -/
def withPairs : List Node → List Node
  | [] => []
  | node :: rest => node.withPairs ++ withPairs rest

end

/-- Without pairs nothing of the forest remains, so its empty containers are those without pairs. -/
structure BarePairless (nodes : List Node) : Prop where
  same : withoutEmpty nodes = withPairs nodes
  nothing : pairsOf nodes = [] → withoutEmpty nodes = []

section Pruning

theorem withPairs_append (s t : List Node) : withPairs (s ++ t) = withPairs s ++ withPairs t := by
  induction s with
  | nil => simp [withPairs]
  | cons node rest ih => simp [withPairs, ih]

theorem barePairless_nil : BarePairless [] :=
  ⟨rfl, fun _ => rfl⟩

theorem BarePairless.append {s t : List Node} (hs : BarePairless s) (ht : BarePairless t) :
    BarePairless (s ++ t) := by
  refine ⟨by rw [withoutEmpty_append, withPairs_append, hs.same, ht.same], fun h => ?_⟩
  rw [pairsOf_append, List.append_eq_nil_iff] at h
  rw [withoutEmpty_append, hs.nothing h.1, ht.nothing h.2, List.append_nil]

theorem BarePairless.wrap {nodes : List Node} (h : BarePairless nodes) (name : Text) :
    BarePairless [.container name nodes] := by
  -- What remains has all the pairs, so nothing remains only where there are none.
  have hempty : (withoutEmpty nodes).isEmpty = (pairsOf nodes).isEmpty := by
    rw [Bool.eq_iff_iff, List.isEmpty_iff, List.isEmpty_iff]
    refine ⟨fun hnil => ?_, h.nothing⟩
    rw [← pairsOf_withoutEmpty, hnil, pairsOf]
  refine ⟨?_, fun hnil => ?_⟩
  · simp only [withoutEmpty, Node.withoutEmpty, withPairs, Node.withPairs, List.append_nil]
    rw [hempty, h.same]
  · rw [pairsOf_singleton, Node.pairs] at hnil
    simp [withoutEmpty, Node.withoutEmpty, h.nothing hnil]

theorem barePairless_pair (place : Place) (key value : Text) :
    BarePairless [.pair place key value] :=
  ⟨rfl, fun h => by simp [pairsOf, Node.pairs] at h⟩

theorem barePairless_noted (content : Text) (place : Place) (key value : Text) :
    BarePairless [.comment content, .pair place key value] :=
  ⟨rfl, fun h => by simp [pairsOf, Node.pairs] at h⟩

end Pruning

end KeyValues

namespace Page

open KeyValues

variable {page : Page}

theorem FreeOfBlocks.forestLaw_shut (h : page.FreeOfBlocks) : page.ForestLaw Shut := by
  have hpair : ∀ key value, page.Writes value → opensContainer (pairText key value) = false := by
    rintro key value (rfl | ⟨r, col, rfl⟩)
    · exact opensContainer_pairText key rfl
    · exact h.pair key r col
  refine forestLaw_of_pairs (by simp [Shut, pairsOf]) (fun hs ht => shut_append.2 ⟨hs, ht⟩)
    (fun _ h => shut_singleton.2 h) (fun r _ => ?_) (fun _ key value hvalue => ?_)
    (fun _ _ key value hvalue => ?_)
  · unfold nameEntry
    split
    · simp [Shut, pairsOf]
    · split <;> simp [Shut, pairsOf, Node.pairs]
  · simpa [Shut, pairsOf, Node.pairs] using hpair key value hvalue
  · simpa [Shut, pairsOf, Node.pairs] using hpair key value hvalue

-- Without names all comments are notes, and a note stands before its pair.
theorem forestLaw_barePairless (hname : page.schema.nameNote? = none) :
    page.ForestLaw BarePairless := by
  refine forestLaw_of_pairs barePairless_nil (fun hs ht => hs.append ht)
    (fun name h => h.wrap name) (fun r _ => ?_)
    (fun place key value _ => barePairless_pair place key value)
    (fun content place key value _ => barePairless_noted content place key value)
  rw [nameEntry, hname]
  exact barePairless_nil

/-- The document of a page without names and block texts is its forest without the containers that
hold no pair. The forest has a container for every group of rows under a primary key, with the block
of its rows in it. -/
theorem document_prunes (page : Page) {unit : Text} (hunit : unit.isBlank) (depth : Int)
    (hname : page.schema.nameNote? = none) (hcells : ∀ row ∈ page.rows, ∀ cell ∈ row,
      (['{'].isPrefixOf (Cell.trimmed cell) && ['{'].isSuffixOf (Cell.trimmed cell)) = false) :
    ∃ ws nodes, page.documentNodes = ⟨ws, .ok nodes⟩
      ∧ (∀ primary, page.schema.primary? = some primary →
        nodes = (page.objectGroups primary).flatMap (page.objectForest primary)
          ∧ ∀ g ∈ page.objectGroups primary, ∃ ws',
            page.blockNodes g.start g.stop (primary + 1) page.schema.width
              = ⟨ws', .ok (page.objectChildren primary g)⟩)
      ∧ page.document unit depth = ⟨ws, .ok (linesOf unit depth (withPairs nodes))⟩ := by
  have hfree : page.FreeOfBlocks := hcells
  have hcalm := page.forestLaw_calm (by simp [hname])
  have hbare := forestLaw_barePairless hname
  have law : page.ForestLaw fun nodes => Shut nodes ∧ Calm nodes ∧ BarePairless nodes :=
    hfree.forestLaw_shut.and (hcalm.and hbare)
  obtain ⟨ws, nodes, hnodes, hshut, hread, hsame⟩ := law.documentNodes.eq
  refine ⟨ws, nodes, hnodes, fun primary hprimary => ⟨?_, fun g hg => ?_⟩, ?_⟩
  · obtain ⟨ws', hobjects⟩ := page.documentNodes_objects primary hprimary
    rw [hnodes] at hobjects
    cases hobjects
    rfl
  · exact page.blockNodes_objectChildren primary hg
  · rw [document_eq hnodes, collapse_linesOf hunit depth hshut hread.1, hsame.same]

/-- An array whose second element holds nothing but an empty map, under a note that looks like an
opening line. -/
def sparsePage : Page where
  schema := .ofTitles (["id", "arr[↓", "x", "m\x7b", "y", "\x7d", "↓]"].map fun t => some t.toList)
  rows := [["h", "a", "\x7b 1 \x7d"], ["", "b", "", "t"]].map (List.map fun t => some t.toList)
  notes := some [none, none, some "n \x7b".toList]

theorem sparsePage_documentNodes : sparsePage.documentNodes
    = ⟨[], .ok [.container ['h'] [.container "arr".toList
      [.container ['a'] [.comment "n \x7b".toList, .pair ⟨0, 2⟩ ['x'] "\x7b 1 \x7d".toList,
          .container ['m'] []],
        .container ['b'] [.container ['t'] []]]]]⟩ := by
  have houtline : outline sparsePage.schema.kinds 1 7
      = [.container .arrayDown 1 6 [.plain 2, .container .mapAcross 3 5 [.plain 4]]] :=
    Laid.outline_eq (.container (by decide) (by decide) (by decide)
      (.plain (by decide) (by decide) (.container (by decide) (by decide) (by decide)
        (.plain (by decide) (by decide) (.done (by decide))) (.done (by decide))))
      (.done (by decide)))
  have hgroups : sparsePage.documentNodes
      = Reported.collect (sparsePage.objectNodes 0) [⟨some ['h'], 0, 2⟩] := rfl
  have hwidth : sparsePage.schema.width = 7 := rfl
  rw [hgroups]
  simp only [Reported.collect, objectNodes, hwidth, blockNodes, houtline]
  rfl

theorem sparsePage_document :
    Text.isBlank [] ∧ sparsePage.schema.nameNote? = none
      ∧ (∀ row ∈ sparsePage.rows, ∀ cell ∈ row,
        (['{'].isPrefixOf (Cell.trimmed cell) && ['{'].isSuffixOf (Cell.trimmed cell)) = false)
      ∧ sparsePage.document [] 0 = ⟨[], .ok (["\"h\" \x7b", "\t\"arr\" \x7b", "\t\t\"a\" \x7b",
        "\t\t\t// n \x7b", "\t\t\t\"x\" \x7b 1 \x7d", "\t\t\x7d", "\t\x7d",
        "\x7d"].map String.toList)⟩ := by
  obtain ⟨ws, nodes, hnodes, -, hlines⟩ := sparsePage.document_prunes
    (by decide : Text.isBlank []) 0 (by decide) (by decide)
  rw [sparsePage_documentNodes] at hnodes
  cases hnodes
  exact ⟨by decide, by decide, by decide, hlines⟩

end Page

end MarkedSheet
