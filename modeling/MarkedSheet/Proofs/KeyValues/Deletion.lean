import Mathlib.Data.List.Chain
import Mathlib.Logic.Relation
import MarkedSheet.Proofs.KeyValues.Collapsing

/-!
# The collapse pass and the order of deletions

An empty container is deleted by taking out its two lines, and more containers may be empty then.
Whatever lines it is given, balanced or not, and in whatever order such deletions are made, they
come to an end with the lines that the one pass leaves (`collapse_normal_form`). No line both opens
and closes a container, so two places for a deletion never share a line, and a deletion changes
nothing for the pass (`Deletes.foldl_keepLine`).
-/

namespace MarkedSheet

namespace KeyValues

open Relation (ReflTransGen)

/-- The two lines look like a container with nothing in it. -/
def MakesEmpty (line next : Text) : Prop :=
  opensContainer line ∧ closesContainer next

/-- The second list of lines is the first without two neighbours that look like an empty
container. -/
inductive Deletes : List Text → List Text → Prop
  | pair (front : List Text) {opening closing : Text} (rest : List Text)
      (hempty : MakesEmpty opening closing) :
      Deletes (front ++ opening :: closing :: rest) (front ++ rest)

/-- There is nothing to delete. -/
def IsReduced (lines : List Text) : Prop :=
  ∀ fewer, ¬ Deletes lines fewer

section Pass

theorem closesContainer_of_opensContainer {line : Text} (h : opensContainer line) :
    closesContainer line = false := by
  rw [closesContainer, decide_eq_false_iff_not]
  intro htrim
  rw [opensContainer, htrim] at h
  exact absurd h (by decide)

variable {lines fewer : List Text}

/-- The pass drops the two lines as well, so it goes on as without them. -/
theorem Deletes.foldl_keepLine (h : Deletes lines fewer) (kept : List Text) :
    lines.foldl keepLine kept = fewer.foldl keepLine kept := by
  obtain ⟨front, rest, hopening, hclosing⟩ := h
  rw [List.foldl_append, List.foldl_cons, List.foldl_cons,
    keepLine_of_not_closes (closesContainer_of_opensContainer hopening),
    keepLine_of_both hclosing hopening, List.foldl_append]

theorem collapse_of_reflTransGen (h : ReflTransGen Deletes lines fewer) :
    collapse lines = collapse fewer := by
  induction h with
  | refl => rfl
  | tail _ hstep ih => rw [ih, collapse, hstep.foldl_keepLine, collapse]

theorem reflTransGen_foldl_keepLine (lines : List Text) : ∀ kept : List Text,
    ReflTransGen Deletes (kept.reverse ++ lines) (lines.foldl keepLine kept).reverse := by
  induction lines with
  | nil =>
    intro kept
    rw [List.append_nil]
    exact .refl
  | cons line rest ih =>
    -- A line that closes an empty container goes with the last kept line, in one deletion.
    intro kept
    have hrest := ih (keepLine kept line)
    rw [List.foldl_cons]
    rcases keepLine_cases kept line with heq | ⟨top, below, rfl, hcloses, hopens, heq⟩
    · rw [heq, List.reverse_cons, List.append_assoc, List.singleton_append] at hrest
      rwa [heq]
    · rw [heq] at hrest ⊢
      have hstep := Deletes.pair below.reverse rest ⟨hopens, hcloses⟩
      rw [List.reverse_cons, List.append_assoc, List.singleton_append]
      exact .head hstep hrest

theorem reflTransGen_collapse (lines : List Text) :
    ReflTransGen Deletes lines (collapse lines) :=
  reflTransGen_foldl_keepLine lines []

end Pass

section Reduced

variable {lines : List Text}

theorem isReduced_iff :
    IsReduced lines ↔ lines.IsChain fun line next => ¬ MakesEmpty line next := by
  rw [List.isChain_iff_forall_rel_of_append_cons_cons]
  constructor
  · rintro h opening closing front rest rfl hempty
    exact h _ (.pair front rest hempty)
  · rintro h _ ⟨front, rest, hempty⟩
    exact h rfl hempty

-- The kept lines stand last line first, so the neighbours change places.
theorem isChain_keepLine {kept : List Text}
    (h : kept.IsChain fun next line => ¬ MakesEmpty line next) (line : Text) :
    (keepLine kept line).IsChain fun next line => ¬ MakesEmpty line next := by
  cases kept with
  | nil => exact .singleton line
  | cons top below =>
    rw [keepLine]
    split
    next => exact h.tail
    next hempty =>
      refine .cons_cons (fun h => hempty ?_) h
      rw [h.1, h.2, Bool.and_true]

theorem isReduced_collapse (lines : List Text) : IsReduced (collapse lines) := by
  have hkept : ∀ kept : List Text, (kept.IsChain fun next line => ¬ MakesEmpty line next) →
      (lines.foldl keepLine kept).IsChain fun next line => ¬ MakesEmpty line next := by
    induction lines with
    | nil => exact fun _ h => h
    | cons line rest ih => exact fun kept h => ih _ (isChain_keepLine h line)
  rw [isReduced_iff, collapse, List.isChain_reverse]
  exact hkept [] .nil

theorem collapse_of_isReduced (h : IsReduced lines) : collapse lines = lines := by
  rcases (reflTransGen_collapse lines).cases_head with heq | ⟨fewer, hstep, -⟩
  · exact heq.symm
  · exact absurd hstep (h fewer)

end Reduced

section Deletions

variable {lines fewer : List Text}

theorem Deletes.length (h : Deletes lines fewer) : fewer.length + 2 = lines.length := by
  obtain ⟨front, rest, -⟩ := h
  simp only [List.length_append, List.length_cons]
  omega

theorem Deletes.sublist (h : Deletes lines fewer) : fewer.Sublist lines := by
  obtain ⟨front, rest, -⟩ := h
  exact (List.Sublist.refl front).append (((List.Sublist.refl rest).cons _).cons _)

theorem sublist_of_reflTransGen (h : ReflTransGen Deletes lines fewer) : fewer.Sublist lines := by
  induction h with
  | refl => exact .refl lines
  | tail _ hstep ih => exact hstep.sublist.trans ih

/-- The collapsed lines of a forest are lines of the forest without its empty containers. -/
theorem mem_collapse_linesOf {unit : Text} (hunit : unit.isBlank) (depth : Int) {nodes : List Node}
    {line : Text} (h : line ∈ collapse (linesOf unit depth nodes)) :
    line ∈ linesOf unit depth (withoutEmpty nodes) := by
  rw [collapse, foldl_keepLine_withoutEmpty hunit] at h
  exact (sublist_of_reflTransGen (reflTransGen_collapse _)).subset h

/-- Deletions come to an end, for there are fewer lines after each. -/
theorem acc_deletes (lines : List Text) : Acc (flip Deletes) lines := by
  refine Subrelation.accessible (fun {fewer lines} (h : Deletes lines fewer) => ?_)
    ((measure List.length).wf.apply lines)
  have := h.length
  exact Nat.lt_of_lt_of_eq (by omega) this

end Deletions

/-- The collapse pass leaves no two neighbours that look like an empty container. Deletions of such
neighbours come to an end, and what they end with, whatever their order, is what the pass leaves. So
it is a part of the lines in their order, and a second pass changes nothing. -/
theorem collapse_normal_form (lines : List Text) :
    ((collapse lines).IsChain fun line next => ¬ (opensContainer line ∧ closesContainer next))
      ∧ Acc (flip Deletes) lines
      ∧ (∀ last, ReflTransGen Deletes lines last ∧ IsReduced last ↔ last = collapse lines)
      ∧ (collapse lines).Sublist lines
      ∧ collapse (collapse lines) = collapse lines := by
  have hreach := reflTransGen_collapse lines
  have hreduced := isReduced_collapse lines
  refine ⟨isReduced_iff.1 hreduced, acc_deletes lines, fun last => ⟨?_, ?_⟩,
    sublist_of_reflTransGen hreach, collapse_of_isReduced hreduced⟩
  · rintro ⟨hlast, hend⟩
    calc last = collapse last := (collapse_of_isReduced hend).symm
      _ = collapse lines := (collapse_of_reflTransGen hlast).symm
  · rintro rfl
    exact ⟨hreach, hreduced⟩

end KeyValues

end MarkedSheet
