import Mathlib.Data.List.Induction
import MarkedSheet.KeyValues.Node
import MarkedSheet.Proofs.KeyValues.Lines

/-!
# Nesting

The lines that open a container less the lines that close one, comments left out, tell how many
containers are open (`nesting`). Lines are `Nested` when at no point more containers are closed than
opened. The lines of a forest are nested and close all they open (`nested_linesOf`). Taking out
lines that seem to open and close an empty container never closes too much (`nested_collapse`), but
a comment may be taken for the line that opens one, and then a container stays open.
-/

namespace MarkedSheet

namespace KeyValues

/-- How many containers the lines open and do not close. Comments do not count. -/
def nesting (lines : List Text) : Int :=
  let counted := lines.filter fun line => !isCommentLine line
  (counted.countP opensContainer : Int) - counted.countP closesContainer

/-- At no point more containers are closed than opened. -/
def Nested (lines : List Text) : Prop :=
  ∀ front, front <+: lines → 0 ≤ nesting front

section Counting

@[simp] theorem nesting_nil : nesting [] = 0 := rfl

theorem nesting_append (s t : List Text) : nesting (s ++ t) = nesting s + nesting t := by
  simp only [nesting, List.filter_append, List.countP_append]
  omega

theorem nesting_cons (line : Text) (lines : List Text) :
    nesting (line :: lines) = nesting [line] + nesting lines :=
  nesting_append [line] lines

theorem nesting_reverse (lines : List Text) : nesting lines.reverse = nesting lines := by
  simp [nesting, List.filter_reverse, List.countP_reverse]

theorem nesting_of_isCommentLine {line : Text} (h : isCommentLine line) : nesting [line] = 0 := by
  simp [nesting, h]

theorem nesting_of_not_isCommentLine {line : Text} (h : isCommentLine line = false) :
    nesting [line] = (if opensContainer line then 1 else 0)
      - (if closesContainer line then 1 else 0) := by
  simp only [nesting, List.filter_cons, h, List.filter_nil, Bool.not_false, if_true,
    List.countP_singleton]
  split <;> split <;> rfl

/-- A line opens one container at most. -/
theorem nesting_singleton_le (line : Text) : nesting [line] ≤ 1 := by
  cases h : isCommentLine line with
  | true => rw [nesting_of_isCommentLine h]; omega
  | false =>
    rw [nesting_of_not_isCommentLine h]
    split <;> split <;> omega

/-- The text of a closing line is a single brace, so it is no comment and opens nothing. -/
theorem nesting_of_closesContainer {line : Text} (h : closesContainer line) :
    nesting [line] = -1 := by
  have htrim : line.trim = closeText := by simpa [closesContainer] using h
  have hcomment : isCommentLine line = false := by rw [isCommentLine, htrim]; rfl
  have hopens : opensContainer line = false := by rw [opensContainer, htrim]; rfl
  simp [nesting_of_not_isCommentLine hcomment, h, hopens]

end Counting

section Prefixes

theorem nested_nil : Nested [] := by
  intro front h
  rw [List.prefix_nil.1 h]
  exact Int.le_refl 0

theorem Nested.of_prefix {s t : List Text} (h : Nested t) (hst : s <+: t) : Nested s :=
  fun front hfront => h front (hfront.trans hst)

theorem Nested.total {lines : List Text} (h : Nested lines) : 0 ≤ nesting lines :=
  h lines (List.prefix_refl lines)

/-- Lines after nested lines may close what those have left open. -/
theorem Nested.append {s t : List Text} (hs : Nested s)
    (ht : ∀ front, front <+: t → 0 ≤ nesting s + nesting front) : Nested (s ++ t) := by
  intro front hfront
  rcases List.prefix_or_prefix_of_prefix hfront (List.prefix_append s t) with h | ⟨q, rfl⟩
  · exact hs front h
  · rw [nesting_append]
    exact ht q ((List.prefix_append_right_inj s).1 hfront)

theorem Nested.concat {lines : List Text} (h : Nested lines) {line : Text}
    (hline : 0 ≤ nesting lines + nesting [line]) : Nested (lines ++ [line]) := by
  refine h.append fun front hfront => ?_
  rcases List.prefix_cons_iff.1 hfront with rfl | ⟨rest, rfl, hrest⟩
  · simpa using h.total
  · rwa [List.prefix_nil.1 hrest]

end Prefixes

section Collapse

theorem keepLine_cases (kept : List Text) (line : Text) :
    keepLine kept line = line :: kept
      ∨ ∃ top below, kept = top :: below ∧ closesContainer line ∧ opensContainer top
        ∧ keepLine kept line = below := by
  cases kept with
  | nil => exact .inl rfl
  | cons top below =>
    rw [keepLine]
    split
    next h =>
      rw [Bool.and_eq_true] at h
      exact .inr ⟨top, below, rfl, h.1, h.2, rfl⟩
    next => exact .inl rfl

/-- One more line opens at least as much in the kept lines as in all lines. -/
theorem nesting_keepLine (kept : List Text) (line : Text) :
    nesting kept + nesting [line] ≤ nesting (keepLine kept line) := by
  rcases keepLine_cases kept line with h | ⟨top, below, rfl, hcloses, -, h⟩
  · rw [h, nesting_cons line kept]
    omega
  · have htop := nesting_singleton_le top
    rw [h, nesting_cons top below, nesting_of_closesContainer hcloses]
    omega

theorem nesting_foldl_keepLine (lines : List Text) : ∀ kept : List Text,
    nesting kept + nesting lines ≤ nesting (lines.foldl keepLine kept) := by
  induction lines with
  | nil => intro kept; simp
  | cons line rest ih =>
    intro kept
    have hstep := nesting_keepLine kept line
    have hrest := ih (keepLine kept line)
    rw [nesting_cons, List.foldl_cons]
    omega

/-- The kept lines stay nested while the lines so far close no more than they open. -/
theorem Nested.keepLine {kept : List Text} (h : Nested kept.reverse) {line : Text}
    (hline : 0 ≤ nesting kept + nesting [line]) : Nested (keepLine kept line).reverse := by
  rcases keepLine_cases kept line with heq | ⟨top, below, rfl, -, -, heq⟩
  · rw [heq, List.reverse_cons]
    exact h.concat (by rwa [nesting_reverse])
  · rw [heq]
    rw [List.reverse_cons] at h
    exact h.of_prefix (List.prefix_append _ _)

/-- Taking out what seems to be an empty container keeps lines nested. -/
theorem nested_collapse {lines : List Text} (h : Nested lines) : Nested (collapse lines) := by
  unfold collapse
  -- Both the nesting of the kept lines and a bound on it are kept from line to line.
  induction lines using List.reverseRecOn with
  | nil => exact nested_nil
  | append_singleton front line ih =>
    have hfront := nesting_foldl_keepLine front []
    have htotal := h.total
    rw [nesting_append] at htotal
    rw [nesting_nil] at hfront
    rw [List.foldl_append]
    exact (ih (h.of_prefix (List.prefix_append _ _))).keepLine (by omega)

end Collapse

mutual

/-- Every value in the node is written in quotation marks. -/
def Node.Quoted : Node → Prop
  | .comment _ => True
  | .pair _ _ value => isNestedText value = false
  | .container _ children => Quoted children

/-- Every value in the forest is written in quotation marks. -/
def Quoted : List Node → Prop
  | [] => True
  | node :: rest => node.Quoted ∧ Quoted rest

end

section Forests

theorem quoted_append {s t : List Node} : Quoted (s ++ t) ↔ Quoted s ∧ Quoted t := by
  induction s with
  | nil => simp [Quoted]
  | cons node rest ih => simp [Quoted, ih, and_assoc]

variable {unit : Text} (hunit : unit.isBlank) (depth : Int)

include hunit

theorem nesting_openLine (name : Text) :
    nesting [indentation unit depth ++ openText name] = 1 := by
  rw [nesting_of_not_isCommentLine]
  · simp [opensContainer_indented hunit, opensContainer_openText, closesContainer_openLine]
  · rw [isCommentLine_indented hunit, isCommentLine_openText]

theorem nesting_closeLine : nesting [indentation unit depth ++ closeText] = -1 :=
  nesting_of_closesContainer (by rw [closesContainer_indented hunit, closesContainer_closeText])

theorem nesting_commentLine (content : Text) :
    nesting [indentation unit depth ++ commentText content] = 0 :=
  nesting_of_isCommentLine (by rw [isCommentLine_indented hunit, isCommentLine_commentText])

theorem nesting_pairLine (key : Text) {value : Text} (h : isNestedText value = false) :
    nesting [indentation unit depth ++ pairText key value] = 0 := by
  rw [nesting_of_not_isCommentLine]
  · simp [opensContainer_indented hunit, opensContainer_pairText key h, closesContainer_pairLine]
  · rw [isCommentLine_indented hunit, isCommentLine_pairText]

end Forests

mutual

theorem Node.nested_lines {unit : Text} (hunit : unit.isBlank) (depth : Int) :
    ∀ {node : Node}, node.Quoted →
      Nested (node.lines unit depth) ∧ nesting (node.lines unit depth) = 0
  | .comment content, _ => by
    have hline := nesting_commentLine hunit depth content
    exact ⟨nested_nil.concat (by simp [hline]), hline⟩
  | .pair _ key value, h => by
    have hline := nesting_pairLine hunit depth key h
    exact ⟨nested_nil.concat (by simp [hline]), hline⟩
  | .container name children, h => by
    obtain ⟨hnested, htotal⟩ := nested_linesOf hunit (depth + 1) h
    have hopen := nesting_openLine hunit depth name
    have hclose := nesting_closeLine hunit depth
    have hopened : Nested [indentation unit depth ++ openText name] :=
      nested_nil.concat (by simp [hopen])
    have hbody : Nested
        ([indentation unit depth ++ openText name] ++ linesOf unit (depth + 1) children) :=
      hopened.append fun front hfront => by
        have := hnested front hfront
        omega
    refine ⟨hbody.concat ?_, ?_⟩
    · rw [nesting_append, hopen, htotal, hclose]
      omega
    · rw [Node.lines, nesting_append, nesting_cons, hopen, htotal, hclose]
      rfl

/-- The lines of a forest close all they open, in order. -/
theorem nested_linesOf {unit : Text} (hunit : unit.isBlank) (depth : Int) :
    ∀ {nodes : List Node}, Quoted nodes →
      Nested (linesOf unit depth nodes) ∧ nesting (linesOf unit depth nodes) = 0
  | [], _ => ⟨nested_nil, rfl⟩
  | node :: rest, h => by
    obtain ⟨hnode, hnodeTotal⟩ := Node.nested_lines hunit depth h.1
    obtain ⟨hrest, hrestTotal⟩ := nested_linesOf hunit depth h.2
    refine ⟨hnode.append fun front hfront => ?_, ?_⟩
    · have := hrest front hfront
      omega
    · rw [linesOf, nesting_append, hnodeTotal, hrestTotal]
      rfl

end

end KeyValues

end MarkedSheet
