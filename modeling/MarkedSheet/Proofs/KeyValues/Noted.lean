import MarkedSheet.Proofs.KeyValues.Collapsing

/-!
# Forests with notes

A forest may have notes put into it, comments directly before pairs (`Noted`). The collapse pass
drops a line only with its neighbour, so a note could come between two lines that go, or go itself.
It does neither: the pair below it opens nothing, and the pass never takes that line away
(`Inserted.keepLine`). What is left of both forests is the same but for comments
(`filter_collapse_noted`).
-/

namespace MarkedSheet

namespace KeyValues

/-- The second forest is the first with comments before some of its pairs, none of which is taken
for an opening line. -/
inductive Noted : List Node → List Node → Prop
  | nil : Noted [] []
  | node {rest rest' : List Node} (node : Node) (hrest : Noted rest rest') :
      Noted (node :: rest) (node :: rest')
  | container {children children' rest rest' : List Node} (name : Text)
      (hchildren : Noted children children') (hrest : Noted rest rest') :
      Noted (.container name children :: rest) (.container name children' :: rest')
  | note {rest rest' : List Node} (content : Text) (place : Place) (key : Text) {value : Text}
      (hpair : opensContainer (pairText key value) = false) (hrest : Noted rest rest') :
      Noted (.pair place key value :: rest) (.comment content :: .pair place key value :: rest')

theorem Noted.append {s s' t t' : List Node} (hs : Noted s s') (ht : Noted t t') :
    Noted (s ++ t) (s' ++ t') := by
  induction hs with
  | nil => exact ht
  | node node _ ih => exact .node node ih
  | container name hchildren _ _ ih => exact .container name hchildren ih
  | note content place key hpair _ ih => exact .note content place key hpair ih

/-- The second stack of lines is the first with comments under some lines, none of which opens a
container. -/
inductive Inserted : List Text → List Text → Prop
  | nil : Inserted [] []
  | line {kept kept' : List Text} (line : Text) (hkept : Inserted kept kept') :
      Inserted (line :: kept) (line :: kept')
  | note {kept kept' : List Text} {line comment : Text} (hline : opensContainer line = false)
      (hcomment : isCommentLine comment = true) (hkept : Inserted kept kept') :
      Inserted (line :: kept) (line :: comment :: kept')

/-- One more line is dropped from both stacks or from none, for their last lines are the same. -/
theorem Inserted.keepLine {kept kept' : List Text} (h : Inserted kept kept') (next : Text) :
    Inserted (keepLine kept next) (keepLine kept' next) := by
  cases h with
  | nil => exact .line next .nil
  | line top hbelow =>
    simp only [KeyValues.keepLine]
    split
    · exact hbelow
    · exact .line next (.line top hbelow)
  | note hline hcomment hbelow =>
    rw [keepLine_of_not_opens hline, keepLine_of_not_opens hline]
    exact .line next (.note hline hcomment hbelow)

theorem Inserted.foldl {kept kept' : List Text} (h : Inserted kept kept') (lines : List Text) :
    Inserted (lines.foldl KeyValues.keepLine kept) (lines.foldl KeyValues.keepLine kept') := by
  induction lines generalizing kept kept' with
  | nil => exact h
  | cons next rest ih => exact ih (h.keepLine next)

theorem Inserted.filter {kept kept' : List Text} (h : Inserted kept kept') :
    kept.filter (fun line => !isCommentLine line)
      = kept'.filter (fun line => !isCommentLine line) := by
  induction h with
  | nil => rfl
  | line line _ ih => rw [List.filter_cons, List.filter_cons, ih]
  | @note _ _ line _ _ hcomment _ ih =>
    simp only [List.filter_cons, hcomment, ih, Bool.not_true, Bool.false_eq_true, if_false]

section Lines

variable {unit : Text} (hunit : unit.isBlank)

include hunit

theorem Noted.foldl {nodes nodes' : List Node} (h : Noted nodes nodes') :
    ∀ (depth : Int) {kept kept' : List Text}, Inserted kept kept' →
      Inserted ((linesOf unit depth nodes).foldl keepLine kept)
        ((linesOf unit depth nodes').foldl keepLine kept') := by
  induction h with
  | nil => exact fun _ _ _ hkept => hkept
  | node node _ ih =>
    intro depth kept kept' hkept
    rw [linesOf, linesOf, List.foldl_append, List.foldl_append]
    exact ih depth (hkept.foldl _)
  | container name _ _ ihChildren ihRest =>
    intro depth kept kept' hkept
    have hopening := closesContainer_openLine unit depth name
    rw [linesOf, linesOf, List.foldl_append, List.foldl_append, Node.lines, Node.lines,
      foldl_keepLine_wrap hopening, foldl_keepLine_wrap hopening]
    exact ihRest depth ((ihChildren (depth + 1) (hkept.line _)).keepLine _)
  | note content place key hpair _ ih =>
    intro depth kept kept' hkept
    -- The pair keeps the note under it: no closing line takes the pair for its opening line.
    have hopens := (opensContainer_indented hunit depth _).trans hpair
    have hcomment := (isCommentLine_indented hunit depth _).trans
      (isCommentLine_commentText content)
    simp only [linesOf, Node.lines, List.cons_append, List.nil_append, List.foldl_cons]
    rw [keepLine_of_not_closes (closesContainer_commentLine unit depth content),
      keepLine_of_not_closes (closesContainer_pairLine unit depth key _),
      keepLine_of_not_closes (closesContainer_pairLine unit depth key _)]
    exact ih depth (.note hopens hcomment hkept)

/-- The notes show in nothing but comments. -/
theorem filter_collapse_noted {nodes nodes' : List Node} (h : Noted nodes nodes') (depth : Int) :
    (collapse (linesOf unit depth nodes)).filter (fun line => !isCommentLine line)
      = (collapse (linesOf unit depth nodes')).filter (fun line => !isCommentLine line) := by
  rw [collapse, collapse, List.filter_reverse, List.filter_reverse,
    (h.foldl hunit depth .nil).filter]

end Lines

end KeyValues

end MarkedSheet
