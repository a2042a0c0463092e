import MarkedSheet.Proofs.Emission.Placed

/-!
# Rows in a longer page

The rows of a page may stand among other rows in a longer page (`LiesIn`). What is written for them
there is what is written for them alone: the forest is the same but for the places of its pairs, and
the warnings but for the row numbers they tell (`LiesIn.collect_objectNodes_moved`). Nothing that is
written depends on the rows above and below.
-/

namespace MarkedSheet

/-- The warning with its row numbers raised. -/
def Warning.moveDown (d : Nat) : Warning → Warning
  | .valueSpace value title row => .valueSpace value title (row + d)
  | .noObjectKey first last title => .noObjectKey (first + d) (last + d) title
  | .noElementKey first last name col => .noElementKey (first + d) (last + d) name col
  | .noValueColumn col title row => .noValueColumn col title (row + d)
  | .textWithoutKey row col => .textWithoutKey (row + d) col
  | w => w

theorem Warning.moveDown_zero : ∀ w : Warning, w.moveDown 0 = w := by
  intro w
  cases w <;> rfl

theorem Warning.placed_eq_moveDown (k d : Nat) :
    Warning.placed ⟨k, d, id⟩ = Warning.moveDown d := by
  funext w
  cases w <;> rfl

namespace KeyValues

mutual

/-- The node with the rows of its places raised. -/
def Node.moveDown (k : Nat) : Node → Node
  | .comment content => .comment content
  | .pair place key value => .pair ⟨place.row + k, place.col⟩ key value
  | .container name children => .container name (moveDown k children)

/-- The forest with the rows of its places raised. -/
def moveDown (k : Nat) : List Node → List Node
  | [] => []
  | node :: rest => node.moveDown k :: moveDown k rest

end

theorem moveDown_append (k : Nat) (s t : List Node) :
    moveDown k (s ++ t) = moveDown k s ++ moveDown k t := by
  induction s with
  | nil => rfl
  | cons node rest ih => simp [moveDown, ih]

mutual

theorem Node.lines_moveDown (unit : Text) (depth : Int) (k : Nat) :
    ∀ node : Node, (node.moveDown k).lines unit depth = node.lines unit depth
  | .comment _ => rfl
  | .pair .. => rfl
  | .container name children => by
    have ih := linesOf_moveDown unit (depth + 1) k children
    rw [Node.moveDown, Node.lines, Node.lines, ih]

/-- The places of the pairs do not show in the lines. -/
theorem linesOf_moveDown (unit : Text) (depth : Int) (k : Nat) :
    ∀ nodes : List Node, linesOf unit depth (moveDown k nodes) = linesOf unit depth nodes
  | [] => rfl
  | node :: rest => by
    rw [moveDown, linesOf, linesOf, Node.lines_moveDown, linesOf_moveDown]

end

end KeyValues

namespace Reported

variable {α β γ : Type}

/-- Other warnings and another result, by one function for each. -/
def mapBoth (w : Warning → Warning) (f : α → β) (x : Reported α) : Reported β :=
  ⟨x.warnings.map w, x.result.map f⟩

theorem Agree.eq_mapBoth {w : Warning → Warning} {f : α → β} {x : Reported α} {y : Reported β}
    (h : Agree w (fun a b => b = f a) x y) : y = x.mapBoth w f := by
  obtain ⟨ws, a, _, rfl, rfl, rfl⟩ := h.eq
  rfl

theorem collect_append {f : α → Reported (List β)} {bs : List α} {ws' : List Warning}
    {others : List β} (hbs : collect f bs = ⟨ws', .ok others⟩) : ∀ {as : List α}
      {ws : List Warning} {first : List β}, collect f as = ⟨ws, .ok first⟩ →
      collect f (as ++ bs) = ⟨ws ++ ws', .ok (first ++ others)⟩
  | [], ws, first, has => by
    cases has
    exact hbs
  | a :: rest, ws, first, has => by
    rw [collect] at has
    rw [List.cons_append, collect]
    rcases hfa : f a with ⟨wa, _ | fa⟩
    · rw [hfa] at has
      cases has
    · rcases hrest : collect f rest with ⟨wr, _ | fr⟩
      · rw [hfa, hrest] at has
        cases has
      · rw [hfa, hrest] at has
        rw [collect_append hbs hrest]
        cases has
        simp

end Reported

namespace Page

open KeyValues (Node moveDown)

/-- The rows of `part` are the rows of `page` from row `k` on as far as they go, and their numbers
there are greater by `d`. Neither page has notes. -/
structure LiesIn (part page : Page) (k d : Nat) : Prop where
  schema : page.schema = part.schema
  emptyToken : page.emptyToken = part.emptyToken
  notes : page.notes = none ∧ part.notes = none
  number : page.firstRowNumber + k = part.firstRowNumber + d
  rows : ∃ above below, page.rows = above ++ part.rows ++ below ∧ above.length = k

/-- The forest that is written for the rows of a part in the page around it. -/
def moved (k d : Nat) (x : Reported (List Node)) : Reported (List Node) :=
  x.mapBoth (Warning.moveDown d) (moveDown k)

variable {part page : Page} {k d : Nat}

theorem LiesIn.cell_eq (h : part.LiesIn page k d) {r : Nat} (hr : r < part.rows.length)
    (col : Nat) : page.cell (r + k) col = part.cell r col := by
  obtain ⟨above, below, hrows, rfl⟩ := h.rows
  have hget : page.rows[r + above.length]? = part.rows[r]? := by
    rw [hrows, List.append_assoc, Nat.add_comm, List.getElem?_append_right (Nat.le_add_right ..),
      Nat.add_sub_cancel_left, List.getElem?_append_left hr]
  simp [cell, hget, List.getElem?_eq_getElem hr]

theorem LiesIn.placedIn (h : part.LiesIn page k d) : part.PlacedIn page ⟨k, d, id⟩ where
  emptyToken := h.emptyToken
  number := h.number
  long := by
    obtain ⟨above, below, hrows, rfl⟩ := h.rows
    rw [hrows]
    simp only [List.length_append]
    omega
  cell r hr col _ := h.cell_eq hr col
  title col _ := by rw [h.schema]; rfl
  nameNote := by rw [h.schema, Option.map_id, id]
  primary := by rw [h.schema, Option.map_id, id]
  block primary _ := by
    rw [h.schema]
    exact (laid_outline _ _ _ (by simp)).renames_self

theorem LiesIn.placedLaw (h : part.LiesIn page k d) :
    PlacedLaw part page ⟨k, d, id⟩ fun s t => t = moveDown k s where
  nil := rfl
  append hs ht := by rw [hs, ht, KeyValues.moveDown_append]
  wrap name hs := by rw [hs]; rfl
  comment _ := rfl
  pair _ _ _ _ := rfl
  noted r col _ key value _ := by
    simp [noteComment, h.notes, moveDown, Node.moveDown]

/-- The objects of a part are written in the page as they are alone. -/
theorem LiesIn.collect_objectNodes_moved (h : part.LiesIn page k d) {primary : Nat}
    (hprimary : part.schema.primary? = some primary) :
    Reported.collect (page.objectNodes primary)
        ((RowGroup.ofRange part.rows 0 part.rows.length primary).map (RowGroup.shift k))
      = moved k d (Reported.collect (part.objectNodes primary)
        (RowGroup.ofRange part.rows 0 part.rows.length primary)) := by
  have hagree := h.placedIn.objects h.placedLaw hprimary
  rw [Follows, Warning.placed_eq_moveDown] at hagree
  exact hagree.eq_mapBoth

end Page

end MarkedSheet
