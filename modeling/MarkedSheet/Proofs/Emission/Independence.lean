import MarkedSheet.Proofs.Emission.Forests
import MarkedSheet.Proofs.Emission.Lines
import MarkedSheet.Proofs.Emission.Moved
import MarkedSheet.Proofs.KeyValues.Collapsing

/-!
# Objects are independent

Where a row begins a new object, a page can be cut in two: the documents of both halves, one after
the other, are the document of the page, and so are the warnings (`document_append`).
-/

namespace MarkedSheet

namespace Page

open KeyValues (Node moveDown linesOf collapse linesOf_moveDown collapse_linesOf_append)

section Documents

variable {page : Page} {primary : Nat}

theorem documentNodes_eq (page : Page) (hprimary : page.schema.primary? = some primary) :
    page.documentNodes = Reported.collect (page.objectNodes primary)
      (RowGroup.ofRange page.rows 0 page.rows.length primary) := by
  simp only [documentNodes, hprimary, RowGroup.ofRange?_of_le (Nat.le_refl _)]
  rfl

/-- No row of a page is out of reach for its document. -/
theorem documentNodes_ok (page : Page) : ∃ ws nodes, page.documentNodes = ⟨ws, .ok nodes⟩ := by
  have law : page.ForestLaw fun _ => True := by constructor <;> simp
  obtain ⟨ws, nodes, h, -⟩ := law.documentNodes.eq
  exact ⟨ws, nodes, h⟩

/-- The objects of a part of a page, written in the page. -/
theorem LiesIn.collect_eq {part : Page} {k d : Nat} (h : part.LiesIn page k d)
    (hprimary : page.schema.primary? = some primary) {ws : List Warning} {nodes : List Node}
    (hpart : part.documentNodes = ⟨ws, .ok nodes⟩) :
    Reported.collect (page.objectNodes primary)
        ((RowGroup.ofRange part.rows 0 part.rows.length primary).map (RowGroup.shift k))
      = ⟨ws.map (Warning.moveDown d), .ok (moveDown k nodes)⟩ := by
  rw [h.schema] at hprimary
  rw [h.collect_objectNodes_moved hprimary, ← part.documentNodes_eq hprimary, hpart]
  rfl

end Documents

/-- Where a row begins an object whose key is not the last key above, the rows above and the rows
from there on are written on their own, and the numbers of the latter go on from the former. -/
theorem document_append (page : Page) (unit : Text) (depth : Int) {primary : Nat}
    (hprimary : page.schema.primary? = some primary) (hnotes : page.notes = none)
    {above below : List Row} {row : Row} (hhead : below.head? = some row)
    (hrow : (row.cell primary).isBlank = false)
    (hkey : ∀ last, (above.filter fun r => !(r.cell primary).isBlank).getLast? = some last →
      (last.cell primary).trimmed ≠ (row.cell primary).trimmed) :
    ∃ wsAbove linesAbove wsBelow linesBelow,
      { page with rows := above }.document unit depth = ⟨wsAbove, .ok linesAbove⟩
      ∧ ({ page with rows := below }.document unit depth).result = .ok linesBelow
      ∧ { page with
          rows := below
          firstRowNumber := page.firstRowNumber + above.length }.document unit depth
        = ⟨wsBelow, .ok linesBelow⟩
      ∧ { page with rows := above ++ below }.document unit depth
        = ⟨wsAbove ++ wsBelow, .ok (linesAbove ++ linesBelow)⟩ := by
  let whole : Page := { page with rows := above ++ below }
  let top : Page := { page with rows := above }
  let bottom : Page := { page with rows := below }
  let renumbered : Page :=
    { page with rows := below, firstRowNumber := page.firstRowNumber + above.length }
  -- The rows below are compared twice: their numbers change on the way to `renumbered`, their
  -- places on the way from there to `whole`.
  have htop : top.LiesIn whole 0 0 := ⟨rfl, rfl, ⟨hnotes, hnotes⟩, rfl, [], below, rfl, rfl⟩
  have hlow : renumbered.LiesIn whole above.length 0 :=
    ⟨rfl, rfl, ⟨hnotes, hnotes⟩, rfl, above, [], (List.append_nil _).symm, rfl⟩
  have hbottom : bottom.LiesIn renumbered 0 above.length :=
    ⟨rfl, rfl, ⟨hnotes, hnotes⟩, rfl, [], [], (List.append_nil _).symm, rfl⟩
  obtain ⟨wsTop, topNodes, htopNodes⟩ := top.documentNodes_ok
  obtain ⟨wsBottom, bottomNodes, hbottomNodes⟩ := bottom.documentNodes_ok
  have hrenumbered : renumbered.documentNodes
      = ⟨wsBottom.map (Warning.moveDown above.length), .ok (moveDown 0 bottomNodes)⟩ := by
    have h := hbottom.collect_eq hprimary hbottomNodes
    rw [List.map_id'' RowGroup.shift_zero] at h
    exact (renumbered.documentNodes_eq hprimary).trans h
  have hcarried : RowGroup.carried primary none above ≠ some (row.cell primary).trimmed := by
    rw [RowGroup.carried_eq, Option.or_none]
    intro h
    obtain ⟨last, hlast, heq⟩ := Option.map_eq_some_iff.1 h
    exact hkey last hlast heq
  have hwhole : whole.documentNodes
      = ⟨wsTop ++ wsBottom.map (Warning.moveDown above.length),
        .ok (moveDown 0 topNodes ++ moveDown above.length (moveDown 0 bottomNodes))⟩ := by
    have hupper := htop.collect_eq hprimary htopNodes
    have hlower := hlow.collect_eq hprimary hrenumbered
    rw [List.map_id'' RowGroup.shift_zero, List.map_id'' Warning.moveDown_zero] at hupper
    rw [List.map_id'' Warning.moveDown_zero] at hlower
    refine (whole.documentNodes_eq hprimary).trans ?_
    rw [RowGroup.ofRange_append primary hhead hrow hcarried]
    exact Reported.collect_append hlower hupper
  refine ⟨wsTop, _, _, _, document_eq htopNodes unit depth, ?_, document_eq hrenumbered unit depth,
    ?_⟩
  · rw [document_eq hbottomNodes, linesOf_moveDown]
  · rw [document_eq hwhole, collapse_linesOf_append, linesOf_moveDown, linesOf_moveDown]

/-- Two objects with an array in each. -/
def twoObjects : Page where
  schema := .ofTitles (["id", "x[", "y", "]"].map fun t => some t.toList)
  rows := [[some ['a'], none, some [' ', '1']], [none, none, some ['2']],
    [some ['b'], none, some ['3', ' ']], [some [' ', 'b']]]

theorem twoObjects_document_append :
    twoObjects.schema.primary? = some 0 ∧ twoObjects.notes = none
      ∧ ∃ wsAbove linesAbove wsBelow linesBelow,
        { twoObjects with rows := twoObjects.rows.take 2 }.document ['\t'] 1
          = ⟨wsAbove, .ok linesAbove⟩
        ∧ { twoObjects with rows := twoObjects.rows.drop 2, firstRowNumber := 5 }.document ['\t'] 1
          = ⟨wsBelow, .ok linesBelow⟩
        ∧ twoObjects.document ['\t'] 1 = ⟨wsAbove ++ wsBelow, .ok (linesAbove ++ linesBelow)⟩ := by
  have hkey : ∀ last : Row,
      ((twoObjects.rows.take 2).filter fun r => !(r.cell 0).isBlank).getLast? = some last →
        (last.cell 0).trimmed ≠ (Row.cell [some ['b'], none, some ['3', ' ']] 0).trimmed := by
    intro last hlast
    obtain rfl : [some ['a'], none, some [' ', '1']] = last := Option.some.inj hlast
    decide
  obtain ⟨wsAbove, linesAbove, wsBelow, linesBelow, habove, -, hbelow, hboth⟩ :=
    twoObjects.document_append ['\t'] 1 (by decide) rfl
      (rfl : (twoObjects.rows.drop 2).head? = some [some ['b'], none, some ['3', ' ']]) (by decide)
      hkey
  exact ⟨by decide, rfl, wsAbove, linesAbove, wsBelow, linesBelow, habove, hbelow, hboth⟩

end Page

end MarkedSheet
