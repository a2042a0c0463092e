import MarkedSheet.Proofs.Emission.Forests
import MarkedSheet.Proofs.Emission.Lines
import MarkedSheet.Proofs.KeyValues.Collapsing

/-!
# Nesting of documents

The lines of a document never close more containers than they open, where no cell holds nested text.
They close all they open exactly if the collapse pass does not take a comment for the line that
opens a container (`document_nested_iff`), as it does where the last element of an array stays empty
and its name ends with a brace. So names without a brace at the end are safe.
-/

namespace MarkedSheet

namespace Page

open KeyValues

section Laws

variable (page : Page)

theorem cellAt_of_forall {P : Cell → Prop} (hnone : P none)
    (h : ∀ row ∈ page.rows, ∀ cell ∈ row, P cell) (r col : Nat) : P (page.cellAt r col) := by
  rcases hrow : page.rows[r]? with _ | row
  · simpa [cellAt, hrow] using hnone
  · rw [cellAt_eq page hrow, Row.cell]
    rcases hcell : row[col]? with _ | cell
    · exact hnone
    · exact h row (List.mem_of_getElem? hrow) cell (List.mem_of_getElem? hcell)

/-- Without nested text in its cells a page quotes all values. -/
theorem forestLaw_quoted (hcells : ∀ row ∈ page.rows, ∀ cell ∈ row,
    ['{'].isPrefixOf (Cell.trimmed cell) = false) : page.ForestLaw Quoted := by
  have hwrites : ∀ value, page.Writes value → isNestedText value = false := by
    rintro value (rfl | ⟨r, col, rfl⟩)
    · rfl
    · refine isNestedText_normalize _ ?_
      rw [isNestedText_eq]
      exact page.cellAt_of_forall (P := fun c => ['{'].isPrefixOf c.trimmed = false) rfl hcells r
        col
  refine forestLaw_of_pairs trivial (fun h h' => quoted_append.2 ⟨h, h'⟩)
    (fun _ h => quoted_singleton.2 h) (fun r _ => ?_)
    (fun _ _ value h => quoted_singleton.2 (hwrites value h))
    (fun _ _ _ value h => ⟨trivial, quoted_singleton.2 (hwrites value h)⟩)
  unfold nameEntry
  split
  · trivial
  · split
    · trivial
    · exact quoted_singleton.2 trivial

/-- Where no name ends with a brace, no comment is taken for an opening line. -/
theorem forestLaw_calm (hnames : ∀ col, page.schema.nameNote? = some col → ∀ row ∈ page.rows,
    ['{'].isSuffixOf (row.cell col).trimmed = false) : page.ForestLaw Calm := by
  refine forestLaw_of_pairs calm_nil (fun h h' => h.append h') (fun name h => h.wrap name)
    (fun r hr => ?_) (fun place key value _ => calm_pair place key value)
    (fun content place key value _ => calm_noted content place key value)
  unfold nameEntry
  split
  · exact calm_nil
  next col hcol =>
    split
    · exact calm_nil
    next hblank =>
      refine ⟨rfl, ?_⟩
      have hne : (page.cellAt r col).trimmed ≠ [] := fun hnil =>
        hblank (Cell.trimmed_eq_nil_iff.1 hnil)
      have hcell := page.cellAt_eq (List.getElem?_eq_getElem hr) col
      have hname := hnames col hcol _ (List.getElem_mem hr)
      rw [← hcell] at hname
      exact (opensContainer_commentText_trim hne).trans hname

end Laws

/-- The document of a page without nested text is never closed too often. It is closed exactly if no
comment is taken for an opening line in its forest, which is so when no name ends with a brace. -/
theorem document_nested_iff (page : Page) {unit : Text} (hunit : unit.isBlank) (depth : Int)
    (hcells : ∀ row ∈ page.rows, ∀ cell ∈ row, ['{'].isPrefixOf (Cell.trimmed cell) = false) :
    ∃ ws nodes lines, page.documentNodes = ⟨ws, .ok nodes⟩
      ∧ page.document unit depth = ⟨ws, .ok lines⟩
      ∧ (∀ front, front <+: lines → 0 ≤ nesting front)
      ∧ (nesting lines = 0 ↔ isMisread nodes = false)
      ∧ ((∀ col, page.schema.nameNote? = some col → ∀ row ∈ page.rows,
        ['{'].isSuffixOf (row.cell col).trimmed = false) → nesting lines = 0) := by
  obtain ⟨ws, nodes, hnodes, hquoted⟩ := (page.forestLaw_quoted hcells).documentNodes.eq
  have hiff := nesting_collapse_linesOf hunit depth hquoted
  refine ⟨ws, nodes, collapse (linesOf unit depth nodes), hnodes, ?_, ?_, hiff, fun hnames => ?_⟩
  · exact document_eq hnodes unit depth
  · exact nested_collapse (nested_linesOf hunit depth hquoted).1
  · obtain ⟨ws', nodes', hnodes', hcalm⟩ := (page.forestLaw_calm hnames).documentNodes.eq
    rw [hnodes] at hnodes'
    cases hnodes'
    exact hiff.2 hcalm.1

/-- An array whose last element stays empty and has a name that ends with a brace. -/
def unclosedPage : Page where
  schema := .ofTitles (["id", "#name", "arr[↓", "x", "↓]"].map fun t => some t.toList)
  rows := [["h", "", "a", "1", ""], ["", "foo \x7b", "b", "", ""]].map
    (List.map fun t => some t.toList)

theorem unclosedPage_documentNodes : unclosedPage.documentNodes
    = ⟨[], .ok [.container ['h'] [.container "arr".toList
      [.container ['a'] [.pair ⟨0, 3⟩ ['x'] ['1']], .comment "foo \x7b".toList,
        .container ['b'] []]]]⟩ := by
  have houtline : outline unclosedPage.schema.kinds 1 5
      = [.silent 1 .nameNote, .container .arrayDown 2 4 [.plain 3]] :=
    Laid.outline_eq (.silent (by decide) (by decide) rfl (.container (by decide) (by decide)
      (by decide) (.plain (by decide) (by decide) (.done (by decide))) (.done (by decide))))
  have hgroups : unclosedPage.documentNodes
      = Reported.collect (unclosedPage.objectNodes 0) [⟨some ['h'], 0, 2⟩] := rfl
  have hwidth : unclosedPage.schema.width = 5 := rfl
  rw [hgroups]
  simp only [Reported.collect, objectNodes, hwidth, blockNodes, houtline]
  rfl

/-- The array and the object around it are opened and only one of them is closed. -/
theorem unclosedPage_stays_open :
    Text.isBlank [' ', ' ', ' ', ' ']
      ∧ (∀ row ∈ unclosedPage.rows, ∀ cell ∈ row, ['{'].isPrefixOf (Cell.trimmed cell) = false)
      ∧ ∃ lines, unclosedPage.document [' ', ' ', ' ', ' '] 1 = ⟨[], .ok lines⟩
        ∧ (∀ front, front <+: lines → 0 ≤ nesting front) ∧ nesting lines ≠ 0 := by
  obtain ⟨ws, nodes, lines, hnodes, hlines, hnested, hiff, -⟩ :=
    unclosedPage.document_nested_iff (by decide : Text.isBlank [' ', ' ', ' ', ' ']) 1 (by decide)
  rw [unclosedPage_documentNodes] at hnodes
  cases hnodes
  refine ⟨by decide, by decide, lines, hlines, hnested, fun hzero => ?_⟩
  exact absurd (hiff.1 hzero) (by decide)

end Page

end MarkedSheet
