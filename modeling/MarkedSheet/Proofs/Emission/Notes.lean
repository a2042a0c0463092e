import MarkedSheet.Proofs.Emission.Independence
import MarkedSheet.Proofs.Emission.WellNested
import MarkedSheet.Proofs.KeyValues.Noted

/-!
# Notes change no data

A page with a note row is written as it is without, warnings included, but for more comments
(`document_notes`). The collapse pass would go by a note if a value could be taken for the line that
opens a container, so no cell is to start and end with a brace.
-/

namespace MarkedSheet

namespace Page

open KeyValues

variable (page : Page)

/-- The page with other notes, or without any. -/
def withNotes (notes : Option Row) : Page :=
  { page with notes := notes }

theorem placedIn_withNotes (notes notes' : Option Row) :
    (page.withNotes notes).PlacedIn (page.withNotes notes') ⟨0, 0, id⟩ where
  emptyToken := rfl
  number := rfl
  long := Nat.le_refl _
  cell _ _ _ _ := rfl
  title _ _ := rfl
  nameNote := (congrFun Option.map_id _).symm
  primary := (congrFun Option.map_id _).symm
  block _ _ := (laid_outline _ _ _ (by simp)).renames_self

/-- No cell is, trimmed, a text that starts and ends with a brace. -/
def FreeOfBlocks : Prop :=
  ∀ row ∈ page.rows, ∀ cell ∈ row,
    (['{'].isPrefixOf (Cell.trimmed cell) && ['{'].isSuffixOf (Cell.trimmed cell)) = false

variable {page}

/-- What is written for a cell is not taken for the line that opens a container. -/
theorem FreeOfBlocks.pair (h : page.FreeOfBlocks) (key : Text) (r col : Nat) :
    opensContainer (pairText key (page.written (page.cellAt r col))) = false := by
  rw [opensContainer_pairText_eq]
  rcases normalize_eq_or_not_mem page.emptyToken (page.cellAt r col).text with heq | hbrace
  · rw [written, heq, isNestedText_eq]
    exact page.cellAt_of_forall (P := fun cell =>
      (['{'].isPrefixOf cell.trimmed && ['{'].isSuffixOf cell.trimmed) = false) rfl h r col
  · rw [written, isNestedText_of_not_mem hbrace, Bool.false_and]

theorem FreeOfBlocks.placedLaw (h : page.FreeOfBlocks) (notes : Row) :
    PlacedLaw (page.withNotes none) (page.withNotes (some notes)) ⟨0, 0, id⟩ Noted where
  nil := .nil
  append hs ht := hs.append ht
  wrap name hs := .container name hs .nil
  comment _ := .node _ .nil
  pair _ _ _ _ := .node _ .nil
  noted r col _ key value hvalue := by
    have hpair : opensContainer (pairText key value) = false := by
      rcases hvalue with rfl | rfl
      · exact opensContainer_pairText key rfl
      · exact h.pair key r col
    have hquiet : (page.withNotes none).noteComment r col = [] := rfl
    rw [hquiet, noteComment]
    simp only [withNotes]
    split
    · exact .node _ .nil
    · exact .note _ _ _ hpair .nil

/-- With notes and without, a page is written with the same lines but for comments and with the same
warnings, where no cell starts and ends with a brace. -/
theorem document_notes (page : Page) (notes : Row) {unit : Text} (hunit : unit.isBlank)
    (depth : Int) (hcells : ∀ row ∈ page.rows, ∀ cell ∈ row,
      (['{'].isPrefixOf (Cell.trimmed cell) && ['{'].isSuffixOf (Cell.trimmed cell)) = false) :
    ∃ ws quiet noted, { page with notes := none }.document unit depth = ⟨ws, .ok quiet⟩
      ∧ { page with notes := some notes }.document unit depth = ⟨ws, .ok noted⟩
      ∧ quiet.filter (fun line => !isCommentLine line)
        = noted.filter (fun line => !isCommentLine line) := by
  have hfree : page.FreeOfBlocks := hcells
  have hagree := (page.placedIn_withNotes none (some notes)).documentNodes (hfree.placedLaw notes)
    rfl
  obtain ⟨ws, nodes, nodes', hquiet, hnoted, hboth⟩ := hagree.eq
  rw [Warning.placed_eq_moveDown, List.map_id'' Warning.moveDown_zero] at hnoted
  exact ⟨ws, _, _, document_eq hquiet unit depth, document_eq hnoted unit depth,
    filter_collapse_noted hunit hboth depth⟩

/-- An array whose second element holds nothing, under a note that looks like an opening line. -/
def notedPage : Page where
  schema := .ofTitles (["id", "arr[↓", "x", "↓]"].map fun t => some t.toList)
  rows := [["h", "a", "\x7b y \x7d", ""], ["", "b", "", ""]].map (List.map fun t => some t.toList)

theorem notedPage_document_notes :
    Text.isBlank [' ']
      ∧ (∀ row ∈ notedPage.rows, ∀ cell ∈ row,
        (['{'].isPrefixOf (Cell.trimmed cell) && ['{'].isSuffixOf (Cell.trimmed cell)) = false)
      ∧ ∃ ws quiet noted, notedPage.document [' '] 1 = ⟨ws, .ok quiet⟩
        ∧ { notedPage with notes := some [none, none, some "see \x7b".toList] }.document [' '] 1
          = ⟨ws, .ok noted⟩
        ∧ quiet.filter (fun line => !isCommentLine line)
          = noted.filter (fun line => !isCommentLine line) :=
  ⟨by decide, by decide, notedPage.document_notes [none, none, some "see \x7b".toList]
    (by decide : Text.isBlank [' ']) 1 (by decide)⟩

end Page

end MarkedSheet
