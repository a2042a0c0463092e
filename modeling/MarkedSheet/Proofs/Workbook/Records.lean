import Mathlib.Data.List.DropRight
import MarkedSheet.Localization.Table
import MarkedSheet.Proofs.Text.Trimmed
import MarkedSheet.Workbook.Reader

/-!
# Which rows a file of records gives

Every record that is not blank gives its row, filled up to the longest record, and stands in the
sheet as many places further up as there are blank lines before it in the file. So the rows are
those of all records, without the blank ones at the end, exactly if no blank line stands before a
row that is not blank (`FileTree.sheets_of_records`). A blank line for the note row is enough to
move the title row into its place (`FileTree.blankNote_moves_up`).
-/

namespace MarkedSheet

section RowsAtTheEnd

variable {α : Type} {p q : α → Bool}

theorem rdropWhile_filter (h : ∀ x, ¬ p x → q x) (l : List α) :
    (l.filter p).rdropWhile q = (l.rdropWhile q).filter p := by
  induction l using List.reverseRecOn with
  | nil => rfl
  | append_singleton l x ih =>
    by_cases hq : q x
    · rw [List.rdropWhile_concat_pos q l x hq, List.filter_append, ← ih]
      by_cases hp : p x
      · rw [List.filter_cons_of_pos hp, List.filter_nil, List.rdropWhile_concat_pos q _ x hq]
      · rw [List.filter_cons_of_neg hp, List.filter_nil, List.append_nil]
    · have hp : p x := by_contra fun hp => hq (h x hp)
      rw [List.rdropWhile_concat_neg q l x hq, List.filter_append, List.filter_cons_of_pos hp,
        List.filter_nil, List.rdropWhile_concat_neg q _ x hq]

/-- What stays is what has something after it, or is something itself, that is not dropped. -/
theorem mem_rdropWhile_iff {x : α} {l : List α} :
    x ∈ l.rdropWhile q ↔ ∃ before after, l = before ++ x :: after ∧ ∃ y ∈ x :: after, ¬ q y := by
  constructor
  · intro hx
    obtain ⟨dropped, hdropped⟩ := List.rdropWhile_prefix q (l := l)
    obtain ⟨before, after, hsplit⟩ := List.append_of_mem hx
    refine ⟨before, after ++ dropped, by rw [← hdropped, hsplit]; simp, ?_⟩
    have hne : l.rdropWhile q ≠ [] := List.ne_nil_of_mem hx
    have hlast := List.rdropWhile_last_not q l hne
    refine ⟨_, ?_, hlast⟩
    have hmem : (l.rdropWhile q).getLast hne ∈ x :: after := by
      simp only [hsplit, List.getLast_append_of_ne_nil _ (List.cons_ne_nil x after)]
      exact List.getLast_mem _
    rw [← List.cons_append]
    exact List.mem_append_left _ hmem
  · rintro ⟨before, after, rfl, y, hy, hq⟩
    obtain ⟨between, rest, hsplit⟩ := List.append_of_mem hy
    rw [hsplit, ← List.append_assoc, rdropWhile_append_cons hq]
    have hx : x ∈ between ++ [y] := by
      cases between with
      | nil => simp [(List.cons.inj hsplit).1]
      | cons z between => simp [(List.cons.inj hsplit).1]
    simp only [List.mem_append, List.mem_cons, List.not_mem_nil, or_false] at hx ⊢
    tauto

end RowsAtTheEnd

namespace Csv

open Localization.Table (fieldsOf)

/-- The number of fields of the longest record. -/
def longest (records : List Record) : Nat :=
  (records.map Record.size).foldl max 0

/-- The row of a record: its fields, an empty field as an empty cell, and empty cells up to a
width. -/
def paddedRow (width : Nat) (r : Record) : Row :=
  (fieldsOf r).map Sheet.fieldCell ++ List.replicate (width - (fieldsOf r).length) none

theorem length_fieldsOf (r : Record) : (fieldsOf r).length = r.size := by
  rw [fieldsOf, Record.size]
  split <;> rfl

theorem size_le_longest {records : List Record} {r : Record} (h : r ∈ records) :
    r.size ≤ longest records := by
  have hfold : ∀ (sizes : List Nat) (start : Nat), start ≤ sizes.foldl max start
      ∧ ∀ n ∈ sizes, n ≤ sizes.foldl max start := by
    intro sizes
    induction sizes with
    | nil => simp
    | cons size sizes ih =>
      intro start
      obtain ⟨hstart, hsizes⟩ := ih (max start size)
      simp only [List.foldl_cons, List.mem_cons]
      refine ⟨by omega, ?_⟩
      rintro n (rfl | hn)
      · omega
      · exact hsizes n hn
  exact (hfold _ 0).2 _ (List.mem_map_of_mem h)

theorem fit_eq_paddedRow {width : Nat} {r : Record} (h : r.size ≤ width) :
    Row.fit width (r.fields.map Sheet.fieldCell) = paddedRow width r := by
  rw [← length_fieldsOf] at h
  unfold paddedRow
  unfold fieldsOf at h ⊢
  split_ifs at h ⊢ with hvacant
  · -- The one field of a vacant line is empty, so its cell is one of those filled in.
    have hfields : r.fields = [[]] := by
      simp only [Record.isVacant, Bool.and_eq_true, beq_iff_eq] at hvacant
      exact hvacant.2
    cases width with
    | zero => simp [Row.fit, hfields]
    | succ width => simp [Row.fit, hfields, List.rightpad, Sheet.fieldCell, List.replicate_succ]
  · rw [Row.fit, List.take_of_length_le (by simpa using h), List.rightpad, List.length_map]

theorem isBlank_paddedRow {r : Record} (h : r.isBlank) (width : Nat) :
    (paddedRow width r).isBlank := by
  have hfields : ∀ field ∈ fieldsOf r, (Sheet.fieldCell field).isBlank := by
    intro field hfield
    simp only [Record.isBlank, Bool.and_eq_true] at h
    have hmem : field ∈ r.fields := by
      unfold fieldsOf at hfield
      split_ifs at hfield
      · exact absurd hfield List.not_mem_nil
      · exact hfield
    unfold Sheet.fieldCell
    split_ifs
    · rfl
    · rcases hr : r.fields with _ | ⟨only, _ | ⟨_, _⟩⟩ <;> rw [hr] at h hmem
      · exact absurd hmem List.not_mem_nil
      · obtain rfl := List.mem_singleton.1 hmem
        simp only [Cell.isBlank, Cell.text, Option.getD_some, Text.isBlank, List.all_eq_true]
        intro c hc
        have hspace := List.all_eq_true.1 h.2 c hc
        simp only [Bool.or_eq_true, decide_eq_true_eq] at hspace
        rcases hspace with rfl | rfl <;> rfl
      · simp at h
  simp only [Row.isBlank, paddedRow, List.all_append, Bool.and_eq_true, List.all_eq_true,
    List.mem_map, List.mem_replicate]
  refine ⟨?_, ?_⟩
  · rintro _ ⟨field, hfield, rfl⟩
    exact hfields field hfield
  · rintro _ ⟨-, rfl⟩
    rfl

end Csv

namespace Sheet

open Csv

theorem dropBlankRows_map (f : Record → Row) (records : List Record) :
    dropBlankRows (records.map f) = (records.rdropWhile fun r => (f r).isBlank).map f := by
  rw [dropBlankRows, ← List.map_reverse, List.dropWhile_map, List.rdropWhile, List.map_reverse]
  rfl

/-- Blank lines are no rows; all other records are, but for those at the end that are blank as
rows. -/
theorem recordRows_eq (records : List Record) : recordRows records
    = ((records.rdropWhile fun r => (paddedRow (longest records) r).isBlank).filter
      fun r => !r.isBlank).map (paddedRow (longest records)) := by
  have hrows : ∀ r ∈ records.filter fun r => !r.isBlank,
      Row.fit (longest records) (r.fields.map fieldCell) = paddedRow (longest records) r :=
    fun r hr => fit_eq_paddedRow (size_le_longest (List.mem_filter.1 hr).1)
  rw [recordRows, ← longest, List.map_congr_left hrows, dropBlankRows_map, rdropWhile_filter]
  intro r hr
  exact isBlank_paddedRow (by simpa using hr) _

/-- A row that is not blank stands after as many rows as there are records before it that are no
blank lines. -/
theorem getElem?_recordRows {records before after : List Record} {r : Record}
    (h : records = before ++ r :: after) (hr : ¬ (paddedRow (longest records) r).isBlank) :
    (recordRows records)[before.countP fun r => !r.isBlank]?
      = some (paddedRow (longest records) r) := by
  have hline : (!r.isBlank) = true := by
    rw [Bool.not_eq_true']
    exact Bool.eq_false_iff.2 fun hblank => hr (isBlank_paddedRow hblank _)
  rw [recordRows_eq]
  generalize paddedRow (longest records) = row at hr ⊢
  subst h
  rw [rdropWhile_append_cons (q := fun r => (row r).isBlank) hr, List.filter_append,
    List.filter_cons_of_pos (p := fun r : Record => !r.isBlank) hline, List.map_append,
    List.countP_eq_length_filter, List.getElem?_append_right (by simp)]
  simp

theorem recordRows_eq_iff (records : List Record) :
    recordRows records = dropBlankRows (records.map (paddedRow (longest records)))
      ↔ ∀ before r after, records = before ++ r :: after → r.isBlank →
        ∀ s ∈ after, (paddedRow (longest records) s).isBlank := by
  have hblank : ∀ r : Record, r.isBlank → (paddedRow (longest records) r).isBlank :=
    fun r hr => isBlank_paddedRow hr _
  rw [recordRows_eq, dropBlankRows_map]
  generalize paddedRow (longest records) = row at hblank ⊢
  constructor
  · intro heq before r after hsplit hr s hs
    by_contra hs'
    have hkept : r ∈ records.rdropWhile fun r => (row r).isBlank :=
      mem_rdropWhile_iff.2 ⟨before, after, hsplit, s, List.mem_cons_of_mem _ hs, hs'⟩
    have hlength := congrArg List.length heq
    rw [List.length_map, List.length_map, List.length_filter_eq_length_iff] at hlength
    simpa [hr] using hlength r hkept
  · intro h
    rw [List.filter_eq_self.2]
    intro r hr
    obtain ⟨before, after, hsplit, s, hs, hs'⟩ := mem_rdropWhile_iff.1 hr
    by_contra hline
    have hr' : r.isBlank := by simpa using hline
    rcases List.mem_cons.1 hs with rfl | hs
    · exact hs' (hblank s hr')
    · exact hs' (h before r after hsplit hr' s hs)

end Sheet

namespace FileTree

open Csv Sheet

/-- A file of records whose quotation marks are closed gives one sheet with a row for every record
that is no blank line, filled up to the longest record. The rows are those of all records exactly if
no blank line stands before a row that is not blank. -/
theorem sheets_of_records {tree : FileTree} {location : Location} (headerOffset : Nat)
    {content : Content} {t : Text}
    (hkind : BookKind.ofName? (location.getLastD []) = some .table)
    (hfile : tree.file? location = some content) (ht : content.decodeTable = .ok t)
    (hended : isUnended t = false) :
    ∃ rows, tree.sheets location headerOffset
        = .ok [⟨stemOf (location.getLastD []), rows, location.getLastD [], headerOffset⟩]
      ∧ rows = dropBlankRows (((records t).filter fun r => !r.isBlank).map
        (paddedRow (longest (records t))))
      ∧ (∀ before r after, records t = before ++ r :: after →
        ¬ (paddedRow (longest (records t)) r).isBlank →
        rows[before.countP fun r => !r.isBlank]? = some (paddedRow (longest (records t)) r))
      ∧ (rows = dropBlankRows ((records t).map (paddedRow (longest (records t))))
        ↔ ∀ before r after, records t = before ++ r :: after → r.isBlank →
          ∀ s ∈ after, (paddedRow (longest (records t)) s).isBlank) := by
  refine ⟨recordRows (records t), ?_, ?_, fun before r after h hr => getElem?_recordRows h hr,
    recordRows_eq_iff (records t)⟩
  · simp only [sheets, hkind, tableSheets, hfile, ht, tableRows?, hended]
    rfl
  · rw [recordRows_eq, dropBlankRows_map, rdropWhile_filter]
    exact fun r hr => isBlank_paddedRow (by simpa using hr) _

/-- Records after a blank line. -/
def blankNoteText : Text := "\nid,x\nh,1\n".toList

/-- A file of records whose note row is a blank line. -/
def blankNote : FileTree where
  root := "/r".toList
  folders := []
  files := [(["a.csv".toList], .text blankNoteText)]

/-- The titles stand in the place of the notes. -/
theorem blankNote_moves_up : ∃ rows, blankNote.sheets ["a.csv".toList] 0
      = .ok [⟨['a'], rows, "a.csv".toList, 0⟩]
    ∧ rows[0]? = some [some "id".toList, some ['x']]
    ∧ rows ≠ dropBlankRows ((records blankNoteText).map
      (paddedRow (longest (records blankNoteText)))) := by
  have hfile : blankNote.file? ["a.csv".toList] = some (.text blankNoteText) := rfl
  have ht : (Content.text blankNoteText).decodeTable = .ok blankNoteText := rfl
  obtain ⟨rows, hsheets, hrows, -, hall⟩ :=
    sheets_of_records 0 (by decide) hfile ht (by decide)
  refine ⟨rows, hsheets, by rw [hrows]; decide, fun heq => ?_⟩
  have hblank := hall.1 heq [] ⟨[[]], false⟩
    [⟨["id".toList, ['x']], false⟩, ⟨[['h'], ['1']], false⟩] (by decide) (by decide) _
    List.mem_cons_self
  revert hblank
  decide

end FileTree

end MarkedSheet
