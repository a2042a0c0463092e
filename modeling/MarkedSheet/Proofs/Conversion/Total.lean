import MarkedSheet.Proofs.Conversion.Sheets
import MarkedSheet.Proofs.Emission.Independence
import MarkedSheet.Proofs.Localization.Harvested
import MarkedSheet.Proofs.Pinyin.Dictionary

/-!
# No grid is too odd

With the usual template, and where no text fails to be transliterated, every sheet is converted or
left out, whatever its rows are like; it is left out for its name or for want of data rows
(`convert_total`). Rows are as wide as the title row when they are looked into, and no column is
looked into that the title row does not have.
-/

namespace MarkedSheet

/-- The columns to the left of the columns of localized values. -/
def Schema.labelColumns (s : Schema) : List Nat :=
  (s.meaningful.filter fun col => s.kinds[col]? = some .locValues).map (· - 1)

/-- The columns that are looked into under a schema. -/
def Schema.columnsRead (s : Schema) : List Nat :=
  s.meaningful ++ s.labelColumns ++ s.nameNote?.toList ++ match s.primary? with
    | none => []
    | some primary => primary :: columnsOf (outline s.kinds (primary + 1) s.width)

theorem Schema.columnsRead_lt (s : Schema) : ∀ col ∈ s.columnsRead, col < s.width := by
  have hmeaningful : ∀ col ∈ s.meaningful, col < s.width := fun col hcol =>
    List.mem_range.1 (List.mem_filter.1 hcol).1
  have hlabel : ∀ col ∈ s.labelColumns, col < s.width := fun col hcol => by
    obtain ⟨right, hright, rfl⟩ := List.mem_map.1 hcol
    have hlt := hmeaningful right (List.mem_filter.1 hright).1
    omega
  have hname : ∀ col ∈ s.nameNote?.toList, col < s.width := fun col hcol =>
    hmeaningful col (Schema.nameNote_mem_meaningful (Option.mem_toList.1 hcol))
  intro col hcol
  simp only [columnsRead, List.mem_append, or_assoc] at hcol
  rcases hcol with hcol | hcol | hcol | hcol
  · exact hmeaningful col hcol
  · exact hlabel col hcol
  · exact hname col hcol
  · rcases hprimary : s.primary? with _ | primary
    · simp [hprimary] at hcol
    · rw [hprimary] at hcol
      rcases List.mem_cons.1 hcol with rfl | hcol
      · exact hmeaningful _ (Schema.primary_mem_meaningful hprimary)
      · exact (laid_outline s.kinds (primary + 1) s.width (by simp)).columns_lt col hcol

namespace Localization

/-- The usual template has no fault. -/
theorem fault_defaultTemplate {template : Template} (h : template.source = defaultTemplate)
    (page : Page) : (harvest page template).fault = none := by
  let keyAt (r : Nat) : Option Text :=
    ((carriedKeys page.schema.primary? none page.rows)[r]?).join
  have hkeys : carriedKeys page.schema.primary? none page.rows
      = (List.range page.rows.length).map keyAt := by
    refine List.ext_getElem (by simp) fun r hr _ => ?_
    simp [keyAt, List.getElem?_eq_getElem hr]
  rw [harvest_eq hkeys (fills_defaultTemplate h page keyAt)]

end Localization

namespace Sheet

open Logged

/-- Where the header rows are there, all rows can be looked up. -/
theorem rows_of_hasHeaderRows {s : Sheet} (h : s.hasHeaderRows) : ∃ titles notes,
    s.titleRow = .ok titles ∧ s.noteRow = .ok (Row.fit titles.length notes)
      ∧ s.dataRows = .ok ((s.rows.drop (s.headerOffset + 2)).map (Row.fit titles.length)) := by
  have hlong : s.headerOffset + 2 ≤ s.rows.length := by simpa [hasHeaderRows] using h
  have hrow : ∀ i (hi : i < s.rows.length), s.row i = .ok s.rows[i] := fun i hi => by
    simp [row, hi]
  have htitles : s.titleRow = .ok (dropBlankEnd s.rows[s.headerOffset + 1]) := by
    rw [titleRow, hrow _ (by omega)]
    rfl
  have hwidth : s.width = .ok (dropBlankEnd s.rows[s.headerOffset + 1]).length := by
    rw [width, htitles]
    rfl
  refine ⟨_, s.rows[s.headerOffset], htitles, ?_, ?_⟩
  · rw [noteRow, hrow _ (by omega), hwidth]
    rfl
  · rw [dataRows, hwidth]
    rcases s.rows.drop (s.headerOffset + 2) with _ | ⟨first, rest⟩
    · rfl
    · rfl

theorem hasHeaderRows_of_titleRow {s : Sheet} {titles : Row} (h : s.titleRow = .ok titles) :
    s.hasHeaderRows := by
  unfold titleRow row at h
  split at h
  next hrow =>
    have hlong := (List.getElem?_eq_some_iff.1 hrow).1
    simp only [hasHeaderRows, decide_eq_true_eq]
    omega
  next => cases h

/-- The note row and the data rows are as wide as the title row. -/
theorem length_row {s : Sheet} {titles notes : Row} {rows : List Row}
    (htitles : s.titleRow = .ok titles) (hrows : s.dataRows = .ok rows)
    (hnotes : s.noteRow = .ok notes) : ∀ row ∈ notes :: rows, row.length = titles.length := by
  obtain ⟨titles', notes', htitles', hnotes', hrows'⟩ :=
    rows_of_hasHeaderRows (hasHeaderRows_of_titleRow htitles)
  obtain rfl : titles' = titles := Except.ok.inj (htitles'.symm.trans htitles)
  obtain rfl := Except.ok.inj (hnotes'.symm.trans hnotes)
  obtain rfl := Except.ok.inj (hrows'.symm.trans hrows)
  intro row hrow
  rcases List.mem_cons.1 hrow with rfl | hrow
  · exact Row.length_fit _ _
  · obtain ⟨own, -, rfl⟩ := List.mem_map.1 hrow
    exact Row.length_fit _ _

section Total

variable {lexicon : Pinyin.Lexicon} {o : Options}
  (hconvert : ∀ t, ∃ t', (transliterator o).convert lexicon t = .ok t')

include hconvert

theorem exists_writtenName (name : Text) :
    ∃ written, (writtenName lexicon o name).result = .ok written := by
  unfold writtenName
  split
  · obtain ⟨latin, hlatin⟩ := hconvert name
    rw [hlatin]
    exact ⟨latin, rfl⟩
  · exact ⟨name, rfl⟩

theorem exists_writtenLines (lines : List Text) :
    ∃ written, (writtenLines lexicon o lines).result = .ok written := by
  unfold writtenLines
  split
  · obtain ⟨written, hwritten⟩ := Pinyin.exists_mapM fun line (_ : line ∈ lines) => hconvert line
    rw [hwritten]
    exact ⟨written, rfl⟩
  · exact ⟨lines, rfl⟩

variable (htemplate : o.locTemplate.source = Localization.defaultTemplate)

omit hconvert in
include htemplate in
theorem exists_bodyOf (name : Text) (page : Page) :
    ∃ body, (bodyOf o name page).result = .ok body := by
  unfold bodyOf
  split
  next hsimple =>
    obtain ⟨keyCol, valueCol, hcols⟩ :=
      Schema.meaningful_of_isSimple (Bool.and_eq_true_iff.1 hsimple).2
    rw [flatBody, Page.flatLines, hcols]
    exact ⟨_, rfl⟩
  next =>
    have hharvest : Localization.harvest page o.locTemplate
        = ⟨(Localization.harvest page o.locTemplate).entries,
          (Localization.harvest page o.locTemplate).warnings, none⟩ := by
      rw [← Localization.fault_defaultTemplate htemplate page]
    obtain ⟨ws, nodes, hnodes⟩ := page.documentNodes_ok
    rw [objectBody, harvested_eq o name page hharvest, bind_ok, Page.document_eq hnodes]
    exact ⟨_, rfl⟩

include htemplate

theorem exists_outputOf (s : Sheet) (name : Text) (titles : Row) (page : Page) :
    ∃ output, (outputOf lexicon o s name titles page).result = .ok output := by
  obtain ⟨body, hbody⟩ := exists_bodyOf htemplate name page
  obtain ⟨lines, hlines⟩ := exists_writtenLines hconvert body.lines
  exact ⟨_, (outputOf_result lexicon o s name page).2 ⟨body, lines, hbody, hlines, rfl⟩⟩

theorem exists_convertNamed (s : Sheet) (name : Text) :
    ∃ r, (convertNamed lexicon o s name).result = .ok r
      ∧ (r = none ↔ s.rows.length ≤ s.headerOffset + 2) := by
  rcases Nat.lt_or_ge (s.headerOffset + 2) s.rows.length with hlong | hshort
  · have hheader : s.hasHeaderRows := by simp [hasHeaderRows]; omega
    have hsome : s.rows.isEmpty = false := by
      rw [List.isEmpty_eq_false_iff, ← List.length_pos_iff]
      omega
    obtain ⟨titles, notes, htitles, hnotes, hrows⟩ := rows_of_hasHeaderRows hheader
    have hdata : (((s.rows.drop (s.headerOffset + 2)).map (Row.fit titles.length)).isEmpty)
        = false := by
      rw [List.isEmpty_eq_false_iff, ← List.length_pos_iff, List.length_map, List.length_drop]
      omega
    obtain ⟨output, houtput⟩ := exists_outputOf hconvert htemplate s name titles
      (page o s (.ofTitles titles) ((s.rows.drop (s.headerOffset + 2)).map (Row.fit titles.length))
        (Row.fit titles.length notes))
    refine ⟨some output, ?_, by simp; omega⟩
    rw [convertNamed, hsome, hheader, hrows, htitles, hnotes]
    simp only [Bool.false_eq_true, if_false, Bool.not_true, lift_ok, bind_ok, hdata]
    exact result_bind_eq_ok.2 ⟨output, houtput, rfl⟩
  · -- Too few rows are told in three ways, the last of which has header rows to look up.
    refine ⟨none, ?_, by simp [hshort]⟩
    unfold convertNamed
    split
    · rfl
    · split
      · rfl
      next hheader =>
        obtain ⟨titles, notes, -, -, hrows⟩ := rows_of_hasHeaderRows (by simpa using hheader)
        rw [hrows, List.drop_of_length_le hshort]
        rfl

/-- Every sheet is converted or left out, the latter for its name or because it has no data rows.
The rows are then as wide as the title row, and no column beyond it is looked into. -/
theorem convert_total (s : Sheet) :
    (∃ r, (convert lexicon o s).result = .ok r
      ∧ (r = none ↔ o.ignores s.name ∨ s.rows.length ≤ s.headerOffset + 2))
    ∧ ∀ titles rows notes, s.titleRow = .ok titles → s.dataRows = .ok rows → s.noteRow = .ok notes →
      (∀ row ∈ notes :: rows, row.length = titles.length)
      ∧ ∀ col ∈ (Schema.ofTitles titles).columnsRead, col < titles.length := by
  refine ⟨?_, ?_⟩
  · by_cases hignored : o.ignores s.name
    · refine ⟨none, ?_, by simp [hignored]⟩
      rw [convert, if_pos hignored]
      rfl
    · obtain ⟨name, hname⟩ := exists_writtenName hconvert s.name
      obtain ⟨r, hr, hnone⟩ := exists_convertNamed hconvert htemplate s name
      refine ⟨r, ?_, by simp [hignored, hnone]⟩
      rw [convert, if_neg hignored]
      exact result_bind_eq_ok.2 ⟨name, hname, hr⟩
  · intro titles rows notes htitles hrows hnotes
    refine ⟨length_row htitles hrows hnotes, fun col hcol => ?_⟩
    have hlt := (Schema.ofTitles titles).columnsRead_lt col hcol
    rwa [Schema.width_ofTitles] at hlt

end Total

/-- A sheet with ragged rows and containers that cross. -/
def raggedSheet : Sheet where
  name := ['s']
  rows := [["note"], ["id", "a\x7b", "k", "b[", "\x7d", "#LocValues", "v", "[↓", " "], ["h"], [],
    ["", "", "x", "y", "z", "text", "1", "", "", "more"]].map (List.map fun t => some t.toList)
  source := []
  headerOffset := 0

theorem raggedSheet_converted :
    (∀ t, ∃ t', (transliterator bareOptions).convert .blank t = .ok t')
      ∧ bareOptions.locTemplate.source = Localization.defaultTemplate
      ∧ ∃ output, (convert .blank bareOptions raggedSheet).result = .ok (some output) := by
  obtain ⟨f, hf, -⟩ := Pinyin.exists_convert Pinyin.Lexicon.blank_isPlain
    (transliterator bareOptions) (by decide)
  have hconvert : ∀ t, ∃ t', (transliterator bareOptions).convert .blank t = .ok t' :=
    fun t => ⟨f t, hf t⟩
  obtain ⟨⟨r, hr, hnone⟩, -⟩ := convert_total hconvert rfl raggedSheet
  refine ⟨hconvert, rfl, ?_⟩
  cases r with
  | none => exact absurd (hnone.1 rfl) (by decide)
  | some output => exact ⟨output, hr⟩

end Sheet

end MarkedSheet
