import MarkedSheet.Proofs.Csv.RoundTrip
import MarkedSheet.Proofs.Localization.Merging
import MarkedSheet.Text.Encoding

/-!
# The rows of a table in their places

A grid has the fields of each row in the places in which the records of a text have them. Merging
entries into the table that a text gives, and writing it, is merging them into its grid
(`text_merge`), and what is written gives that grid again (`ofText_text`). So a merge keeps all rows
where they are and adds the new ones below (`merged_merge`), and merging twice is merging once
(`merge_merge`).
-/

namespace MarkedSheet

namespace Localization

section Fields

/-- The field under a name: the one in the place of the name. A field that is missing is empty. -/
def fieldAt (columns fields : List Text) (column : Text) : Text :=
  ((columns.idxOf? column).bind fun j => fields[j]?).getD []

theorem get?_eq_none {pairs : Mapping Text Text} {column : Text}
    (h : column ∉ pairs.map Prod.fst) : pairs.get? column = none := by
  induction pairs with
  | nil => rfl
  | cons pair pairs ih =>
    rw [List.map_cons, List.mem_cons, not_or] at h
    rw [Mapping.get?, if_neg (Ne.symm h.1), ih h.2]

theorem get?_foldl_set {pairs : Mapping Text Text} (h : (pairs.map Prod.fst).Nodup)
    (m : Mapping Text Text) (column : Text) :
    (pairs.foldl (fun m pair => m.set pair.1 pair.2) m).get? column
      = (pairs.get? column).or (m.get? column) := by
  induction pairs generalizing m with
  | nil => rfl
  | cons pair pairs ih =>
    obtain ⟨hpair, hpairs⟩ := List.nodup_cons.1 h
    rw [List.foldl_cons, ih hpairs, Mapping.get?_set, Mapping.get?]
    by_cases hcolumn : pair.1 = column
    · rw [get?_eq_none (hcolumn ▸ hpair), if_pos hcolumn, if_pos hcolumn]
      rfl
    · rw [if_neg hcolumn, if_neg hcolumn]

theorem get?_zip (columns fields : List Text) (column : Text) :
    Mapping.get? (columns.zip fields) column
      = (columns.idxOf? column).bind fun j => fields[j]? := by
  induction columns generalizing fields with
  | nil => rfl
  | cons first columns ih =>
    cases fields with
    | nil => simp [Mapping.get?]
    | cons field fields =>
      rw [List.zip_cons_cons, Mapping.get?, ih, List.idxOf?_cons]
      by_cases h : first = column
      · simp [h]
      · cases columns.idxOf? column <;> simp [h]

theorem fieldOf_rowOf {columns : List Text} (h : columns.Nodup) (fields : List Text) :
    fieldOf (Table.rowOf columns fields) = fieldAt columns fields := by
  funext column
  have hkeys : ((columns.zip (fields.rightpad columns.length [])).map Prod.fst) = columns :=
    List.map_fst_zip (by rw [List.length_rightpad]; omega)
  rw [fieldOf, Table.rowOf, Mapping.ofList, get?_foldl_set (hkeys.symm ▸ h), get?_zip, fieldAt]
  cases hplace : columns.idxOf? column with
  | none => rfl
  | some j =>
    have hpad : (fields.rightpad columns.length [])[j]?.getD [] = fields[j]?.getD [] := by
      rw [List.rightpad, List.getElem?_append]
      split
      · rfl
      next hj =>
        rw [List.getElem?_eq_none (Nat.le_of_not_lt hj), List.getElem?_replicate]
        split <;> rfl
    simpa [Mapping.get?] using hpad

theorem fieldAt_map (columns : List Text) (row : Fields) (column : Text) :
    fieldAt columns (columns.map row) column = if column ∈ columns then row column else [] := by
  unfold fieldAt
  cases hplace : columns.idxOf? column with
  | none => simp [List.idxOf?_eq_none_iff.1 hplace]
  | some j =>
    obtain ⟨hj, heq, -⟩ := List.idxOf?_eq_some_iff.1 hplace
    have hmem : column ∈ columns := heq ▸ List.getElem_mem hj
    simp [hmem, List.getElem?_eq_getElem hj, heq]

theorem fieldAt_eq_nil {columns fields : List Text} {column : Text} (h : column ∉ columns) :
    fieldAt columns fields column = [] := by
  rw [fieldAt, List.idxOf?_eq_none_iff.2 h]
  rfl

end Fields

/-- The names of columns, and the fields of the rows below them. -/
structure Grid where
  columns : List Text
  body : List (List Text)
  deriving DecidableEq, Repr

namespace Grid

/-- The grid of a text. The first record has the names of the columns; a line without a character is
no row. -/
def ofText (t : Text) : Grid :=
  match Csv.records t with
  | [] => ⟨[], []⟩
  | head :: rest =>
    ⟨Table.fieldsOf head, (rest.filter fun r => !r.isVacant).map (·.fields)⟩

/-- The grid in writing. -/
def text (g : Grid) : Text :=
  Csv.write (g.columns :: g.body)

/-- What each row has under each name. -/
def rows (g : Grid) : List Fields :=
  g.body.map (fieldAt g.columns)

/-- What a row has under a name. -/
def field (g : Grid) (i : Nat) (column : Text) : Text :=
  fieldAt g.columns (g.body.getD i []) column

/-- The names of the columns are distinct, and no byte order mark stands at the front. -/
structure IsTidy (g : Grid) : Prop where
  distinct : g.columns.Nodup
  unmarked : ∀ column ∈ g.columns.head?, column.head? ≠ some Encoding.byteOrderMark

/-- The names of the columns when a language is there. -/
def columnsWith (g : Grid) (language : Text) : List Text :=
  (if keyColumn ∈ g.columns then [] else [keyColumn]) ++ g.columns
    ++ if language ∈ g.columns then [] else [language]

/-- The grid with entries merged into the column of a language. -/
def merge (g : Grid) (language : Text) (entries : List Entry) : Grid where
  columns := g.columnsWith language
  body := (entries.foldl (mergeRow language) g.rows).map fun row =>
    (g.columnsWith language).map row

/-- Entries have been merged into the column of a language: all rows stay in their places and keep
what they have in other columns, the first row of a key has the last text for it, and each key that
no row had has a row below, in the order in which the keys first come. -/
structure Merged (language : Text) (entries : List Entry) (before after : Grid) : Prop where
  columns : after.columns = before.columnsWith language
  rows : before.body.length ≤ after.body.length
  kept : ∀ i < before.body.length, ∀ column, column ≠ language →
    after.field i column = before.field i column
  updated : ∀ key text i, lastText? entries key = some text → place? before.rows key = some i →
    after.field i language = text
  untouched : ∀ i < before.body.length, (∀ e ∈ entries, place? before.rows e.key ≠ some i) →
    after.field i language = before.field i language
  appended : after.body.drop before.body.length = (newKeys before.rows entries).map fun key =>
    after.columns.map fun column =>
      if column = keyColumn then key
      else if column = language then (lastText? entries key).getD [] else []

section Reading

theorem ofText_eq (t : Text) : Table.ofText t
    = ⟨(ofText t).columns, (ofText t).body.map (Table.rowOf (ofText t).columns)⟩ := by
  unfold Table.ofText ofText
  cases Csv.records t with
  | nil => rfl
  | cons head rest => simp [Table.ofRecords]

theorem rows_ofText {t : Text} (h : (ofText t).columns.Nodup) :
    (Table.ofText t).rows.map fieldOf = (ofText t).rows := by
  rw [ofText_eq, rows, List.map_map]
  exact List.map_congr_left fun fields _ => fieldOf_rowOf h fields

theorem ofText_text {g : Grid} (hcolumns : g.columns ≠ [])
    (hbody : ∀ fields ∈ g.body, fields ≠ []) : ofText g.text = g := by
  have hlists : ∀ fields ∈ g.columns :: g.body, fields ≠ [] := List.forall_mem_cons.2
    ⟨hcolumns, hbody⟩
  have hall : (g.body.map fun fields => (⟨fields, Csv.isMarked fields⟩ : Csv.Record)).filter
      (fun r => !r.isVacant) = g.body.map fun fields => ⟨fields, Csv.isMarked fields⟩ :=
    List.filter_eq_self.2 fun r hr => by
      obtain ⟨fields, -, rfl⟩ := List.mem_map.1 hr
      simp [Csv.isVacant_written]
  rw [ofText, text, Csv.records_write hlists, List.map_cons]
  simp [hall, Table.fieldsOf, Csv.isVacant_written, Function.comp_def]

theorem dropMark_eq {t : Text} (h : t.head? ≠ some Encoding.byteOrderMark) :
    Encoding.dropMark t = t := by
  cases t with
  | nil => rfl
  | cons c rest => exact if_neg fun hc => h (congrArg some hc)

theorem head?_writeField {field : Text} (h : field.head? ≠ some Encoding.byteOrderMark) :
    (Csv.writeField field).head? ≠ some Encoding.byteOrderMark := by
  unfold Csv.writeField
  split
  · simp [Encoding.byteOrderMark]
  · exact h

theorem dropMark_text {g : Grid} (hcolumns : g.columns ≠ [])
    (h : ∀ column ∈ g.columns.head?, column.head? ≠ some Encoding.byteOrderMark) :
    Encoding.dropMark g.text = g.text := by
  obtain ⟨column, columns, hg⟩ := List.exists_cons_of_ne_nil hcolumns
  rw [hg] at h
  have hfield := head?_writeField (h column rfl)
  refine dropMark_eq ?_
  rw [text, Csv.write, List.flatMap_cons, hg, Csv.writeRecord]
  split
  · simp [Encoding.byteOrderMark]
  · cases columns <;> cases hwritten : Csv.writeField column <;>
      simp_all [Text.join, Encoding.byteOrderMark]

end Reading

section Merge

variable {g : Grid} {language : Text}

theorem columns_withColumns (hlanguage : language ≠ keyColumn) (table : Table) :
    (table.withColumns language).columns = columnsWith ⟨table.columns, []⟩ language := by
  unfold Table.withColumns columnsWith
  by_cases hkey : keyColumn ∈ table.columns <;> by_cases hlang : language ∈ table.columns <;>
    simp [hkey, hlang, hlanguage]

theorem keyColumn_mem_columnsWith (g : Grid) (language : Text) :
    keyColumn ∈ g.columnsWith language := by
  unfold columnsWith
  by_cases h : keyColumn ∈ g.columns <;> simp [h]

theorem language_mem_columnsWith (g : Grid) (language : Text) :
    language ∈ g.columnsWith language := by
  unfold columnsWith
  by_cases h : language ∈ g.columns <;> simp [h]

theorem columnsWith_ne_nil : g.columnsWith language ≠ [] :=
  List.ne_nil_of_mem (keyColumn_mem_columnsWith g language)

theorem columnsWith_columnsWith (body : List (List Text)) :
    columnsWith ⟨g.columnsWith language, body⟩ language = g.columnsWith language := by
  rw [columnsWith, if_pos (keyColumn_mem_columnsWith g language),
    if_pos (language_mem_columnsWith g language), List.nil_append, List.append_nil]

theorem nodup_columnsWith (h : g.columns.Nodup) (hlanguage : language ≠ keyColumn) :
    (g.columnsWith language).Nodup := by
  have hdisjoint : ∀ name, name ∉ g.columns → ∀ column ∈ g.columns, name ≠ column :=
    fun name hname column hcolumn heq => hname (heq ▸ hcolumn)
  unfold columnsWith
  split
  · split
    · simpa using h
    next hlang =>
      exact List.nodup_append.2 ⟨by simpa using h, by simp, by
        simpa using fun column hcolumn => (hdisjoint language hlang column hcolumn).symm⟩
  next hkey =>
    have hfront : (keyColumn :: g.columns).Nodup := List.nodup_cons.2 ⟨hkey, h⟩
    split
    · simpa using hfront
    next hlang =>
      refine List.nodup_append.2 ⟨hfront, by simp, fun column hcolumn _ hlast => ?_⟩
      rw [List.mem_singleton.1 hlast]
      rcases List.mem_cons.1 hcolumn with rfl | hcolumn
      · exact hlanguage.symm
      · exact (hdisjoint language hlang column hcolumn).symm

theorem unmarked_columnsWith
    (h : ∀ column ∈ g.columns.head?, column.head? ≠ some Encoding.byteOrderMark) :
    ∀ column ∈ (g.columnsWith language).head?, column.head? ≠ some Encoding.byteOrderMark := by
  unfold columnsWith
  split
  next hkey =>
    obtain ⟨column, columns, hg⟩ := List.exists_cons_of_ne_nil (List.ne_nil_of_mem hkey)
    simpa [hg] using h
  · rintro column ⟨⟩
    decide

theorem IsTidy.merge (h : g.IsTidy) (hlanguage : language ≠ keyColumn) (entries : List Entry) :
    (g.merge language entries).IsTidy where
  distinct := nodup_columnsWith h.distinct hlanguage
  unmarked := unmarked_columnsWith h.unmarked

/-- Nothing stands under a name that is no column's. -/
theorem foldl_mergeRow_eq_nil {columns : List Text} (hkey : keyColumn ∈ columns)
    (hlanguage : language ∈ columns) {rows : List Fields}
    (h : ∀ row ∈ rows, ∀ column ∉ columns, row column = []) (entries : List Entry) :
    ∀ row ∈ entries.foldl (mergeRow language) rows, ∀ column ∉ columns, row column = [] := by
  induction entries generalizing rows with
  | nil => exact h
  | cons e entries ih =>
    refine ih fun row hrow column hcolumn => ?_
    have hne : column ≠ language := fun heq => hcolumn (heq ▸ hlanguage)
    cases hplace : place? rows e.key with
    | some i =>
      rw [mergeRow_of_place hplace, List.mem_iff_getElem?] at hrow
      obtain ⟨j, hj⟩ := hrow
      rw [List.getElem?_modify] at hj
      obtain ⟨old, hold, rfl⟩ := Option.map_eq_some_iff.1 hj
      have hnil := h old (List.mem_of_getElem? hold) column hcolumn
      split <;> simp [Function.update_of_ne hne, hnil]
    | none =>
      rw [mergeRow_of_new hplace, List.mem_append, List.mem_singleton] at hrow
      rcases hrow with hrow | rfl
      · exact h row hrow column hcolumn
      · have hkeyNe : column ≠ keyColumn := fun heq => hcolumn (heq ▸ hkey)
        simp [newRow, Function.update_of_ne hne, Function.update_of_ne hkeyNe]

theorem rows_merge (g : Grid) (language : Text) (entries : List Entry) :
    (g.merge language entries).rows = entries.foldl (mergeRow language) g.rows := by
  rw [rows, Grid.merge, List.map_map]
  refine (List.map_congr_left fun row hrow => ?_).trans (List.map_id _)
  funext column
  rw [Function.comp_apply, fieldAt_map]
  split
  · rfl
  next hcolumn =>
    refine (foldl_mergeRow_eq_nil (keyColumn_mem_columnsWith g language)
      (language_mem_columnsWith g language) (fun row hrow column hcolumn => ?_) entries row hrow
      column hcolumn).symm
    obtain ⟨fields, -, rfl⟩ := List.mem_map.1 hrow
    exact fieldAt_eq_nil fun hmem => hcolumn (by simp [columnsWith, hmem])

theorem merge_merge (g : Grid) (language : Text) (first second : List Entry) :
    (g.merge language first).merge language second = g.merge language (first ++ second) := by
  have hcolumns : (g.merge language first).columnsWith language = g.columnsWith language :=
    columnsWith_columnsWith _
  rw [Grid.merge, rows_merge, hcolumns, ← List.foldl_append]
  rfl

/-- Merging into the table that a text gives, and writing it. -/
theorem text_merge {t : Text} (h : (ofText t).columns.Nodup) (hlanguage : language ≠ keyColumn)
    {entries : List Entry} (hkeys : ∀ e ∈ entries, e.key ≠ []) :
    ((Table.ofText t).merge language entries).text = ((ofText t).merge language entries).text := by
  have hrows := Localization.rows_merge (Table.ofText t) hlanguage hkeys
  have hcolumns : ((Table.ofText t).merge language entries).columns
      = (ofText t).columnsWith language := by
    rw [ofText_eq]
    exact columns_withColumns hlanguage _
  rw [rows_ofText h] at hrows
  rw [Table.text, Table.toRecords, hcolumns, text, Grid.merge, ← hrows, List.map_map]
  rfl

end Merge

section Merged

variable {g : Grid} {language : Text}

theorem getElem?_rows {i : Nat} (h : i < g.body.length) : g.rows[i]? = some (g.field i) := by
  rw [rows, List.getElem?_map, List.getElem?_eq_getElem h, Option.map_some]
  unfold field
  rw [List.getD_eq_getElem?_getD, List.getElem?_eq_getElem h, Option.getD_some]

theorem field_of_rows {i : Nat} {row : Fields} (h : g.rows[i]? = some row) : g.field i = row := by
  have hi : i < g.body.length := by
    simpa [rows] using (List.getElem?_eq_some_iff.1 h).1
  rw [getElem?_rows hi] at h
  exact Option.some.inj h

theorem merged_merge (g : Grid) (hlanguage : language ≠ keyColumn) (entries : List Entry) :
    Merged language entries g (g.merge language entries) := by
  have hrow : ∀ i < g.body.length, (entries.foldl (mergeRow language) g.rows)[i]?
      = some (mergedRow language g.rows entries i (g.field i)) := fun i hi =>
    getElem?_foldl_mergeRow hlanguage entries (getElem?_rows hi)
  have hfield : ∀ i < g.body.length, (g.merge language entries).field i
      = mergedRow language g.rows entries i (g.field i) := fun i hi =>
    field_of_rows (by rw [rows_merge, hrow i hi])
  refine ⟨rfl, ?_, fun i hi column hcolumn => ?_, fun key text i htext hplace => ?_,
    fun i hi hfree => ?_, ?_⟩
  · rw [Grid.merge, List.length_map]
    by_contra hlt
    have hsome := hrow _ (Nat.lt_of_not_le hlt)
    simp at hsome
  · rw [hfield i hi, mergedRow]
    split
    · rw [Function.update_of_ne hcolumn]
    · rfl
  · obtain ⟨row, hget, hkey⟩ := key_of_place? hplace
    have hi : i < g.body.length := by simpa [rows] using (List.getElem?_eq_some_iff.1 hget).1
    rw [hfield i hi, field_of_rows hget, mergedRow, hkey, if_pos hplace, Function.update_self,
      htext, Option.getD_some]
  · rw [hfield i hi, mergedRow]
    split
    next hplace =>
      have hnone : lastText? entries (g.field i keyColumn) = none :=
        lastText?_eq_none fun e he heq => hfree e he (heq ▸ hplace)
      rw [hnone, Function.update_self, Option.getD_none]
    · rfl
  · have hdrop : (entries.foldl (mergeRow language) g.rows).drop g.rows.length = _ :=
      drop_foldl_mergeRow hlanguage entries
    rw [rows, List.length_map, ← rows] at hdrop
    rw [Grid.merge, ← List.map_drop, hdrop, List.map_map]
    refine List.map_congr_left fun key _ => List.map_congr_left fun column _ => ?_
    simp only
    split
    next hkey => rw [hkey, key_newRow hlanguage]
    next hkey =>
      rw [newRow, Function.update_apply, Function.update_of_ne hkey]

end Merged

end Grid

end Localization

end MarkedSheet
