import MarkedSheet.Proofs.Localization.Grid

/-!
# Merging the same entries again

What is written of a table is read as a table with the same columns and the same fields, also where
several columns have one name (`ofText_text_table`). An entry with a key finds the row it has got,
so merging entries once more changes no row (`foldl_mergeRow_append_self`). An empty key is looked
up in no row of a table that is read, so such an entry gets a row with every merge
(`length_lt_merge`). Together they say when the text stays (`text_merge_again_iff`).
-/

namespace MarkedSheet

namespace Localization

section Pairs

variable {columns : List Text} {column : Text}

/-- Of pairs with one key the last is the one that is kept. -/
theorem get?_ofList (pairs : Mapping Text Text) (key : Text) :
    (Mapping.ofList pairs).get? key = Mapping.get? pairs.reverse key := by
  induction pairs using List.reverseRecOn with
  | nil => rfl
  | append_singleton pairs pair ih =>
    rw [Mapping.ofList, List.foldl_append, ← Mapping.ofList, List.foldl_cons, List.foldl_nil,
      Mapping.get?_set, ih, List.reverse_append, List.reverse_singleton, List.singleton_append]
    rfl

theorem get?_map (columns : List Text) (row : Fields) (column : Text) :
    Mapping.get? (columns.map fun name => (name, row name)) column
      = if column ∈ columns then some (row column) else none := by
  induction columns with
  | nil => rfl
  | cons name columns ih =>
    rw [List.map_cons, Mapping.get?, ih]
    by_cases hname : name = column
    · simp [hname]
    · simp [hname, Ne.symm hname]

theorem fieldOf_rowOf_eq_nil (h : column ∉ columns) (fields : List Text) :
    fieldOf (Table.rowOf columns fields) column = [] := by
  have hnone : column ∉ (columns.zip (fields.rightpad columns.length [])).reverse.map Prod.fst := by
    rw [List.map_reverse, List.mem_reverse]
    intro hmem
    obtain ⟨⟨name, field⟩, hpair, rfl⟩ := List.mem_map.1 hmem
    exact h (List.of_mem_zip hpair).1
  rw [fieldOf, Table.rowOf, get?_ofList, get?_eq_none hnone]
  rfl

theorem fieldOf_rowOf_map (columns : List Text) (row : Fields) (column : Text) :
    fieldOf (Table.rowOf columns (columns.map row)) column
      = if column ∈ columns then row column else [] := by
  have hzip : columns.zip ((columns.map row).rightpad columns.length [])
      = columns.map fun name => (name, row name) := by
    rw [List.map_prod_left_eq_zip, List.rightpad, List.length_map, Nat.sub_self,
      List.replicate_zero, List.append_nil]
  rw [fieldOf, Table.rowOf, hzip, get?_ofList, ← List.map_reverse, get?_map]
  simp only [List.mem_reverse]
  split <;> rfl

end Pairs

/-- The columns of a table with what its rows have under them. -/
def Table.grid (table : Table) : Grid :=
  ⟨table.columns, table.rows.map fun row => table.columns.map (fieldOf row)⟩

section Written

variable {table : Table}

/-- The text of a table is that of its columns and of what its rows have under them. -/
theorem text_congr {other : Table} (hcolumns : table.columns = other.columns)
    (hrows : table.rows.map fieldOf = other.rows.map fieldOf) : table.text = other.text := by
  have hfields : ∀ t : Table, t.text
      = Csv.write (t.columns :: (t.rows.map fieldOf).map fun row => t.columns.map row) := by
    intro t
    rw [List.map_map]
    rfl
  rw [hfields, hfields, hcolumns, hrows]

/-- What is written of a table is read with the same columns and with all that stands under them. -/
theorem ofText_text_table (hcolumns : table.columns ≠ []) : Table.ofText table.text
    = ⟨table.columns, table.rows.map fun row =>
        Table.rowOf table.columns (table.columns.map (fieldOf row))⟩ := by
  have hgrid : Grid.ofText table.text = table.grid :=
    Grid.ofText_text (g := table.grid) hcolumns fun fields hfields => by
      obtain ⟨row, -, rfl⟩ := List.mem_map.1 hfields
      exact mt List.map_eq_nil_iff.1 hcolumns
  rw [Grid.ofText_eq, hgrid, Table.grid, List.map_map]
  rfl

theorem dropMark_text (hcolumns : table.columns ≠ [])
    (h : ∀ column ∈ table.columns.head?, column.head? ≠ some Encoding.byteOrderMark) :
    Encoding.dropMark table.text = table.text :=
  Grid.dropMark_text (g := table.grid) hcolumns h

theorem rows_ofText_text (hcolumns : table.columns ≠ [])
    (h : ∀ row ∈ table.rows.map fieldOf, ∀ column ∉ table.columns, row column = []) :
    (Table.ofText table.text).rows.map fieldOf = table.rows.map fieldOf := by
  rw [ofText_text_table hcolumns, List.map_map]
  refine List.map_congr_left fun row hrow => ?_
  funext column
  rw [Function.comp_apply, fieldOf_rowOf_map]
  split
  · rfl
  next hcolumn => exact (h _ (List.mem_map_of_mem hrow) column hcolumn).symm

theorem rows_ofText_eq_nil {t : Text} :
    ∀ row ∈ (Table.ofText t).rows.map fieldOf, ∀ column ∉ (Table.ofText t).columns,
      row column = [] := by
  intro row hrow column hcolumn
  rw [Grid.ofText_eq] at hrow hcolumn
  obtain ⟨_, hfields, rfl⟩ := List.mem_map.1 hrow
  obtain ⟨fields, -, rfl⟩ := List.mem_map.1 hfields
  exact fieldOf_rowOf_eq_nil hcolumn fields

end Written

section Twice

variable {language : Text} (entries : List Entry)

theorem lastText?_append_self (key : Text) :
    lastText? (entries ++ entries) key = lastText? entries key := by
  simp [lastText?]

theorem newKeys_append_self (rows : List Fields) :
    newKeys rows (entries ++ entries) = newKeys rows entries := by
  have hnone : (((entries.map (·.key)).filter fun key => (place? rows key).isNone).removeAll
      ((entries.map (·.key)).filter fun key => (place? rows key).isNone)) = [] :=
    List.filter_eq_nil_iff.2 fun key hkey => by simpa using hkey
  rw [newKeys, List.map_append, List.filter_append, List.eraseDups_append, hnone,
    List.eraseDups_nil, List.append_nil, newKeys]

/-- Every entry finds a row when it is merged again, and the last text for its key is there. -/
theorem foldl_mergeRow_append_self (hlanguage : language ≠ keyColumn) (rows : List Fields) :
    (entries ++ entries).foldl (mergeRow language) rows
      = entries.foldl (mergeRow language) rows := by
  refine List.ext_getElem? fun i => ?_
  rcases Nat.lt_or_ge i rows.length with hi | hi
  · have hrow := List.getElem?_eq_getElem hi
    rw [getElem?_foldl_mergeRow hlanguage _ hrow, getElem?_foldl_mergeRow hlanguage _ hrow,
      mergedRow, lastText?_append_self, mergedRow]
  · have hdrop : ((entries ++ entries).foldl (mergeRow language) rows).drop rows.length = _ :=
      drop_foldl_mergeRow hlanguage (entries ++ entries)
    simp only [newKeys_append_self, lastText?_append_self] at hdrop
    rw [← drop_foldl_mergeRow hlanguage] at hdrop
    have hbelow := congrArg (·[i - rows.length]?) hdrop
    simpa only [List.getElem?_drop, Nat.add_sub_cancel' hi] using hbelow

end Twice

section Keyless

variable {entries : List Entry}

theorem get?_placesOf_nil (rows : List (Mapping Text Text)) :
    (Merge.placesOf rows).get? [] = none := by
  induction rows using List.reverseRecOn with
  | nil => rfl
  | append_singleton rows row ih =>
    simp only [Merge.placesOf, List.zipIdx_append, List.foldl_append] at ih ⊢
    simp only [List.zipIdx_cons, List.zipIdx_nil, List.foldl_cons, List.foldl_nil]
    split
    · exact ih
    next hkey =>
      rw [Mapping.get?_set, if_neg (fun hnil => by simp [hnil] at hkey), ih]

theorem length_le_foldl_add (language : Text) (entries : List Entry) (merge : Merge) :
    merge.rows.length ≤ (entries.foldl (Merge.add language) merge).rows.length := by
  induction entries generalizing merge with
  | nil => exact Nat.le_refl _
  | cons e entries ih =>
    have hadd : merge.rows.length ≤ (merge.add language e).rows.length := by
      unfold Merge.add
      split <;> simp
    exact Nat.le_trans hadd (ih (merge.add language e))

/-- While no row is known for the empty key, an entry with it gets one. -/
theorem length_lt_foldl_add (language : Text) (hkey : ∃ e ∈ entries, e.key = []) (merge : Merge)
    (hplaces : merge.places.get? [] = none) :
    merge.rows.length < (entries.foldl (Merge.add language) merge).rows.length := by
  induction entries generalizing merge with
  | nil => simp at hkey
  | cons e entries ih =>
    rw [List.foldl_cons]
    by_cases he : e.key = []
    · have hadd : (merge.add language e).rows.length = merge.rows.length + 1 := by
        simp [Merge.add, he, hplaces]
      have := length_le_foldl_add language entries (merge.add language e)
      omega
    · have hrest : ∃ e ∈ entries, e.key = [] := by simpa [he] using hkey
      have hadd : merge.rows.length ≤ (merge.add language e).rows.length :=
        length_le_foldl_add language [e] merge
      refine Nat.lt_of_le_of_lt hadd (ih hrest _ ?_)
      unfold Merge.add
      split
      · exact hplaces
      · rw [Mapping.get?_set, if_neg he, hplaces]

theorem length_lt_merge (table : Table) (language : Text) (hkey : ∃ e ∈ entries, e.key = []) :
    table.rows.length < (table.merge language entries).rows.length :=
  length_lt_foldl_add language hkey ⟨table.rows, Merge.placesOf table.rows⟩
    (get?_placesOf_nil table.rows)

end Keyless

section Again

variable {language : Text} (hlanguage : language ≠ keyColumn) (entries : List Entry)

include hlanguage

theorem columns_merge (table : Table) :
    (table.merge language entries).columns = Grid.columnsWith ⟨table.columns, []⟩ language :=
  Grid.columns_withColumns hlanguage table

theorem columns_merge_ne_nil (table : Table) : (table.merge language entries).columns ≠ [] := by
  rw [columns_merge hlanguage]
  exact Grid.columnsWith_ne_nil

/-- A byte order mark comes to the front of the text only from the front of the columns. -/
theorem dropMark_text_merge {t : Text} (h : ∀ column ∈ (Grid.ofText t).columns.head?,
    column.head? ≠ some Encoding.byteOrderMark) :
    Encoding.dropMark ((Table.ofText t).merge language entries).text
      = ((Table.ofText t).merge language entries).text := by
  refine dropMark_text (columns_merge_ne_nil hlanguage entries _) ?_
  rw [columns_merge hlanguage, Grid.ofText_eq]
  exact Grid.unmarked_columnsWith h

variable {entries}

/-- Merging entries that have keys into the table that is written changes nothing of it. -/
theorem text_merge_again (hkeys : ∀ e ∈ entries, e.key ≠ []) (t : Text) :
    ((Table.ofText ((Table.ofText t).merge language entries).text).merge language entries).text
      = ((Table.ofText t).merge language entries).text := by
  have hcolumns := columns_merge_ne_nil hlanguage entries (Table.ofText t)
  have hnil : ∀ row ∈ ((Table.ofText t).merge language entries).rows.map fieldOf,
      ∀ column ∉ ((Table.ofText t).merge language entries).columns, row column = [] := by
    rw [columns_merge hlanguage, rows_merge _ hlanguage hkeys]
    refine Grid.foldl_mergeRow_eq_nil (Grid.keyColumn_mem_columnsWith _ _)
      (Grid.language_mem_columnsWith _ _) (fun row hrow column hcolumn => ?_) entries
    exact rows_ofText_eq_nil row hrow column fun hmem =>
      hcolumn (by simp [Grid.columnsWith, hmem])
  refine text_congr ?_ ?_
  · rw [columns_merge hlanguage, ofText_text_table hcolumns, columns_merge hlanguage,
      Grid.columnsWith_columnsWith]
  · rw [rows_merge _ hlanguage hkeys, rows_ofText_text hcolumns hnil, rows_merge _ hlanguage hkeys,
      ← List.foldl_append, foldl_mergeRow_append_self entries hlanguage]

/-- Merging entries into the table that is written leaves its text exactly if each has a key. -/
theorem text_merge_again_iff (t : Text) :
    ((Table.ofText ((Table.ofText t).merge language entries).text).merge language entries).text
        = ((Table.ofText t).merge language entries).text
      ↔ ∀ e ∈ entries, e.key ≠ [] := by
  refine ⟨fun h e he hkey => ?_, fun hkeys => text_merge_again hlanguage hkeys t⟩
  -- Both texts give all their rows, and the second merge has added one.
  have hlength : ∀ table : Table, (Table.ofText (table.merge language entries).text).rows.length
      = (table.merge language entries).rows.length := fun table => by
    rw [ofText_text_table (columns_merge_ne_nil hlanguage entries table), List.length_map]
  have hlt := length_lt_merge (Table.ofText ((Table.ofText t).merge language entries).text) language
    ⟨e, he, hkey⟩
  rw [← hlength, h] at hlt
  exact Nat.lt_irrefl _ hlt

end Again

end Localization

end MarkedSheet
