import Mathlib.Data.List.Induction
import Mathlib.Logic.Function.Basic
import MarkedSheet.Localization.Table

/-!
# Merging entries row by row

What a row has under every name says all that is written of it, so rows are taken as functions here.
A merge keeps the first row of each key at hand (`Merge.Indexed`), so entry after entry is set in
the first row with its key, or gets a row at the end (`mergeRow`). In the end the first row of a key
has the last text for it (`getElem?_foldl_mergeRow`), and each new key has one row, in the order in
which the keys come (`drop_foldl_mergeRow`).
-/

namespace MarkedSheet

namespace Localization

/-- What a row has under each name. -/
abbrev Fields := Text → Text

/-- The row that a new key gets. -/
def newRow (language key text : Text) : Fields :=
  Function.update (Function.update (fun _ => []) keyColumn key) language text

/-- The first row with a key. -/
def place? (rows : List Fields) (key : Text) : Option Nat :=
  rows.findIdx? fun row => row keyColumn = key

/-- Merges one entry. -/
def mergeRow (language : Text) (rows : List Fields) (e : Entry) : List Fields :=
  match place? rows e.key with
  | some i => rows.modify i fun row => Function.update row language e.text
  | none => rows ++ [newRow language e.key e.text]

/-- The last text for a key. -/
def lastText? (entries : List Entry) (key : Text) : Option Text :=
  ((entries.filter fun e => e.key = key).getLast?).map (·.text)

/-- The keys of entries that no row has, in the order in which they first come. -/
def newKeys (rows : List Fields) (entries : List Entry) : List Text :=
  ((entries.map (·.key)).filter fun key => (place? rows key).isNone).eraseDups

section Places

theorem key_newRow {language : Text} (hlanguage : language ≠ keyColumn) (key text : Text) :
    newRow language key text keyColumn = key := by
  simp [newRow, Function.update_of_ne hlanguage.symm]

variable {rows : List Fields} {key : Text} {i : Nat}

theorem place?_append (rows others : List Fields) (key : Text) :
    place? (rows ++ others) key
      = (place? rows key).or ((place? others key).map (· + rows.length)) :=
  List.findIdx?_append ..

theorem place?_singleton (row : Fields) (key : Text) :
    place? [row] key = if row keyColumn = key then some 0 else none := by
  simp [place?, List.findIdx?_cons]

theorem key_of_place? (h : place? rows key = some i) :
    ∃ row, rows[i]? = some row ∧ row keyColumn = key := by
  obtain ⟨hi, hkey, -⟩ := List.findIdx?_eq_some_iff_getElem.1 h
  exact ⟨rows[i], List.getElem?_eq_getElem hi, by simpa using hkey⟩

theorem isSome_place? {row : Fields} (h : row ∈ rows) :
    (place? rows (row keyColumn)).isSome := by
  rw [place?, List.findIdx?_isSome]
  exact List.any_eq_true.2 ⟨row, h, by simp⟩

theorem place?_congr {others : List Fields}
    (h : rows.map (· keyColumn) = others.map (· keyColumn)) (key : Text) :
    place? rows key = place? others key := by
  have hmap : ∀ rows : List Fields,
      place? rows key = (rows.map (· keyColumn)).findIdx? fun k => k = key := fun rows => by
    rw [List.findIdx?_map]
    rfl
  rw [hmap, hmap, h]

end Places

section Step

variable {language : Text} {rows : List Fields} {e : Entry} {i : Nat}

theorem keys_modify (hlanguage : language ≠ keyColumn) (text : Text) :
    (rows.modify i fun row => Function.update row language text).map (· keyColumn)
      = rows.map (· keyColumn) := by
  refine List.ext_getElem? fun j => ?_
  simp only [List.getElem?_map, List.getElem?_modify]
  cases rows[j]? with
  | none => rfl
  | some row => by_cases h : i = j <;> simp [h, Function.update_of_ne hlanguage.symm]

theorem mergeRow_of_place (h : place? rows e.key = some i) : mergeRow language rows e
    = rows.modify i fun row => Function.update row language e.text := by
  rw [mergeRow, h]

theorem mergeRow_of_new (h : place? rows e.key = none) :
    mergeRow language rows e = rows ++ [newRow language e.key e.text] := by
  rw [mergeRow, h]

theorem place?_mergeRow (hlanguage : language ≠ keyColumn) (key : Text) :
    place? (mergeRow language rows e) key
      = (place? rows key).or (if e.key = key then some rows.length else none) := by
  cases h : place? rows e.key with
  | some i =>
    rw [mergeRow_of_place h, place?_congr (keys_modify hlanguage e.text) key]
    by_cases hkey : e.key = key
    · rw [← hkey, h]
      rfl
    · simp [hkey]
  | none =>
    rw [mergeRow_of_new h, place?_append, place?_singleton, key_newRow hlanguage]
    by_cases hkey : e.key = key <;> simp [hkey]

end Step

section Index

/-- The row of each key is at hand. -/
def Merge.Indexed (merge : Merge) : Prop :=
  ∀ key ≠ [], merge.places.get? key = place? (merge.rows.map fieldOf) key

theorem fieldOf_set (row : Mapping Text Text) (column text : Text) :
    fieldOf (row.set column text) = Function.update (fieldOf row) column text := by
  funext other
  rw [fieldOf, Mapping.get?_set, Function.update_apply]
  by_cases h : column = other
  · simp [h]
  · simp [h, Ne.symm h, fieldOf]

theorem fieldOf_newRow (language key text : Text) :
    fieldOf (.ofList [(keyColumn, key), (language, text)]) = newRow language key text := by
  simp only [Mapping.ofList, List.foldl_cons, List.foldl_nil, fieldOf_set]
  rfl

theorem indexed_placesOf (rows : List (Mapping Text Text)) :
    Merge.Indexed ⟨rows, Merge.placesOf rows⟩ := by
  intro key hkey
  induction rows using List.reverseRecOn with
  | nil => rfl
  | append_singleton rows row ih =>
    have hplaces : Merge.placesOf (rows ++ [row])
        = if (fieldOf row keyColumn).isEmpty
            || ((Merge.placesOf rows).get? (fieldOf row keyColumn)).isSome
          then Merge.placesOf rows
          else (Merge.placesOf rows).set (fieldOf row keyColumn) rows.length := by
      simp [Merge.placesOf, List.zipIdx_append]
    simp only at ih
    rw [hplaces, List.map_append, place?_append, ← ih, List.map_singleton, place?_singleton,
      List.length_map]
    by_cases hrow : fieldOf row keyColumn = key
    · subst hrow
      cases hget : (Merge.placesOf rows).get? (fieldOf row keyColumn) with
      | some i => simp [hget]
      | none => simp [hkey, Mapping.get?_set]
    · rw [if_neg hrow]
      split <;> simp [Mapping.get?_set, hrow]

variable {language : Text} {merge : Merge} {e : Entry}

theorem rows_add (h : merge.Indexed) (hkey : e.key ≠ []) :
    (merge.add language e).rows.map fieldOf
      = mergeRow language (merge.rows.map fieldOf) e := by
  unfold Merge.add mergeRow
  rw [h e.key hkey]
  cases place? (merge.rows.map fieldOf) e.key with
  | some i =>
    refine List.ext_getElem? fun j => ?_
    simp only [List.getElem?_map, List.getElem?_modify]
    cases merge.rows[j]? with
    | none => rfl
    | some row => by_cases hj : i = j <;> simp [hj, fieldOf_set]
  | none => simp [fieldOf_newRow]

theorem Merge.Indexed.add (h : merge.Indexed) (hlanguage : language ≠ keyColumn)
    (hkey : e.key ≠ []) : (merge.add language e).Indexed := by
  intro key hother
  rw [rows_add h hkey, place?_mergeRow hlanguage, ← h key hother, List.length_map]
  unfold Merge.add
  cases hplace : merge.places.get? e.key with
  | some i =>
    by_cases hsame : e.key = key
    · simp [← hsame, hplace]
    · simp [hsame]
  | none =>
    by_cases hsame : e.key = key
    · simp [← hsame, hplace, Mapping.get?_set]
    · simp [hsame, Mapping.get?_set]

theorem rows_foldl_add (hlanguage : language ≠ keyColumn) {entries : List Entry}
    (hkeys : ∀ e ∈ entries, e.key ≠ []) (h : merge.Indexed) :
    (entries.foldl (Merge.add language) merge).rows.map fieldOf
      = entries.foldl (mergeRow language) (merge.rows.map fieldOf) := by
  induction entries generalizing merge with
  | nil => rfl
  | cons e entries ih =>
    have hkey := hkeys e List.mem_cons_self
    rw [List.foldl_cons, List.foldl_cons, ← rows_add h hkey]
    exact ih (fun other hother => hkeys other (List.mem_cons_of_mem e hother))
      (h.add hlanguage hkey)

theorem rows_merge (table : Table) (hlanguage : language ≠ keyColumn) {entries : List Entry}
    (hkeys : ∀ e ∈ entries, e.key ≠ []) : (table.merge language entries).rows.map fieldOf
      = entries.foldl (mergeRow language) (table.rows.map fieldOf) :=
  rows_foldl_add hlanguage hkeys (indexed_placesOf table.rows)

end Index

section Texts

variable {rows : List Fields} {entries : List Entry} {e : Entry} {key : Text}

theorem lastText?_cons_self (entries : List Entry) (e : Entry) :
    lastText? (e :: entries) e.key = some ((lastText? entries e.key).getD e.text) := by
  simp only [lastText?, List.filter_cons, decide_true, if_true, List.getLast?_cons]
  cases (entries.filter fun other => other.key = e.key).getLast? <;> rfl

theorem lastText?_cons_ne (entries : List Entry) (h : e.key ≠ key) :
    lastText? (e :: entries) key = lastText? entries key := by
  simp [lastText?, h]

theorem lastText?_eq_none (h : ∀ e ∈ entries, e.key ≠ key) : lastText? entries key = none := by
  simpa [lastText?] using h

theorem newKeys_mergeRow_of_place {language : Text} (hlanguage : language ≠ keyColumn) {i : Nat}
    (h : place? rows e.key = some i) :
    newKeys (mergeRow language rows e) entries = newKeys rows (e :: entries) := by
  have hplace : place? (mergeRow language rows e) = place? rows := by
    funext key
    rw [mergeRow_of_place h, place?_congr (keys_modify hlanguage e.text)]
  simp [newKeys, hplace, h]

theorem newKeys_cons_of_new {language : Text} (hlanguage : language ≠ keyColumn)
    (h : place? rows e.key = none) : newKeys rows (e :: entries)
      = e.key :: newKeys (mergeRow language rows e) entries := by
  simp only [newKeys, List.map_cons, List.filter_cons, h, Option.isNone_none, if_true,
    List.eraseDups_cons, List.filter_filter]
  congr 2
  refine List.filter_congr fun key _ => ?_
  rw [place?_mergeRow hlanguage]
  by_cases hkey : e.key = key
  · simp [hkey]
  · simp [hkey, Ne.symm hkey]

theorem ne_of_mem_newKeys (hplace : (place? rows e.key).isSome) (h : key ∈ newKeys rows entries) :
    e.key ≠ key := by
  rintro rfl
  rw [newKeys, List.mem_eraseDups, List.mem_filter] at h
  rw [Option.isNone_iff_eq_none.1 h.2] at hplace
  cases hplace

end Texts

section Run

variable {language : Text} {rows : List Fields}

/-- A row after a merge: the last text for its key is set, if it is the first row with the key. -/
def mergedRow (language : Text) (rows : List Fields) (entries : List Entry) (i : Nat)
    (row : Fields) : Fields :=
  if place? rows (row keyColumn) = some i then
    Function.update row language ((lastText? entries (row keyColumn)).getD (row language))
  else row

theorem mergedRow_nil (i : Nat) (row : Fields) : mergedRow language rows [] i row = row := by
  simp [mergedRow, lastText?]

theorem getElem?_mergeRow {i : Nat} {row : Fields} (h : rows[i]? = some row) (e : Entry) :
    (mergeRow language rows e)[i]?
      = some (if place? rows e.key = some i then Function.update row language e.text else row) := by
  cases hplace : place? rows e.key with
  | some j =>
    rw [mergeRow_of_place hplace, List.getElem?_modify, h]
    by_cases hj : j = i <;> simp [hj]
  | none =>
    rw [mergeRow_of_new hplace, List.getElem?_append_left (List.getElem?_eq_some_iff.1 h).1, h]
    simp

/-- What an entry does to a row, and what the rest do to it then, is what all of them do. -/
theorem mergedRow_mergeRow (hlanguage : language ≠ keyColumn) {i : Nat} {row : Fields}
    (h : rows[i]? = some row) (e : Entry) (entries : List Entry) :
    mergedRow language (mergeRow language rows e) entries i
        (if place? rows e.key = some i then Function.update row language e.text else row)
      = mergedRow language rows (e :: entries) i row := by
  obtain ⟨j, hj⟩ := Option.isSome_iff_exists.1 (isSome_place? (List.mem_of_getElem? h))
  have hplace : place? (mergeRow language rows e) (row keyColumn) = some j := by
    rw [place?_mergeRow hlanguage, hj]
    rfl
  by_cases hkey : e.key = row keyColumn
  · rw [hkey, hj]
    by_cases hi : j = i
    · subst hi
      have hlast : lastText? (e :: entries) (row keyColumn)
          = some ((lastText? entries (row keyColumn)).getD e.text) :=
        hkey ▸ lastText?_cons_self entries e
      rw [if_pos rfl, mergedRow, mergedRow, Function.update_of_ne hlanguage.symm, hplace, hj,
        if_pos rfl, if_pos rfl, Function.update_idem, Function.update_self, hlast]
      rfl
    · simp [mergedRow, hj, hplace, hi]
  · have hne : place? rows e.key ≠ some i := fun heq => by
      obtain ⟨found, hfound, hfoundKey⟩ := key_of_place? heq
      rw [h, Option.some.injEq] at hfound
      exact hkey (hfound ▸ hfoundKey.symm)
    simp only [mergedRow, if_neg hne, hplace, hj, lastText?_cons_ne entries hkey]

theorem getElem?_foldl_mergeRow (hlanguage : language ≠ keyColumn) (entries : List Entry) {i : Nat}
    {row : Fields} (h : rows[i]? = some row) : (entries.foldl (mergeRow language) rows)[i]?
      = some (mergedRow language rows entries i row) := by
  induction entries generalizing rows row with
  | nil => rw [List.foldl_nil, mergedRow_nil, h]
  | cons e entries ih =>
    rw [List.foldl_cons, ih (getElem?_mergeRow h e), mergedRow_mergeRow hlanguage h]

theorem mergedRow_newRow (hlanguage : language ≠ keyColumn) {e : Entry} (entries : List Entry)
    (hnew : place? rows e.key = none) : mergedRow language (mergeRow language rows e) entries
        rows.length (newRow language e.key e.text)
      = newRow language e.key ((lastText? (e :: entries) e.key).getD []) := by
  have hplace : place? (mergeRow language rows e) e.key = some rows.length := by
    simp [place?_mergeRow hlanguage, hnew]
  rw [mergedRow, key_newRow hlanguage, if_pos hplace, lastText?_cons_self]
  simp [newRow]

theorem drop_foldl_mergeRow (hlanguage : language ≠ keyColumn) (entries : List Entry) :
    (entries.foldl (mergeRow language) rows).drop rows.length
      = (newKeys rows entries).map fun key =>
          newRow language key ((lastText? entries key).getD []) := by
  induction entries generalizing rows with
  | nil => simp [newKeys]
  | cons e entries ih =>
    have hplaced : (place? (mergeRow language rows e) e.key).isSome := by
      rw [place?_mergeRow hlanguage]
      cases place? rows e.key <;> simp
    have htexts : (newKeys (mergeRow language rows e) entries).map
          (fun key => newRow language key ((lastText? entries key).getD []))
        = (newKeys (mergeRow language rows e) entries).map
          fun key => newRow language key ((lastText? (e :: entries) key).getD []) :=
      List.map_congr_left fun key hkey => by
        rw [lastText?_cons_ne entries (ne_of_mem_newKeys hplaced hkey)]
    rw [List.foldl_cons]
    cases hplace : place? rows e.key with
    | some i =>
      have hlength : (mergeRow language rows e).length = rows.length := by
        rw [mergeRow_of_place hplace, List.length_modify]
      rw [← newKeys_mergeRow_of_place hlanguage hplace, ← htexts, ← ih, hlength]
    | none =>
      have hrows : (mergeRow language rows e)[rows.length]?
          = some (newRow language e.key e.text) := by
        simp [mergeRow_of_new hplace]
      have hlength : (mergeRow language rows e).length = rows.length + 1 := by
        simp [mergeRow_of_new hplace]
      have hfirst := getElem?_foldl_mergeRow hlanguage entries hrows
      rw [mergedRow_newRow hlanguage entries hplace] at hfirst
      rw [newKeys_cons_of_new hlanguage hplace, List.map_cons, ← htexts, ← ih, hlength]
      obtain ⟨hlt, hget⟩ := List.getElem?_eq_some_iff.1 hfirst
      rw [List.drop_eq_getElem_cons hlt, hget]

end Run

end Localization

end MarkedSheet
