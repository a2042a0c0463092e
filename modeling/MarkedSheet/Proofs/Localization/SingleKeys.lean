import MarkedSheet.Proofs.Localization.Harvested
import MarkedSheet.Proofs.Sheet.Coarsest
import MarkedSheet.Proofs.Text.Between
import MarkedSheet.Proofs.Text.Trimmed

/-!
# Keys of texts in a column of their own

A title with a place for the key of an object gives the texts of different objects different keys
(`singleKey_eq_iff`), so two texts of a column have one key exactly if they belong to one object
(`columnTexts_key_iff`). What a column adds to a harvest does not depend on the other columns, as
long as no template fails before it (`entries_harvest`).
-/

namespace MarkedSheet

namespace Localization

section Keys

/-- What can be the key of an object: a text without outer blanks that is not empty. -/
structure IsKey (key : Text) : Prop where
  trimmed : key.trim = key
  ne_nil : key ≠ []

/-- The title has a place for the key of the object. -/
def HasPlace (title : Text) : Prop :=
  keyPlace <:+: Text.replaceFirst Kind.locMarker [] title

instance (title : Text) : Decidable (HasPlace title) :=
  inferInstanceAs (Decidable (_ <:+: _))

variable {title p q : Text}

/-- The key of an object stands within its text's key as it is: what is trimmed off stands in the
title, farther out. -/
theorem exists_singleKey (h : HasPlace title) :
    ∃ front back : Text, ∀ key, IsKey key → singleKey title key = front ++ (key ++ back) := by
  obtain ⟨before, after, -, hnew⟩ := Text.exists_replaceFirst h
  refine ⟨before.trimStart, after.trimEnd, fun key hkey => ?_⟩
  rw [singleKey, hnew, Text.trim_around hkey.trimmed hkey.ne_nil]

theorem singleKey_eq_iff (h : HasPlace title) (hp : IsKey p) (hq : IsKey q) :
    singleKey title p = singleKey title q ↔ p = q := by
  obtain ⟨front, back, hkey⟩ := exists_singleKey h
  rw [hkey p hp, hkey q hq, List.append_cancel_left_eq, List.append_cancel_right_eq]

end Keys

section Objects

variable (page : Page)

/-- The key of the object that a row belongs to: the last key in the primary column from the first
row to this one. -/
def objectKey? (r : Nat) : Option Text :=
  page.schema.primary?.bind fun primary => RowGroup.lastKey page.rows primary 0 r

theorem isKey_of_lastKey {rows : List Row} {col start r : Nat} {key : Text}
    (h : RowGroup.lastKey rows col start r = some key) : IsKey key := by
  obtain ⟨cell, hcell, rfl⟩ := Option.map_eq_some_iff.1 h
  have hblank := (List.mem_filter.1 (List.mem_of_getLast? hcell)).2
  refine ⟨Text.trim_trim cell.text, fun hnil => ?_⟩
  rw [Cell.trimmed_eq_nil_iff.1 hnil] at hblank
  simp at hblank

theorem isKey_of_objectKey? {r : Nat} {key : Text} (h : objectKey? page r = some key) :
    IsKey key := by
  obtain ⟨primary, -, hkey⟩ := Option.bind_eq_some_iff.1 h
  exact isKey_of_lastKey hkey

theorem carriedKeys_eq : carriedKeys page.schema.primary? none page.rows
    = (List.range page.rows.length).map (objectKey? page) := by
  unfold objectKey?
  cases page.schema.primary? with
  | none => simp [carriedKeys_none, List.map_const']
  | some primary =>
    rw [RowGroup.carriedKeys_ofRange]
    refine List.map_congr_left fun r hr => ?_
    exact RowGroup.keyAt_ofRange primary le_rfl (Nat.zero_le r) (List.mem_range.1 hr)

/-- The texts in a column that belong to objects, each with its row, under the keys that the title
gives them. -/
def columnTexts (col : Nat) : List (Nat × Entry) :=
  (List.range page.rows.length).filterMap fun r =>
    if (page.cellAt r col).isBlank then none
    else (objectKey? page r).map fun key =>
      (r, ⟨singleKey (page.schema.title col) key, (page.cellAt r col).text⟩)

variable {page} {col r s : Nat} {e f : Entry}

theorem exists_key_of_mem_columnTexts (h : (r, e) ∈ columnTexts page col) : ∃ key,
    objectKey? page r = some key ∧ e.key = singleKey (page.schema.title col) key := by
  obtain ⟨row, -, hrow⟩ := List.mem_filterMap.1 h
  simp only [Option.ite_none_left_eq_some, Option.map_eq_some_iff, Prod.mk.injEq] at hrow
  obtain ⟨-, key, hkey, rfl, rfl⟩ := hrow
  exact ⟨key, hkey, rfl⟩

theorem columnTexts_key_iff (hplace : HasPlace (page.schema.title col))
    (hr : (r, e) ∈ columnTexts page col) (hs : (s, f) ∈ columnTexts page col) :
    e.key = f.key ↔ objectKey? page r = objectKey? page s := by
  obtain ⟨p, hp, hep⟩ := exists_key_of_mem_columnTexts hr
  obtain ⟨q, hq, hfq⟩ := exists_key_of_mem_columnTexts hs
  rw [hep, hfq, singleKey_eq_iff hplace (isKey_of_objectKey? page hp) (isKey_of_objectKey? page hq),
    hp, hq, Option.some.injEq]

end Objects

section Harvests

theorem ofFindings_append_of_fault {found : List Finding} (later : List Finding)
    (h : (Harvest.ofFindings found).fault ≠ none) :
    Harvest.ofFindings (found ++ later) = Harvest.ofFindings found := by
  induction found with
  | nil => exact absurd rfl h
  | cons finding rest ih =>
    cases finding with
    | fault e => rfl
    | entry e => rw [List.cons_append, Harvest.ofFindings, ih h, Harvest.ofFindings]
    | warning w => rw [List.cons_append, Harvest.ofFindings, ih h, Harvest.ofFindings]

theorem entries_ofFindings_append {found : List Finding} (later : List Finding)
    (h : (Harvest.ofFindings found).fault = none) :
    (Harvest.ofFindings (found ++ later)).entries
      = (Harvest.ofFindings found).entries ++ (Harvest.ofFindings later).entries := by
  induction found with
  | nil => rfl
  | cons finding rest ih =>
    cases finding with
    | fault e => simp [Harvest.ofFindings] at h
    | entry e => simp only [List.cons_append, Harvest.ofFindings, ih h]
    | warning w => simp only [List.cons_append, Harvest.ofFindings, ih h]

variable (page : Page) (template : Template)

/-- What a column gives: nothing, if it does not hold localized texts. -/
def kindFindings (column : Kind × Nat) : List Finding :=
  if isLoc column.1 then columnFindings page template column.2 column.1 else []

/-- What the columns to the left of a column give. -/
def findingsBefore (col : Nat) : List Finding :=
  (page.schema.kinds.zipIdx.take col).flatMap (kindFindings page template)

theorem findings_eq_append {col : Nat} (h : page.schema.kinds[col]? = some .locSingle) :
    ∃ later, findings page template = findingsBefore page template col
      ++ (columnFindings page template col .locSingle ++ later) := by
  have hcolumn : page.schema.kinds.zipIdx[col]? = some (.locSingle, col) := by simp [h]
  obtain ⟨hlt, hget⟩ := List.getElem?_eq_some_iff.1 hcolumn
  have hfindings : findings page template
      = page.schema.kinds.zipIdx.flatMap (kindFindings page template) := rfl
  refine ⟨(page.schema.kinds.zipIdx.drop (col + 1)).flatMap (kindFindings page template), ?_⟩
  rw [hfindings, ← List.take_append_drop col page.schema.kinds.zipIdx, List.flatMap_append,
    List.take_append_drop, List.drop_eq_getElem_cons hlt, hget, List.flatMap_cons]
  rfl

/-- A column of texts of objects gives its texts, and has no template that could fail. -/
theorem ofFindings_columnFindings (col : Nat) :
    (Harvest.ofFindings (columnFindings page template col .locSingle)).entries
        = (columnTexts page col).map Prod.snd
      ∧ (Harvest.ofFindings (columnFindings page template col .locSingle)).fault = none := by
  have hrows : columnFindings page template col .locSingle
      = (List.range page.rows.length).flatMap fun r =>
        ((rowFound? page (objectKey? page) template .locSingle col r).map Finding.entry).toList
          ++ ((rowTold? page (objectKey? page) .locSingle col r).map Finding.warning).toList := by
    rw [columnFindings_eq (carriedKeys_eq page)]
    refine List.flatMap_congr fun r hr => ?_
    have hrow := List.getElem?_eq_getElem (List.mem_range.1 hr)
    rw [hrow]
    exact rowFindings_eq rfl hrow fun hvalues => by cases hvalues
  have hsound : ∀ e, Finding.fault e ∉ columnFindings page template col .locSingle := by
    intro e he
    rw [hrows] at he
    obtain ⟨r, -, he⟩ := List.mem_flatMap.1 he
    simp at he
  rw [ofFindings_eq hsound]
  refine ⟨?_, rfl⟩
  simp only [hrows, List.filterMap_flatMap, columnTexts, List.map_filterMap]
  rw [List.filterMap_eq_flatMap_toList]
  refine List.flatMap_congr fun r _ => ?_
  unfold rowFound? rowTold?
  by_cases hblank : (page.cellAt r col).isBlank
  · simp [hblank]
  · cases hkey : objectKey? page r <;> simp [hblank, entryKey?, Finding.found?]

/-- A harvest that comes as far as a column of texts of objects has the texts of the column after
what it had before. -/
theorem entries_harvest {col : Nat} (h : page.schema.kinds[col]? = some .locSingle)
    (hbefore : (Harvest.ofFindings (findingsBefore page template col)).fault = none) :
    ∃ after, (harvest page template).entries
      = (Harvest.ofFindings (findingsBefore page template col)).entries
        ++ ((columnTexts page col).map Prod.snd ++ after) := by
  obtain ⟨later, hfindings⟩ := findings_eq_append page template h
  obtain ⟨hown, hfault⟩ := ofFindings_columnFindings page template col
  refine ⟨(Harvest.ofFindings later).entries, ?_⟩
  rw [harvest, hfindings, entries_ofFindings_append _ hbefore, entries_ofFindings_append _ hfault,
    hown]

theorem harvest_of_fault {col : Nat} (h : page.schema.kinds[col]? = some .locSingle)
    (hbefore : (Harvest.ofFindings (findingsBefore page template col)).fault ≠ none) :
    harvest page template = Harvest.ofFindings (findingsBefore page template col) := by
  obtain ⟨later, hfindings⟩ := findings_eq_append page template h
  rw [harvest, hfindings, ofFindings_append_of_fault _ hbefore]

end Harvests

/-- Under a title with a place for the key of an object different objects have different keys. So
two of the texts that a column with this title adds to a harvest have one key exactly if their rows
have one key carried down to them. A harvest that fails before the column has none of its texts. -/
theorem keys_tell_objects_apart {title : Text} (hplace : HasPlace title) :
    (∀ p q, IsKey p → IsKey q → (singleKey title p = singleKey title q ↔ p = q))
    ∧ ∀ (page : Page) (template : Template) (col : Nat), page.schema.title col = title →
      page.schema.kinds[col]? = some .locSingle →
      (∀ r e s f, (r, e) ∈ columnTexts page col → (s, f) ∈ columnTexts page col →
        (e.key = f.key ↔ objectKey? page r = objectKey? page s))
      ∧ ((Harvest.ofFindings (findingsBefore page template col)).fault = none →
        ∃ after, (harvest page template).entries
          = (Harvest.ofFindings (findingsBefore page template col)).entries
            ++ ((columnTexts page col).map Prod.snd ++ after))
      ∧ ((Harvest.ofFindings (findingsBefore page template col)).fault ≠ none →
        harvest page template = Harvest.ofFindings (findingsBefore page template col)) := by
  refine ⟨fun p q => singleKey_eq_iff hplace, ?_⟩
  rintro page template col rfl hkind
  exact ⟨fun r e s f => columnTexts_key_iff hplace, entries_harvest page template hkind,
    harvest_of_fault page template hkind⟩

/-- The title has its first place only once the marker is gone. -/
def bracedTitle : Text := "\x7b#Loc\x7d_#Loc\x7b\x7d".toList

/-- Two objects whose keys look like a place and like the marker. -/
def bracedPage : Page where
  schema := .ofTitles [some "id".toList, some (bracedTitle ++ [' '])]
  rows := [["\x7b\x7d", "one"], ["", "two"], [" #Loc ", "three"]].map
    (List.map fun t => some t.toList)

theorem bracedPage_keys :
    HasPlace bracedTitle ∧ bracedPage.schema.title 1 = bracedTitle
      ∧ bracedPage.schema.kinds[1]? = some .locSingle
      ∧ columnTexts bracedPage 1 = [(0, ⟨"\x7b\x7d_#Loc\x7b\x7d".toList, "one".toList⟩),
        (1, ⟨"\x7b\x7d_#Loc\x7b\x7d".toList, "two".toList⟩),
        (2, ⟨"#Loc_#Loc\x7b\x7d".toList, "three".toList⟩)]
      ∧ ∀ r e s f, (r, e) ∈ columnTexts bracedPage 1 → (s, f) ∈ columnTexts bracedPage 1 →
        (e.key = f.key ↔ objectKey? bracedPage r = objectKey? bracedPage s) := by
  have hplace : HasPlace bracedTitle := by decide
  have htitle : bracedPage.schema.title 1 = bracedTitle := by decide
  have hkind : bracedPage.schema.kinds[1]? = some .locSingle := by decide
  obtain ⟨-, hpages⟩ := keys_tell_objects_apart hplace
  obtain ⟨hkeys, -, -⟩ := hpages bracedPage usualTemplate 1 htitle hkind
  exact ⟨hplace, htitle, hkind, by decide, hkeys⟩

end Localization

end MarkedSheet
