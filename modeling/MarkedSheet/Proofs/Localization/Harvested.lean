import Mathlib.Data.List.Basic
import MarkedSheet.Proofs.Emission.Entries
import MarkedSheet.Proofs.Sheet.Carried

/-!
# What is harvested

A harvest without a fault has, column by column and row by row, an entry for each text whose object
has a key and whose value, if it stands for one, has a label. Texts without a key are told
(`harvest_eq`). Under which key a row belongs is left open here: only the keys that are carried down
the rows matter.
-/

namespace MarkedSheet

namespace Localization

/-- The entry found, if it is one. -/
def Finding.found? : Finding → Option Entry
  | .entry e => some e
  | _ => none

/-- The warning found, if it is one. -/
def Finding.told? : Finding → Option Warning
  | .warning w => some w
  | _ => none

section Harvests

theorem ofFindings_eq : ∀ {findings : List Finding}, (∀ e, Finding.fault e ∉ findings) →
    Harvest.ofFindings findings
      = ⟨findings.filterMap Finding.found?, findings.filterMap Finding.told?, none⟩
  | [], _ => rfl
  | finding :: rest, h => by
    have ih := ofFindings_eq fun e he => h e (List.mem_cons_of_mem finding he)
    cases finding with
    | entry e => rw [Harvest.ofFindings, ih]; rfl
    | warning w => rw [Harvest.ofFindings, ih]; rfl
    | fault e => exact absurd List.mem_cons_self (h e)

theorem mem_entries_ofFindings {e : Entry} : ∀ {findings : List Finding},
    e ∈ (Harvest.ofFindings findings).entries → .entry e ∈ findings
  | .entry first :: rest, h => by
    rcases List.mem_cons.1 h with rfl | h
    · exact List.mem_cons_self
    · exact List.mem_cons_of_mem _ (mem_entries_ofFindings h)
  | .warning w :: rest, h => by
    have h : e ∈ (Harvest.ofFindings rest).entries := h
    exact List.mem_cons_of_mem _ (mem_entries_ofFindings h)

end Harvests

/-- The column holds localized texts. -/
def isLoc (kind : Kind) : Bool :=
  kind = .locSingle || kind = .locValues

section Rows

variable (page : Page)

/-- The label of the value to the left of a column: the key beside it, if that is a key column, else
its title. -/
def label? (r : Nat) : Nat → Option Text
  | 0 => none
  | left + 1 =>
    if page.schema.kinds[left]? = some .key then
      if (page.cellAt r left).isBlank then none else some (page.cellAt r left).trimmed
    else some (page.schema.title left)

/-- The key of the text in a row for an object with a key, if there is one. -/
def entryKey? (template : Template) (kind : Kind) (col r : Nat) (key : Text) : Option Text :=
  if kind = .locSingle then some (singleKey (page.schema.title col) key)
  else (label? page r col).bind fun label => (template.format key label).toOption

variable (keyAt : Nat → Option Text)

/-- The entry of a row: none where there is no text, no key of the object or no key of the text. -/
def rowFound? (template : Template) (kind : Kind) (col r : Nat) : Option Entry :=
  if (page.cellAt r col).isBlank then none
  else (keyAt r).bind fun key => (entryKey? page template kind col r key).map fun entryKey =>
    ⟨entryKey, (page.cellAt r col).text⟩

/-- What is told of a row: a text without a key, or a value that no column can hold. -/
def rowTold? (kind : Kind) (col r : Nat) : Option Warning :=
  if (page.cellAt r col).isBlank then none
  else if keyAt r = none then some (.textWithoutKey (page.rowNumber r) col)
  else if kind = .locValues ∧ col = 0 then some (.noLeftColumn col)
  else none

/-- What the rows give in the columns of localized texts, columns from left to right. -/
def columnwise {β : Type} (rowwise : Kind → Nat → Nat → Option β) : List β :=
  page.schema.kinds.zipIdx.flatMap fun (kind, col) =>
    if isLoc kind then (List.range page.rows.length).filterMap (rowwise kind col) else []

/-- Every key that is wanted of the template can be filled in. -/
def Fills (template : Template) : Prop :=
  ∀ r < page.rows.length, ∀ col < page.schema.width, page.schema.kinds[col]? = some .locValues →
    (page.cellAt r col).isBlank = false → ∀ key ∈ keyAt r, ∀ label ∈ label? page r col,
      (template.format key label).isOk

instance (template : Template) : Decidable (Fills page keyAt template) :=
  inferInstanceAs (Decidable (∀ _ < _, ∀ _ < _, _ → _ → ∀ _ ∈ _, ∀ _ ∈ _, _))

end Rows

section Findings

variable {page : Page} {keyAt : Nat → Option Text} {template : Template} {kind : Kind} {col r : Nat}
  {row : Row}

theorem labelOf_eq (hrow : page.rows[r]? = some row) (hcol : col ≠ 0) :
    labelOf page.schema row col = (label? page r col).elim (.error none) .ok := by
  obtain ⟨left, rfl⟩ := Nat.exists_eq_succ_of_ne_zero hcol
  rw [labelOf, label?, page.cellAt_eq hrow]
  split
  · simp only
    split <;> rfl
  · rfl

/-- A row has at most one finding. Only in the column of a value can the template fail. -/
theorem rowFindings_eq (hkind : isLoc kind) (hrow : page.rows[r]? = some row)
    (hfills : kind = .locValues → (page.cellAt r col).isBlank = false → ∀ key ∈ keyAt r,
      ∀ label ∈ label? page r col, (template.format key label).isOk) :
    rowFindings page template col kind r row (keyAt r)
      = ((rowFound? page keyAt template kind col r).map Finding.entry).toList
        ++ ((rowTold? page keyAt kind col r).map Finding.warning).toList := by
  unfold rowFindings rowFound? rowTold?
  rw [page.cellAt_eq hrow] at hfills ⊢
  by_cases hblank : (row.cell col).isBlank
  · simp [hblank]
  cases hkey : keyAt r with
  | none => simp [hblank]
  | some key =>
    by_cases hsingle : kind = .locSingle
    · simp [hblank, hsingle, entryKey?]
    have hvalues : kind = .locValues := by simpa [isLoc, hsingle] using hkind
    subst hvalues
    by_cases hcol : col = 0
    · subst hcol
      simp [hblank, entryKey?, labelOf, label?]
    · cases hlabel : label? page r col with
      | none => simp [hblank, hcol, entryKey?, labelOf_eq hrow hcol, hlabel]
      | some label =>
        have hok := hfills rfl (by simpa using hblank) key hkey label hlabel
        cases hformat : template.format key label with
        | error e => simp [hformat, Except.isOk, Except.toBool] at hok
        | ok entryKey =>
          simp [hblank, hcol, entryKey?, labelOf_eq hrow hcol, hlabel, hformat, Except.toOption]

variable (hkeys : carriedKeys page.schema.primary? none page.rows
  = (List.range page.rows.length).map keyAt)

include hkeys

theorem columnFindings_eq (template : Template) (col : Nat) (kind : Kind) :
    columnFindings page template col kind = (List.range page.rows.length).flatMap fun r =>
      rowFindings page template col kind r ((page.rows[r]?).getD []) (keyAt r) := by
  have hrows : (page.rows.zip (carriedKeys page.schema.primary? none page.rows)).zipIdx
      = (List.range page.rows.length).map fun r => (((page.rows[r]?).getD [], keyAt r), r) := by
    rw [hkeys]
    refine List.ext_getElem (by simp) fun i h _ => ?_
    have hi : i < page.rows.length := by simpa using h
    simp [hi]
  rw [columnFindings, hrows, List.flatMap_map]

/-- The findings are those of the rows, column by column. -/
theorem findings_eq (hfills : Fills page keyAt template) :
    findings page template = page.schema.kinds.zipIdx.flatMap fun (kind, col) =>
      if isLoc kind then (List.range page.rows.length).flatMap fun r =>
        ((rowFound? page keyAt template kind col r).map Finding.entry).toList
          ++ ((rowTold? page keyAt kind col r).map Finding.warning).toList
      else [] := by
  refine List.flatMap_congr ?_
  rintro ⟨kind, col⟩ hcol
  change (if isLoc kind then columnFindings page template col kind else []) = _
  simp only
  split
  next hkind =>
    rw [columnFindings_eq hkeys]
    refine List.flatMap_congr fun r hr => ?_
    have hrow := List.getElem?_eq_getElem (List.mem_range.1 hr)
    have hcol := List.mem_zipIdx_iff_getElem?.1 hcol
    have hwidth : col < page.schema.width := by
      rw [← page.schema.length_kinds]
      exact (List.getElem?_eq_some_iff.1 hcol).1
    rw [hrow]
    exact rowFindings_eq hkind hrow fun hvalues =>
      hfills r (List.mem_range.1 hr) col hwidth (hvalues ▸ hcol)
  next => rfl

/-- What is harvested where no fault is found. -/
theorem harvest_eq (hfills : Fills page keyAt template) :
    harvest page template = ⟨columnwise page (rowFound? page keyAt template),
      columnwise page (rowTold? page keyAt), none⟩ := by
  have hfindings := findings_eq hkeys hfills
  have hsound : ∀ e, Finding.fault e ∉ findings page template := by
    intro e he
    rw [hfindings] at he
    obtain ⟨⟨kind, col⟩, -, he⟩ := List.mem_flatMap.1 he
    simp only at he
    split at he
    · obtain ⟨r, -, he⟩ := List.mem_flatMap.1 he
      simp at he
    · simp at he
  -- One of the two lists of findings is left of every row.
  have hpick : ∀ {β : Type} (pick : Finding → Option β) (rowwise : Kind → Nat → Nat → Option β),
      (∀ kind col r, (((rowFound? page keyAt template kind col r).map Finding.entry).toList
        ++ ((rowTold? page keyAt kind col r).map Finding.warning).toList).filterMap pick
          = (rowwise kind col r).toList) →
      (findings page template).filterMap pick = columnwise page rowwise := by
    intro β pick rowwise hrow
    rw [hfindings, List.filterMap_flatMap, columnwise]
    refine List.flatMap_congr ?_
    rintro ⟨kind, col⟩ -
    simp only
    split
    · rw [List.filterMap_flatMap, List.filterMap_eq_flatMap_toList]
      exact List.flatMap_congr fun r _ => hrow kind col r
    · rfl
  rw [harvest, ofFindings_eq hsound, hpick _ (rowFound? page keyAt template) ?_,
    hpick _ (rowTold? page keyAt) ?_]
  · intro kind col r
    cases rowFound? page keyAt template kind col r <;>
      cases rowTold? page keyAt kind col r <;> rfl
  · intro kind col r
    cases rowFound? page keyAt template kind col r <;>
      cases rowTold? page keyAt kind col r <;> rfl

end Findings

section Conditions

variable {page : Page} {template : Template}

theorem carriedKeys_none (rows : List Row) :
    carriedKeys none none rows = List.replicate rows.length none := by
  induction rows with
  | nil => rfl
  | cons row rest ih => rw [carriedKeys, ih]; rfl

theorem exists_key_of_entry {e : Entry} {col r : Nat} {kind : Kind} {row : Row} {key : Option Text}
    (h : .entry e ∈ rowFindings page template col kind r row key) : ∃ k, key = some k := by
  cases key with
  | some k => exact ⟨k, rfl⟩
  | none =>
    unfold rowFindings at h
    simp only at h
    split at h <;> simp at h

/-- Without keys of objects and a column of localized texts nothing is found. -/
theorem exists_of_mem_entries {e : Entry} (h : e ∈ (harvest page template).entries) :
    (∃ primary, page.schema.primary? = some primary)
      ∧ ∃ kind, ∃ col : Nat, isLoc kind ∧ page.schema.kinds[col]? = some kind := by
  obtain ⟨⟨kind, col⟩, hcol, hmem⟩ := List.mem_flatMap.1 (mem_entries_ofFindings h)
  replace hmem : .entry e ∈ if isLoc kind then columnFindings page template col kind else [] := hmem
  split at hmem
  next hkind =>
    refine ⟨?_, kind, col, hkind, List.mem_zipIdx_iff_getElem?.1 hcol⟩
    obtain ⟨⟨⟨row, key⟩, r⟩, hrow, hentry⟩ := List.mem_flatMap.1 hmem
    obtain ⟨k, rfl⟩ := exists_key_of_entry hentry
    cases hprimary : page.schema.primary? with
    | some primary => exact ⟨primary, rfl⟩
    | none =>
      have hzip := List.mem_of_getElem? (List.mem_zipIdx_iff_getElem?.1 hrow)
      have hkey := (List.of_mem_zip hzip).2
      rw [hprimary, carriedKeys_none] at hkey
      exact absurd (List.eq_of_mem_replicate hkey) (by simp)
  next => simp at hmem

end Conditions

section UsualTemplate

open Template

variable (attributes : Attributes)

theorem fill_literals (values : List (Text × Text)) (depth : Nat) (t : Text) (rest : List Piece) :
    fill attributes values depth (t.map (fun c => .literal [c]) ++ rest)
      = (fill attributes values depth rest).map (t ++ ·) := by
  induction t with
  | nil => cases h : fill attributes values depth rest <;> simp [h, Except.map]
  | cons c t ih =>
    rw [List.map_cons, List.cons_append, fill, ih]
    cases fill attributes values depth rest <;> rfl

theorem fill_field (values : List (Text × Text)) (depth : Nat) {name value : Text}
    (rest : List Piece) (h : lookUp attributes values name = .ok { text := value }) :
    fill attributes values (depth + 1) (.field ⟨name, none, []⟩ :: rest)
      = (fill attributes values (depth + 1) rest).map (value ++ ·) := by
  rw [fill, h]
  cases fill attributes values (depth + 1) rest <;> rfl

theorem pieces_defaultTemplate : pieces defaultTemplate
    = "DOTA_Tooltip_ability_".toList.map (fun c => .literal [c])
      ++ [.field ⟨"key".toList, none, []⟩, .literal ['_'], .field ⟨"label".toList, none, []⟩] := by
  decide +kernel

variable {template : Template} (h : template.source = defaultTemplate)

include h

/-- The usual template can always be filled in. -/
theorem format_defaultTemplate (key label : Text) : template.format key label
    = .ok ("DOTA_Tooltip_ability_".toList ++ (key ++ '_' :: label)) := by
  have hkey : lookUp template.attributes [("key".toList, key), ("label".toList, label)]
      "key".toList = .ok { text := key } := rfl
  have hlabel : lookUp template.attributes [("key".toList, key), ("label".toList, label)]
      "label".toList = .ok { text := label } := rfl
  rw [Template.format, h, pieces_defaultTemplate, fill_literals, fill_field _ _ 0 _ hkey, fill,
    fill_field _ _ 0 _ hlabel, fill]
  simp [Except.map]

theorem fills_defaultTemplate (page : Page) (keyAt : Nat → Option Text) :
    Fills page keyAt template := by
  intro r _ col _ _ _ key _ label _
  rw [format_defaultTemplate h]
  rfl

end UsualTemplate

end Localization

end MarkedSheet
