import MarkedSheet.Emission.Page
import MarkedSheet.Localization.Entry
import MarkedSheet.Localization.Template

/-!
# Harvesting localized texts

Every localization column is read from top to bottom, the columns from left to right. A row belongs
to the last key at or above it in the primary column. What a row gives is an entry, a warning or a
fault of the template; the harvest ends at the first fault.
-/

namespace MarkedSheet

namespace Localization

/-- The template for keys of values unless another is chosen. -/
def defaultTemplate : Text := "DOTA_Tooltip_ability_\x7bkey\x7d_\x7blabel\x7d".toList

/-- The usual template, for the parts that the program knows itself. -/
def usualTemplate : Template := ⟨defaultTemplate, .usual⟩

/-- What one row of a localization column gives. -/
inductive Finding
  | entry (e : Entry)
  | warning (w : Warning)
  | fault (e : TemplateError)
  deriving DecidableEq, Repr

/-- The entries, the warnings and the fault of a harvest. -/
structure Harvest where
  entries : List Entry
  warnings : List Warning
  fault : Option TemplateError
  deriving DecidableEq, Repr

/-- The key of the object that each row belongs to, where `current` is the key above the rows. -/
def carriedKeys (primary : Option Nat) (current : Option Text) : List Row → List (Option Text)
  | [] => []
  | row :: rest =>
    let key := match primary with
      | some col =>
        let cell := row.cell col
        if cell.isBlank then current else some cell.trimmed
      | none => current
    key :: carriedKeys primary key rest

/-- The label of the value to the left of a column: the key beside it, if that is a key column, else
its title. -/
def labelOf (schema : Schema) (row : Row) (col : Nat) : Except (Option Warning) Text :=
  match col with
  | 0 => .error (some (.noLeftColumn col))
  | left + 1 =>
    if schema.kinds[left]? = some .key then
      let cell := row.cell left
      if cell.isBlank then .error none else .ok cell.trimmed
    else .ok (schema.title left)

/-- What a row gives in a localization column, under the key it belongs to. -/
def rowFindings (page : Page) (template : Template) (col : Nat) (kind : Kind) (r : Nat) (row : Row)
    (key : Option Text) : List Finding :=
  let cell := row.cell col
  if cell.isBlank then []
  else match key with
    | none => [.warning (.textWithoutKey (page.rowNumber r) col)]
    | some key =>
      if kind = .locSingle then
        [.entry ⟨singleKey (page.schema.title col) key, cell.text⟩]
      else match labelOf page.schema row col with
        | .error none => []
        | .error (some w) => [.warning w]
        | .ok label => match template.format key label with
          | .ok entryKey => [.entry ⟨entryKey, cell.text⟩]
          | .error e => [.fault e]

/-- What a localization column gives. -/
def columnFindings (page : Page) (template : Template) (col : Nat) (kind : Kind) : List Finding :=
  ((page.rows.zip (carriedKeys page.schema.primary? none page.rows)).zipIdx).flatMap
    fun ((row, key), r) => rowFindings page template col kind r row key

/-- What the localization columns give, one after another. -/
def findings (page : Page) (template : Template) : List Finding :=
  page.schema.kinds.zipIdx.flatMap fun (kind, col) =>
    if kind = .locSingle || kind = .locValues then columnFindings page template col kind else []

/-- The findings up to the first fault. -/
def Harvest.ofFindings : List Finding → Harvest
  | [] => ⟨[], [], none⟩
  | .fault e :: _ => ⟨[], [], some e⟩
  | .entry e :: rest =>
    let harvest := ofFindings rest
    { harvest with entries := e :: harvest.entries }
  | .warning w :: rest =>
    let harvest := ofFindings rest
    { harvest with warnings := w :: harvest.warnings }

/-- The localized texts of a page, with keys of values by a template. -/
def harvest (page : Page) (template : Template) : Harvest :=
  .ofFindings (findings page template)

@[simp] theorem length_carriedKeys (primary : Option Nat) (current : Option Text)
    (rows : List Row) : (carriedKeys primary current rows).length = rows.length := by
  induction rows generalizing current with
  | nil => rfl
  | cons row rest ih => simp [carriedKeys, ih]

end Localization

end MarkedSheet
