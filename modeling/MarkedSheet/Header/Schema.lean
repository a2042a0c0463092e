import MarkedSheet.Header.Kind
import MarkedSheet.Warning

/-!
# The schema of a sheet

The title row is read once: every column gets its title and its kind. The primary column holds the
keys of the objects; it is the first column that is not an annotation (`primary?_isSome_iff`).
-/

namespace MarkedSheet

/-- A column with its title, outer blanks taken off. -/
structure Column where
  title : Text
  kind : Kind
  deriving DecidableEq, Repr

/-- The columns of a sheet. -/
structure Schema where
  columns : List Column
  deriving DecidableEq, Repr

/-- The warnings about the titles of a title row. -/
def titleWarnings (titles : Row) : List Warning :=
  titles.zipIdx.filterMap fun (header, col) =>
    if header.hasOuterSpace then some (.titleSpace header.text col) else none

namespace Schema

/-- The schema that a title row gives. -/
def ofTitles (titles : Row) : Schema :=
  ⟨titles.map fun header => ⟨header.trimmed, Kind.ofHeader header⟩⟩

/-- The number of columns. -/
def width (s : Schema) : Nat :=
  s.columns.length

/-- The titles of the columns. -/
def titles (s : Schema) : List Text :=
  s.columns.map (·.title)

/-- The kinds of the columns. -/
def kinds (s : Schema) : List Kind :=
  s.columns.map (·.kind)

/-- The title of a column, empty past the last. -/
def title (s : Schema) (col : Nat) : Text :=
  (s.titles[col]?).getD []

/-- The column that holds the keys of the objects. -/
def primary? (s : Schema) : Option Nat :=
  s.kinds.findIdx? fun kind => !kind.annotates

/-- The column that holds the names of the objects. -/
def nameNote? (s : Schema) : Option Nat :=
  s.kinds.findIdx? (· = .nameNote)

/-- The columns that are not ignored. -/
def meaningful (s : Schema) : List Nat :=
  (List.range s.width).filter fun col => s.kinds[col]? != some .ignored

/-- The sheet is a plain list of keys and values. -/
def isSimple (s : Schema) : Bool :=
  s.meaningful.length = 2

@[simp] theorem length_kinds (s : Schema) : s.kinds.length = s.width := by
  simp [kinds, width]

@[simp] theorem width_ofTitles (titles : Row) : (ofTitles titles).width = titles.length := by
  simp [ofTitles, width]

theorem kinds_ofTitles (titles : Row) : (ofTitles titles).kinds = titles.map Kind.ofHeader := by
  simp [ofTitles, kinds]

theorem primary?_isSome_iff (s : Schema) :
    s.primary?.isSome ↔ ∃ kind ∈ s.kinds, kind.annotates = false := by
  simp [primary?, List.findIdx?_isSome]

theorem meaningful_of_isSimple {s : Schema} (h : s.isSimple) :
    ∃ keyCol valueCol, s.meaningful = [keyCol, valueCol] := by
  have htwo : s.meaningful.length = 2 := by simpa [isSimple] using h
  rcases hcols : s.meaningful with _ | ⟨keyCol, _ | ⟨valueCol, _ | _⟩⟩ <;> simp_all

theorem mem_meaningful {s : Schema} {col : Nat} {kind : Kind} (hkind : s.kinds[col]? = some kind)
    (hne : kind ≠ .ignored) : col ∈ s.meaningful := by
  have hcol : col < s.width := by
    rw [← s.length_kinds]
    exact (List.getElem?_eq_some_iff.1 hkind).1
  refine List.mem_filter.2 ⟨List.mem_range.2 hcol, ?_⟩
  rw [hkind]
  simpa using hne

theorem exists_kind {s : Schema} {col : Nat} (h : col ∈ s.meaningful) :
    ∃ kind, s.kinds[col]? = some kind ∧ kind ≠ .ignored := by
  obtain ⟨hcol, hne⟩ := List.mem_filter.1 h
  have hlt : col < s.kinds.length := by simpa using hcol
  rw [List.getElem?_eq_getElem hlt] at hne
  exact ⟨_, List.getElem?_eq_getElem hlt, by simpa using hne⟩

theorem kind_primary {s : Schema} {primary : Nat} (h : s.primary? = some primary) :
    ∃ kind, s.kinds[primary]? = some kind ∧ kind.annotates = false := by
  obtain ⟨hlt, hkind, -⟩ := List.findIdx?_eq_some_iff_getElem.1 h
  exact ⟨s.kinds[primary], List.getElem?_eq_getElem hlt, by simpa using hkind⟩

theorem primary_mem_meaningful {s : Schema} {primary : Nat} (h : s.primary? = some primary) :
    primary ∈ s.meaningful := by
  obtain ⟨kind, hkind, hholds⟩ := kind_primary h
  exact mem_meaningful hkind (by rintro rfl; simp [Kind.annotates] at hholds)

theorem nameNote_mem_meaningful {s : Schema} {col : Nat} (h : s.nameNote? = some col) :
    col ∈ s.meaningful := by
  obtain ⟨hlt, hkind, -⟩ := List.findIdx?_eq_some_iff_getElem.1 h
  exact mem_meaningful (List.getElem?_eq_getElem hlt) (by simp_all)

end Schema

end MarkedSheet
