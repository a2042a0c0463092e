import MarkedSheet.Emission.Pairs
import MarkedSheet.Proofs.Emission.Independence
import MarkedSheet.Proofs.Header.Narrow

/-!
# Ignored columns do not show

A sheet from which all ignored columns are taken, title, note and data cells alike, is written with
the same lines, whether as objects or as a flat list, and it counts as a flat list or not as before
(`narrow_lines`). Its warnings tell the places that the columns have then.
-/

namespace MarkedSheet

namespace Row

/-- The cells that do not stand in an ignored column. What is past the last column stays. -/
def dropIgnored : List Kind → Row → Row
  | [], row => row
  | _ :: _, [] => []
  | kind :: kinds, cell :: row =>
    if kind.isMeaningful then cell :: dropIgnored kinds row else dropIgnored kinds row

/-- The row filled up to the width of the title row, without the cells of ignored columns. -/
def narrow (kinds : List Kind) (row : Row) : Row :=
  dropIgnored kinds (row.rightpad kinds.length none)

theorem cell_dropIgnored : ∀ {kinds : List Kind} {row : Row} {col : Nat} {kind : Kind},
    kinds[col]? = some kind → kind ≠ .ignored →
      (dropIgnored kinds row).cell (narrowCol kinds col) = row.cell col
  | [], _, _, _, hkind, _ => by simp at hkind
  | _ :: _, [], _, _, _, _ => by simp [dropIgnored, cell]
  | first :: kinds, c :: row, 0, kind, hkind, hne => by
    obtain rfl : first = kind := by simpa using hkind
    simp [dropIgnored, Kind.isMeaningful_iff.2 hne, narrowCol, cell]
  | first :: kinds, c :: row, col + 1, kind, hkind, hne => by
    have hrest : kinds[col]? = some kind := by simpa using hkind
    have ih : Row.cell (dropIgnored kinds row) (narrowCol kinds col) = Row.cell row col :=
      cell_dropIgnored hrest hne
    simp only [narrowCol, cell] at ih
    by_cases hfirst : first.isMeaningful <;>
      simp [dropIgnored, hfirst, narrowCol, placeIn_cons_succ, cell, ih]

theorem cell_rightpad (row : Row) (width col : Nat) :
    Row.cell (row.rightpad width none) col = row.cell col := by
  unfold cell List.rightpad
  rcases Nat.lt_or_ge col row.length with hlt | hge
  · rw [List.getElem?_append_left hlt]
  · rw [List.getElem?_append_right hge, List.getElem?_eq_none hge, List.getElem?_replicate]
    split <;> rfl

/-- What a row holds in a meaningful column it holds there when the ignored columns are gone. -/
theorem cell_narrow {kinds : List Kind} (row : Row) {col : Nat} {kind : Kind}
    (hkind : kinds[col]? = some kind) (hne : kind ≠ .ignored) :
    (row.narrow kinds).cell (narrowCol kinds col) = row.cell col := by
  rw [narrow, cell_dropIgnored hkind hne, cell_rightpad]

theorem narrow_titles (titles : Row) : titles.narrow (titles.map Kind.ofHeader)
    = titles.filter fun header => (Kind.ofHeader header).isMeaningful := by
  have hdrop : ∀ titles : Row, dropIgnored (titles.map Kind.ofHeader) titles
      = titles.filter fun header => (Kind.ofHeader header).isMeaningful := by
    intro titles
    induction titles with
    | nil => rfl
    | cons header rest ih => simp only [List.map_cons, dropIgnored, ih, List.filter_cons]
  have hpad : titles.rightpad titles.length none = titles := by simp [List.rightpad]
  rw [narrow, List.length_map, hpad, hdrop]

end Row

namespace Schema

/-- The schema without its ignored columns. -/
def narrow (s : Schema) : Schema :=
  ⟨s.columns.filter fun column => column.kind.isMeaningful⟩

theorem ofTitles_narrow (titles : Row) :
    ofTitles (titles.narrow (titles.map Kind.ofHeader)) = (ofTitles titles).narrow := by
  rw [Row.narrow_titles, ofTitles, ofTitles, narrow, List.filter_map]
  rfl

variable {s : Schema}

theorem kinds_narrow : s.narrow.kinds = s.kinds.filter Kind.isMeaningful := by
  rw [kinds, kinds, narrow, List.filter_map]
  rfl

theorem width_narrow : s.narrow.width = narrowCol s.kinds s.width := by
  rw [← length_kinds, kinds_narrow, ← placeIn_length, length_kinds, narrowCol]

theorem title_narrow {col : Nat} (h : col ∈ s.meaningful) :
    s.narrow.title (narrowCol s.kinds col) = s.title col := by
  obtain ⟨kind, hkind, hne⟩ := exists_kind h
  obtain ⟨column, hcolumn, rfl⟩ : ∃ column, s.columns[col]? = some column ∧ column.kind = kind := by
    simpa [kinds] using hkind
  have hplace : narrowCol s.kinds col
      = placeIn (fun column : Column => column.kind.isMeaningful) s.columns col := placeIn_map _
  have hget := getElem?_filter_placeIn (p := fun column : Column => column.kind.isMeaningful)
    hcolumn (Kind.isMeaningful_iff.2 hne)
  rw [← hplace] at hget
  simp only [title, titles, narrow, List.getElem?_map, hget, hcolumn]

theorem nameNote?_narrow : s.narrow.nameNote? = s.nameNote?.map (narrowCol s.kinds) := by
  rw [nameNote?, kinds_narrow, nameNote?]
  exact findIdx?_filter (fun kind hkind => by simp_all [Kind.isMeaningful]) _

theorem primary?_narrow : s.narrow.primary? = s.primary?.map (narrowCol s.kinds) := by
  rw [primary?, kinds_narrow, primary?]
  exact findIdx?_filter (fun _ => Kind.isMeaningful_of_not_annotates) _

theorem meaningful_eq : s.meaningful
    = (List.range' 0 s.width).filter fun col => (s.kinds[col]?).elim false Kind.isMeaningful := by
  rw [meaningful, List.range_eq_range']
  refine List.filter_congr fun col hcol => ?_
  obtain ⟨kind, hkind⟩ : ∃ kind, s.kinds[col]? = some kind :=
    ⟨_, List.getElem?_eq_getElem (by simpa using hcol)⟩
  cases kind <;> simp [hkind, Kind.isMeaningful]

theorem meaningful_narrow : s.narrow.meaningful = s.meaningful.map (narrowCol s.kinds) := by
  have h := map_placeIn_range (l := s.kinds) (fun kind (hkind : kind.isMeaningful) => hkind) 0
    s.width (by simp)
  rw [placeIn_zero, Nat.zero_add, Nat.sub_zero] at h
  rw [meaningful_eq, meaningful_eq, kinds_narrow, width_narrow]
  exact h.symm

end Schema

namespace Page

open Reported
open KeyValues (Node linesOf)

/-- The page without its ignored columns. -/
def narrow (page : Page) : Page :=
  { page with
    schema := page.schema.narrow
    rows := page.rows.map (Row.narrow page.schema.kinds)
    notes := page.notes.map (Row.narrow page.schema.kinds) }

variable (page : Page)

/-- Where the columns of the page stand without the ignored ones. -/
abbrev narrowing : Placing :=
  ⟨0, 0, narrowCol page.schema.kinds⟩

theorem placedIn_narrow : page.PlacedIn page.narrow page.narrowing where
  emptyToken := rfl
  number := rfl
  long := by simp [narrow]
  cell r hr col hcol := by
    obtain ⟨kind, hkind, hne⟩ := Schema.exists_kind hcol
    simp [cell, narrow, hr, Row.cell_narrow _ hkind hne]
  title _ hcol := Schema.title_narrow hcol
  nameNote := Schema.nameNote?_narrow
  primary := Schema.primary?_narrow
  block primary hprimary := by
    obtain ⟨kind, hkind, hne⟩ := Schema.exists_kind (Schema.primary_mem_meaningful hprimary)
    have hlaid := laid_outline page.schema.kinds (primary + 1) page.schema.width (by simp)
    obtain ⟨items, hitems, hrenames⟩ := hlaid.narrow (by simp)
    -- The primary column stays, so the block right of it begins where the narrow page begins its
    -- own.
    rw [narrowCol_succ hkind hne, ← Schema.kinds_narrow, ← Schema.width_narrow] at hitems
    have houtline := hitems.outline_eq
    exact houtline ▸ hrenames

/-- The notes of the two pages say the same of a column, so the entries have the same lines. -/
theorem placedLaw_narrow : PlacedLaw page page.narrow page.narrowing
    fun s t => ∀ unit depth, linesOf unit depth t = linesOf unit depth s where
  nil _ _ := rfl
  append hs ht unit depth := by
    rw [KeyValues.linesOf_append, KeyValues.linesOf_append, hs, ht]
  wrap name hs unit depth := by
    simp only [linesOf, Node.lines, hs]
  comment _ _ _ := rfl
  pair _ _ _ _ _ _ := rfl
  noted r col hcol key value _ unit depth := by
    obtain ⟨kind, hkind, hne⟩ := Schema.exists_kind hcol
    have hnote : page.narrow.noteComment r (narrowCol page.schema.kinds col)
        = page.noteComment r col := by
      rcases hnotes : page.notes with _ | notes
      · simp [noteComment, narrow, hnotes]
      · simp [noteComment, narrow, hnotes, Row.cell_narrow notes hkind hne]
    rw [Nat.add_zero, hnote, KeyValues.linesOf_append, KeyValues.linesOf_append]
    rfl

theorem document_narrow (unit : Text) (depth : Int) : ∃ ws lines,
    page.document unit depth = ⟨ws, .ok lines⟩
      ∧ page.narrow.document unit depth = ⟨ws.map (Warning.placed page.narrowing), .ok lines⟩ := by
  have hagree := page.placedIn_narrow.documentNodes page.placedLaw_narrow (by simp [narrow])
  obtain ⟨ws, nodes, nodes', hpage, hnarrow, hlines⟩ := hagree.eq
  refine ⟨ws, _, document_eq hpage unit depth, ?_⟩
  rw [document_eq hnarrow, hlines]

theorem flatPairs_narrow {keyCol valueCol : Nat} (hkey : keyCol ∈ page.schema.meaningful)
    (hvalue : valueCol ∈ page.schema.meaningful) :
    flatPairs (narrowCol page.schema.kinds keyCol) (narrowCol page.schema.kinds valueCol)
        page.narrow.rows
      = flatPairs keyCol valueCol page.rows := by
  obtain ⟨_, hkey, hkeyNe⟩ := Schema.exists_kind hkey
  obtain ⟨_, hvalue, hvalueNe⟩ := Schema.exists_kind hvalue
  simp only [flatPairs, narrow, List.filterMap_map, Function.comp_def,
    Row.cell_narrow _ hkey hkeyNe, Row.cell_narrow _ hvalue hvalueNe]

theorem flatLines_narrow (hsimple : page.schema.isSimple) (unit : Text) (depth : Int) :
    ∃ lines, page.flatLines unit depth = .ok lines
      ∧ page.narrow.flatLines unit depth = .ok lines := by
  obtain ⟨keyCol, valueCol, hcols⟩ := Schema.meaningful_of_isSimple hsimple
  have hkey : keyCol ∈ page.schema.meaningful := by simp [hcols]
  have hvalue : valueCol ∈ page.schema.meaningful := by simp [hcols]
  have hnarrow : page.narrow.schema.meaningful
      = [narrowCol page.schema.kinds keyCol, narrowCol page.schema.kinds valueCol] := by
    have h := Schema.meaningful_narrow (s := page.schema)
    rwa [hcols] at h
  refine ⟨(flatPairs keyCol valueCol page.rows).map (flatLine unit depth), ?_, ?_⟩
  · rw [flatLines, hcols]
  · rw [flatLines, hnarrow]
    simp only [page.flatPairs_narrow hkey hvalue]

/-- Taking every ignored column out of the title row, the data rows and the notes leaves the lines
as they are. -/
theorem narrow_lines (titles : Row) (rows : List Row) (notes : Option Row) (emptyToken : Text)
    (firstRowNumber : Nat) (unit : Text) (depth : Int) :
    let kinds := titles.map Kind.ofHeader
    let wide : Page := ⟨.ofTitles titles, rows, emptyToken, notes, firstRowNumber⟩
    let narrow : Page := ⟨.ofTitles (titles.narrow kinds), rows.map (Row.narrow kinds), emptyToken,
      notes.map (Row.narrow kinds), firstRowNumber⟩
    (∃ ws lines, wide.document unit depth = ⟨ws, .ok lines⟩
      ∧ narrow.document unit depth
        = ⟨ws.map (Warning.placed ⟨0, 0, narrowCol kinds⟩), .ok lines⟩)
    ∧ narrow.schema.isSimple = wide.schema.isSimple
    ∧ (wide.schema.isSimple → ∃ lines, wide.flatLines unit depth = .ok lines
      ∧ narrow.flatLines unit depth = .ok lines) := by
  intro kinds wide narrow
  have hkinds : wide.schema.kinds = kinds := Schema.kinds_ofTitles titles
  have hnarrow : narrow = wide.narrow := by
    simp only [narrow, wide, Page.narrow, kinds, Schema.ofTitles_narrow, Schema.kinds_ofTitles]
  have hplacing : (⟨0, 0, narrowCol kinds⟩ : Placing) = wide.narrowing := by
    rw [narrowing, hkinds]
  rw [hnarrow, hplacing]
  refine ⟨wide.document_narrow unit depth, ?_, fun hsimple =>
    wide.flatLines_narrow hsimple unit depth⟩
  have hmeaningful := Schema.meaningful_narrow (s := wide.schema)
  simp only [Schema.isSimple, Page.narrow, hmeaningful, List.length_map]

end Page

end MarkedSheet
