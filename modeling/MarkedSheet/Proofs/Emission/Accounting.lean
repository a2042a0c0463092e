import Mathlib.Tactic.ByContra
import MarkedSheet.Proofs.Emission.Containers
import MarkedSheet.Proofs.Emission.Lines
import MarkedSheet.Proofs.Header.Layout
import MarkedSheet.Proofs.KeyValues.Sources

/-!
# Every cell is accounted for

A block writes every cell of its plain columns and ability slots once, or tells why it does not: the
row has no element key in an array around the column, or the column stands between a key column and
its value column (`block_writes_each_cell_once`). What is said of a block is said of the region of
cells it stands for (`Accounts`), and regions without a common cell can be put together.
-/

namespace MarkedSheet

mutual

/-- The open and close columns of the arrays that go down, in an item. -/
def Item.arraysDown : Item → List (Nat × Nat)
  | .container .arrayDown col close items => (col, close) :: arraysDown items
  | .container _ _ _ items => arraysDown items
  | _ => []

/-- The open and close columns of the arrays that go down, in an outline. -/
def arraysDown : List Item → List (Nat × Nat)
  | [] => []
  | item :: rest => item.arraysDown ++ arraysDown rest

end

namespace Page

open KeyValues (Node pairsAt)

section Defs

variable (page : Page)

/-- The column is a plain one or one of ability slots, whose cells are written under its title. -/
def Titled (col : Nat) : Prop :=
  page.schema.kinds[col]? = some .plain ∨ page.schema.kinds[col]? = some .ability

/-- The cell has to be written: it is an ability slot, or a plain cell that is not blank. -/
def IsDue (r col : Nat) : Prop :=
  page.schema.kinds[col]? = some .ability
    ∨ page.schema.kinds[col]? = some .plain ∧ (page.cellAt r col).isBlank = false

/-- What is written for a cell of a titled column, if it is written. -/
def due (r col : Nat) : List (Text × Text) :=
  if page.schema.kinds[col]? = some .plain ∧ (page.cellAt r col).isBlank then []
  else [(page.schema.title col, page.shownValue r col)]

/-- A warning tells that the row has no element key in an array that holds the column. -/
def RowUnkeyed (arrays : List (Nat × Nat)) (ws : List Warning) (r col : Nat) : Prop :=
  ∃ first last name opened close, Warning.noElementKey first last name opened ∈ ws
    ∧ first ≤ page.rowNumber r ∧ page.rowNumber r ≤ last
    ∧ (opened, close) ∈ arrays ∧ opened < col ∧ col < close

/-- A warning tells that the column stands between a key column and its value column. -/
def ColumnPassedOver (ws : List Warning) (col : Nat) : Prop :=
  ∃ title keyCol valueCol, Warning.unwritten col title keyCol valueCol ∈ ws

/-- A warning tells why the cell is not written. -/
def Excused (arrays : List (Nat × Nat)) (ws : List Warning) (r col : Nat) : Prop :=
  page.RowUnkeyed arrays ws r col ∨ ColumnPassedOver ws col

/-- The forest has every cell of the region once or the warnings excuse it, and no other cell. -/
structure Accounts (arrays : List (Nat × Nat)) (region : Nat → Nat → Prop) (ws : List Warning)
    (nodes : List Node) : Prop where
  inside : ∀ r col, page.Titled col → region r col →
    pairsAt ⟨r, col⟩ nodes = page.due r col
      ∨ pairsAt ⟨r, col⟩ nodes = [] ∧ page.Excused arrays ws r col
  outside : ∀ r col, page.Titled col → ¬ region r col → pairsAt ⟨r, col⟩ nodes = []

/-- The cells of a block. -/
def Cells (rowStart rowStop colStart colStop r col : Nat) : Prop :=
  rowStart ≤ r ∧ r < rowStop ∧ colStart ≤ col ∧ col < colStop

end Defs

section Regions

variable {page : Page} {arrays : List (Nat × Nat)} {region : Nat → Nat → Prop}
  {ws : List Warning} {nodes : List Node}

theorem Excused.mono {arrays' : List (Nat × Nat)} {ws' : List Warning} {r col : Nat}
    (h : page.Excused arrays ws r col) (harrays : arrays ⊆ arrays') (hws : ws ⊆ ws') :
    page.Excused arrays' ws' r col := by
  rcases h with ⟨first, last, name, opened, close, hw, h1, h2, harray, h3⟩ | ⟨title, k, v, hw⟩
  · exact .inl ⟨first, last, name, opened, close, hws hw, h1, h2, harrays harray, h3⟩
  · exact .inr ⟨title, k, v, hws hw⟩

theorem Accounts.mono {arrays' : List (Nat × Nat)} {ws' : List Warning}
    (h : page.Accounts arrays region ws nodes) (harrays : arrays ⊆ arrays') (hws : ws ⊆ ws') :
    page.Accounts arrays' region ws' nodes where
  inside r col ht hr :=
    (h.inside r col ht hr).imp_right fun ⟨hnil, he⟩ => ⟨hnil, he.mono harrays hws⟩
  outside := h.outside

/-- Only the cells of titled columns count for a region. -/
theorem Accounts.congr {region' : Nat → Nat → Prop} (h : page.Accounts arrays region ws nodes)
    (hiff : ∀ r col, page.Titled col → (region' r col ↔ region r col)) :
    page.Accounts arrays region' ws nodes where
  inside r col ht hr := h.inside r col ht ((hiff r col ht).1 hr)
  outside r col ht hr := h.outside r col ht fun h' => hr ((hiff r col ht).2 h')

/-- A region without cells of titled columns is accounted for by nothing. -/
theorem accounts_nil (hempty : ∀ r col, page.Titled col → ¬ region r col) :
    page.Accounts arrays region ws [] where
  inside r col ht hr := absurd hr (hempty r col ht)
  outside _ _ _ _ := rfl

theorem accounts_of_excused
    (h : ∀ r col, page.Titled col → region r col → page.Excused arrays ws r col)
    (hnodes : ∀ r col, page.Titled col → pairsAt ⟨r, col⟩ nodes = []) :
    page.Accounts arrays region ws nodes where
  inside r col ht hr := .inr ⟨hnodes r col ht, h r col ht hr⟩
  outside r col ht _ := hnodes r col ht

theorem Accounts.append {region' : Nat → Nat → Prop} {ws' : List Warning} {nodes' : List Node}
    (h : page.Accounts arrays region ws nodes) (h' : page.Accounts arrays region' ws' nodes')
    (hdisjoint : ∀ r col, page.Titled col → region r col → ¬ region' r col) :
    page.Accounts arrays (fun r col => region r col ∨ region' r col) (ws ++ ws')
      (nodes ++ nodes') where
  inside r col ht hr := by
    rw [KeyValues.pairsAt_append]
    rcases hr with hr | hr
    · rw [h'.outside r col ht (hdisjoint r col ht hr), List.append_nil]
      exact (h.inside r col ht hr).imp_right fun ⟨hnil, he⟩ =>
        ⟨hnil, he.mono (List.Subset.refl _) (List.subset_append_left ..)⟩
    · rw [h.outside r col ht fun hr' => hdisjoint r col ht hr' hr, List.nil_append]
      exact (h'.inside r col ht hr).imp_right fun ⟨hnil, he⟩ =>
        ⟨hnil, he.mono (List.Subset.refl _) (List.subset_append_right ..)⟩
  outside r col ht hr := by
    rw [KeyValues.pairsAt_append, h.outside r col ht fun h1 => hr (.inl h1),
      h'.outside r col ht fun h2 => hr (.inr h2), List.append_nil]

/-- A container around changes nothing. -/
theorem Accounts.wrap (h : page.Accounts arrays region ws nodes) (name : Text) :
    page.Accounts arrays region ws [.container name nodes] where
  inside r col ht hr := by
    rw [KeyValues.pairsAt_container]
    exact h.inside r col ht hr
  outside r col ht hr := by
    rw [KeyValues.pairsAt_container]
    exact h.outside r col ht hr

/-- Comments in front change nothing. -/
theorem Accounts.after (h : page.Accounts arrays region ws nodes) {comments : List Node}
    (hcomments : ∀ place, pairsAt place comments = []) :
    page.Accounts arrays region ws (comments ++ nodes) where
  inside r col ht hr := by
    rw [KeyValues.pairsAt_append, hcomments, List.nil_append]
    exact h.inside r col ht hr
  outside r col ht hr := by
    rw [KeyValues.pairsAt_append, hcomments, List.nil_append]
    exact h.outside r col ht hr

theorem not_titled {col : Nat} {kind : Kind} (hkind : page.schema.kinds[col]? = some kind)
    (hplain : kind ≠ .plain) (hability : kind ≠ .ability) : ¬ page.Titled col := by
  rintro (h | h) <;> simp_all

end Regions

section Columns

variable {page : Page} {arrays : List (Nat × Nat)}

@[simp] theorem pairsAt_noteComment (place : KeyValues.Place) (r col : Nat) :
    pairsAt place (page.noteComment r col) = [] := by
  unfold noteComment
  split
  · rfl
  · simp only
    split
    · rfl
    · simp

theorem pairsAt_nameEntry (r : Nat) (place : KeyValues.Place) :
    pairsAt place (page.nameEntry r) = [] := by
  unfold nameEntry
  split
  · rfl
  · split
    · rfl
    · simp

/-- A column is accounted for when each of its cells is by the entry of its row. -/
theorem accounts_entries {col : Nat} {entry : Nat → List Node}
    (hentry : ∀ r, page.Accounts arrays (fun r' col' => r' = r ∧ col' = col) [] (entry r))
    (stop start : Nat) :
    page.Accounts arrays (Cells start stop col (col + 1)) []
      ((rowRange start stop).flatMap entry) := by
  rcases Nat.lt_or_ge start stop with hlt | hge
  · rw [Reported.rowRange_of_lt hlt, List.flatMap_cons]
    have hrest := accounts_entries hentry stop (start + 1)
    refine ((hentry start).append hrest fun r c _ h => ?_).congr fun r c _ => ?_
    · simp only [Cells]; omega
    · simp only [Cells]; omega
  · have hnone : rowRange start stop = [] := by simp [rowRange, Nat.sub_eq_zero_of_le hge]
    rw [hnone]
    exact accounts_nil fun r c _ => by simp only [Cells]; omega
termination_by stop - start

theorem accounts_plainEntry {col : Nat} (hkind : page.schema.kinds[col]? = some .plain) (r : Nat) :
    page.Accounts arrays (fun r' col' => r' = r ∧ col' = col) [] (page.plainEntry r col) where
  inside := by
    rintro _ _ _ ⟨rfl, rfl⟩
    refine .inl ?_
    unfold plainEntry due shownValue
    split
    next hblank => simp [hkind, hblank, KeyValues.pairsAt]
    next hblank => simp [hblank, KeyValues.pairsAt, Node.pairsAt]
  outside r' col' _ hr := by
    unfold plainEntry
    split
    · rfl
    · simp only [KeyValues.pairsAt_append, pairsAt_noteComment, KeyValues.pairsAt, Node.pairsAt,
        KeyValues.Place.mk.injEq]
      rw [if_neg fun h => hr ⟨h.1.symm, h.2.symm⟩]
      rfl

theorem accounts_abilityEntry {col : Nat} (hkind : page.schema.kinds[col]? = some .ability)
    (r : Nat) :
    page.Accounts arrays (fun r' col' => r' = r ∧ col' = col) [] (page.abilityEntry r col) where
  inside := by
    rintro _ _ _ ⟨rfl, rfl⟩
    refine .inl ?_
    simp [abilityEntry, due, hkind, KeyValues.pairsAt, Node.pairsAt]
  outside r' col' _ hr := by
    simp only [abilityEntry, KeyValues.pairsAt_append, pairsAt_noteComment, KeyValues.pairsAt,
      Node.pairsAt, KeyValues.Place.mk.injEq]
    rw [if_neg fun h => hr ⟨h.1.symm, h.2.symm⟩]
    rfl

theorem pairsAt_pairEntries {keyCol valueCol start stop r col : Nat}
    (hkind : page.schema.kinds[keyCol]? = some .key) (ht : page.Titled col) :
    pairsAt ⟨r, col⟩ ((rowRange start stop).flatMap (page.pairEntry keyCol valueCol)) = [] := by
  have hne : keyCol ≠ col := by
    rintro rfl
    exact not_titled hkind (by simp) (by simp) ht
  induction rowRange start stop with
  | nil => rfl
  | cons first rest ih =>
    rw [List.flatMap_cons, KeyValues.pairsAt_append, ih, List.append_nil]
    unfold pairEntry
    split
    · rfl
    · simp [KeyValues.pairsAt, Node.pairsAt, hne]

variable {start stop : Nat}

/-- The columns between a key column and its value column are all passed over. -/
theorem accounts_pairNodes (hstop : stop ≤ page.rows.length) {col valueCol colStop : Nat}
    (hkind : page.schema.kinds[col]? = some .key)
    (hvalue : valueColumn page.schema.kinds col colStop = .found valueCol) :
    (page.pairNodes col valueCol (unwrittenBetween page.schema.kinds col valueCol) start
      stop).Gives (page.Accounts arrays (Cells start stop col (valueCol + 1))) := by
  refine (gives_pairNodes hstop col valueCol _).mono fun ws nodes ⟨hws, hnodes⟩ => ?_
  subst hnodes
  refine accounts_of_excused (fun r c ht hc => .inr ?_) fun r c ht => pairsAt_pairEntries hkind ht
  obtain ⟨-, -, hvalueKind⟩ := valueColumn_lt hvalue
  have hkey : c ≠ col := by
    rintro rfl
    exact not_titled hkind (by simp) (by simp) ht
  have hval : c ≠ valueCol := by
    rintro rfl
    exact not_titled hvalueKind (by simp) (by simp) ht
  have hmem : c ∈ unwrittenBetween page.schema.kinds col valueCol := by
    obtain ⟨-, -, h1, h2⟩ := hc
    rcases ht with ht | ht
    · exact mem_unwrittenBetween ht rfl (by omega) (by omega)
    · exact mem_unwrittenBetween ht rfl (by omega) (by omega)
  exact ⟨_, _, _, hws c hmem⟩

end Columns

section Containers

variable {page : Page} {arrays : List (Nat × Nat)} (colStart colStop : Nat)

/-- Accounts of ranges of rows over the same columns can be put together. -/
theorem rangeLaw_accounts :
    page.RangeLaw fun start stop => page.Accounts arrays (Cells start stop colStart colStop) where
  nil r := accounts_nil fun r c _ => by simp only [Cells]; omega
  append hlt hle h h' := by
    refine (h.append h' fun r c _ hc => ?_).congr fun r c _ => ?_
    · simp only [Cells] at hc ⊢; omega
    · simp only [Cells]; omega
  wrap name h := h.wrap name
  named _ _ h := h.after fun place => pairsAt_nameEntry _ place

/-- The rows of an array that have no element key are excused. -/
theorem accounts_unkeyed (hmem : (colStart, colStop) ∈ arrays) :
    page.HoldsUnkeyed colStart fun start stop =>
      page.Accounts arrays (Cells start stop (colStart + 1) colStop) := by
  intro name start stop hlt
  refine accounts_of_excused (fun r c _ hc => .inl ?_) fun _ _ _ => rfl
  obtain ⟨h1, h2, h3, h4⟩ := hc
  refine ⟨_, _, _, _, _, List.mem_singleton_self _, ?_, ?_, hmem, h3, h4⟩
  · simp only [rowNumber]; omega
  · simp only [rowNumber]; omega

end Containers

section Blocks

open Reported KeyValues

variable {page : Page} {start stop : Nat}

/-- An item and the items after it account for their columns together. The item stands for the
columns from `first` up to `last`, and the others begin at `next`. -/
theorem accounts_cons {item : Item} {rest : List Item} {colStart colStop first last next : Nat}
    (hitem : (page.itemNodes item start stop).Gives
      (page.Accounts item.arraysDown (Cells start stop first last)))
    (hrest : (page.itemsNodes rest start stop).Gives
      (page.Accounts (arraysDown rest) (Cells start stop next colStop)))
    (hlast : last ≤ next)
    (hcols : ∀ col, page.Titled col →
      (colStart ≤ col ∧ col < colStop ↔ first ≤ col ∧ col < last ∨ next ≤ col ∧ col < colStop)) :
    (page.itemsNodes (item :: rest) start stop).Gives
      (page.Accounts (arraysDown (item :: rest)) (Cells start stop colStart colStop)) := by
  rw [itemsNodes]
  refine hitem.bind fun ws nodes h => hrest.bind fun ws' nodes' h' => gives_mk ?_
  rw [List.append_nil]
  have h1 := h.mono (List.subset_append_left _ (arraysDown rest)) (List.Subset.refl ws)
  have h2 := h'.mono (List.subset_append_right item.arraysDown _) (List.Subset.refl ws')
  refine (h1.append h2 fun r c _ hc => ?_).congr fun r c ht => ?_
  · simp only [Cells] at hc ⊢; omega
  · have := hcols c ht
    simp only [Cells]
    constructor
    · rintro ⟨h3, h4, h5⟩
      rcases this.1 h5 with h6 | h6
      · exact .inl ⟨h3, h4, h6⟩
      · exact .inr ⟨h3, h4, h6⟩
    · rintro (⟨h3, h4, h5⟩ | ⟨h3, h4, h5⟩)
      · exact ⟨h3, h4, this.2 (.inl h5)⟩
      · exact ⟨h3, h4, this.2 (.inr h5)⟩

theorem accounts_itemsNodes {colStart colStop : Nat} {items : List Item}
    (h : Laid page.schema.kinds colStart colStop items) : ∀ {start stop : Nat}, start < stop →
      stop ≤ page.rows.length → (page.itemsNodes items start stop).Gives
        (page.Accounts (arraysDown items) (Cells start stop colStart colStop)) := by
  induction h with
  | done hend =>
    intro start stop _ _
    rw [itemsNodes]
    exact gives_pure (accounts_nil fun r c _ => by simp only [Cells]; omega)
  | @plain col colStop rest hlt hkind _ ih =>
    intro start stop hrow hrows
    have hcolumn : (page.itemNodes (.plain col) start stop).Gives
        (page.Accounts [] (Cells start stop col (col + 1))) := by
      rw [itemNodes]
      refine (gives_plainNodes hrows col).mono fun ws nodes hnodes => ?_
      subst hnodes
      exact (accounts_entries (accounts_plainEntry hkind) stop start).mono
        (List.Subset.refl _) (by simp)
    exact accounts_cons hcolumn (ih hrow hrows) (Nat.le_refl _) fun c _ => by omega
  | @ability col colStop rest hlt hkind _ ih =>
    intro start stop hrow hrows
    have hcolumn : (page.itemNodes (.ability col) start stop).Gives
        (page.Accounts [] (Cells start stop col (col + 1))) := by
      rw [itemNodes]
      refine (gives_abilityNodes hrows col).mono fun ws nodes hnodes => ?_
      subst hnodes
      exact (accounts_entries (accounts_abilityEntry hkind) stop start).mono
        (List.Subset.refl _) (by simp)
    exact accounts_cons hcolumn (ih hrow hrows) (Nat.le_refl _) fun c _ => by omega
  | @pairs col valueCol colStop rest hlt hkind hvalue _ ih =>
    intro start stop hrow hrows
    obtain ⟨hkey, hstop, -⟩ := valueColumn_lt hvalue
    have hpairs : (page.itemNodes (.pairs col valueCol
        (unwrittenBetween page.schema.kinds col valueCol)) start stop).Gives
        (page.Accounts [] (Cells start stop col (valueCol + 1))) := by
      rw [itemNodes]
      exact accounts_pairNodes hrows hkind hvalue
    exact accounts_cons hpairs (ih hrow hrows) (Nat.le_refl _) fun c _ => by omega
  | @loneKey col colStop rest hlt hkind _ _ ih =>
    intro start stop hrow hrows
    have hnone : (page.itemNodes (.loneKey col) start stop).Gives
        (page.Accounts [] (Cells start stop col (col + 1))) := by
      rw [itemNodes]
      refine (gives_loneKeyNodes hrows col).mono fun ws nodes hnodes => ?_
      subst hnodes
      refine accounts_nil fun r c ht hc => ?_
      obtain rfl : c = col := by simp only [Cells] at hc; omega
      exact not_titled hkind (by simp) (by simp) ht
    exact accounts_cons hnone (ih hrow hrows) (Nat.le_refl _) fun c _ => by omega
  | @container family col close colStop items rest hlt hkind hclose _ _ ihItems ihRest =>
    intro start stop hrow hrows
    have hle := closeColumn_le page.schema.kinds col colStop family
    have hgt := @lt_closeColumn page.schema.kinds col colStop family hlt
    have hclosing := @kind_closeColumn family page.schema.kinds col colStop
    rw [hclose] at hle hgt hclosing
    have hinner : arraysDown items ⊆ (Item.container family col close items).arraysDown := by
      cases family with
      | arrayDown => exact List.subset_cons_self _ _
      | _ => exact List.Subset.refl _
    have hcontainer : (page.itemNodes (.container family col close items) start stop).Gives
        (page.Accounts (Item.container family col close items).arraysDown
          (Cells start stop (col + 1) close)) := by
      rw [itemNodes]
      refine gives_containerNodes (rangeLaw_accounts (col + 1) close) ?_ hrow hrows
        fun s e _ hse he => ?_
      · rintro rfl
        exact accounts_unkeyed col close List.mem_cons_self
      · exact (ihItems hse (by omega)).mono fun ws nodes h => h.mono hinner (List.Subset.refl _)
    refine accounts_cons hcontainer (ihRest hrow hrows) (Nat.le_succ _) fun c ht => ?_
    have hopen : c ≠ col := by
      rintro rfl
      exact not_titled hkind (by simp) (by simp) ht
    have hclosed : c = close → colStop ≤ c := by
      rintro rfl
      by_contra hlt'
      exact not_titled (hclosing (by omega)) (by simp) (by simp) ht
    omega
  | @silent kind col colStop rest hlt hkind hsilent _ ih =>
    intro start stop hrow hrows
    have hnone : (page.itemNodes (.silent col kind) start stop).Gives
        (page.Accounts [] (Cells start stop col (col + 1))) := by
      rw [itemNodes]
      refine gives_pure (accounts_nil fun r c ht hc => ?_)
      obtain rfl : c = col := by simp only [Cells] at hc; omega
      refine not_titled hkind ?_ ?_ ht
      · rintro rfl; simp [Kind.isSilent] at hsilent
      · rintro rfl; simp [Kind.isSilent] at hsilent
    exact accounts_cons hnone (ih hrow hrows) (Nat.le_refl _) fun c _ => by omega

variable (page)

/-- A block writes every cell of its plain columns and ability slots once, unless a warning tells
why it does not, and it writes no cell outside its range. The cell `⟨r, col⟩` is written on a line
with the title of its column and its value. -/
theorem block_writes_each_cell_once (unit : Text) (depth : Int)
    {rowStart rowStop colStart colStop : Nat} (hrow : rowStart < rowStop)
    (hrows : rowStop ≤ page.rows.length) (hcols : colStop ≤ page.schema.width) :
    ∃ lines : List SourcedLine, ∃ ws : List Warning,
      (∃ nodes, page.blockNodes rowStart rowStop colStart colStop = ⟨ws, .ok nodes⟩
        ∧ lines = sourcedLines unit depth nodes)
      ∧ page.block unit rowStart rowStop colStart colStop depth = ⟨ws, .ok (lines.map (·.text))⟩
      ∧ (∀ r col, Cells rowStart rowStop colStart colStop r col → page.IsDue r col →
        (∃ level, depth ≤ level ∧ linesFrom ⟨r, col⟩ lines
          = [indentation unit level
              ++ pairText (page.schema.title col) (page.shownValue r col)])
        ∨ linesFrom ⟨r, col⟩ lines = []
          ∧ page.Excused (arraysDown (outline page.schema.kinds colStart colStop)) ws r col)
      ∧ ∀ r col, ¬ Cells rowStart rowStop colStart colStop r col → page.Titled col →
        linesFrom ⟨r, col⟩ lines = [] := by
  have hlaid := laid_outline page.schema.kinds colStart colStop (by simpa using hcols)
  obtain ⟨ws, nodes, hnodes, haccounts⟩ := (accounts_itemsNodes hlaid hrow hrows).eq
  have hblock : page.blockNodes rowStart rowStop colStart colStop = ⟨ws, .ok nodes⟩ := hnodes
  refine ⟨sourcedLines unit depth nodes, ws, ⟨nodes, hblock, rfl⟩, ?_, fun r col hcell hdue => ?_,
    fun r col hcell ht => linesFrom_eq_nil (haccounts.outside r col ht hcell)⟩
  · rw [block_eq, hblock, text_sourcedLines]
    simp
  · have ht : page.Titled col := by
      rcases hdue with h | ⟨h, -⟩
      · exact .inr h
      · exact .inl h
    have hentry : page.due r col = [(page.schema.title col, page.shownValue r col)] := by
      unfold due
      rcases hdue with h | ⟨h, hblank⟩
      · simp [h]
      · simp [hblank]
    rcases haccounts.inside r col ht hcell with h | ⟨h, hexcused⟩
    · exact .inl (linesFrom_eq_singleton (h.trans hentry))
    · exact .inr ⟨linesFrom_eq_nil h, hexcused⟩

/-- An array whose first row has no element key, and a pair with a column between its key and its
value. -/
def gappedPage : Page where
  schema := .ofTitles (["id", "mods[↓", "hp", "↓]", "k", "armor", "v"].map fun t => some t.toList)
  rows := [["h", "", "1", "", "a", "5", "b"], ["", "m", "2", "", "", "6", ""]].map
    (List.map fun t => some t.toList)

theorem gappedPage_writes_each_cell_once :
    0 < 2 ∧ 2 ≤ gappedPage.rows.length ∧ 7 ≤ gappedPage.schema.width ∧ gappedPage.IsDue 1 2
      ∧ ∃ lines : List SourcedLine, ∃ ws : List Warning,
        gappedPage.block ['\t'] 0 2 0 7 0 = ⟨ws, .ok (lines.map (·.text))⟩
        ∧ ((∃ level, 0 ≤ level
            ∧ linesFrom ⟨1, 2⟩ lines = [indentation ['\t'] level ++ pairText "hp".toList ['2']])
          ∨ linesFrom ⟨1, 2⟩ lines = []
            ∧ gappedPage.Excused (arraysDown (outline gappedPage.schema.kinds 0 7)) ws 1 2) := by
  have hdue : gappedPage.IsDue 1 2 := .inr (by decide)
  obtain ⟨lines, ws, -, hblock, hinside, -⟩ := block_writes_each_cell_once gappedPage ['\t'] 0
    (by decide : 0 < 2) (by decide) (Nat.le_refl 7 : 7 ≤ gappedPage.schema.width)
  refine ⟨by decide, by decide, by decide, hdue, lines, ws, hblock, ?_⟩
  exact hinside 1 2 ⟨by decide, by decide, by decide, by decide⟩ hdue

end Blocks

end Page

end MarkedSheet
