import MarkedSheet.Sheet.RowGroup

/-!
# Groups tile their range

The groups of a range stand one after another from its first row to its last, and none is empty
(`tiles_ofRange`). Nothing but the cells of the range in one column matters for them
(`ofRange_of_cells`), and where a new key begins, the rows can be cut in two and grouped on their
own (`ofRange_append`).
-/

namespace MarkedSheet

namespace RowGroup

/-- The groups stand one after another from `start` to `stop`, and none is empty. -/
inductive Tiles (stop : Nat) : Nat → List RowGroup → Prop
  | done : Tiles stop stop []
  | group {g : RowGroup} {rest : List RowGroup} :
      g.start < g.stop → Tiles stop g.stop rest → Tiles stop g.start (g :: rest)

section Tiles

variable {stop : Nat}

theorem Tiles.le {start : Nat} {groups : List RowGroup} (h : Tiles stop start groups) :
    start ≤ stop := by
  induction h with
  | done => exact Nat.le_refl _
  | group hne _ ih => omega

theorem Tiles.bounds {start : Nat} {groups : List RowGroup} (h : Tiles stop start groups)
    {g : RowGroup} (hg : g ∈ groups) : start ≤ g.start ∧ g.start < g.stop ∧ g.stop ≤ stop := by
  induction h with
  | done => simp at hg
  | @group first rest hne hrest ih =>
    rcases List.mem_cons.1 hg with rfl | hg
    · exact ⟨Nat.le_refl _, hne, hrest.le⟩
    · obtain ⟨h1, h2, h3⟩ := ih hg
      exact ⟨by omega, h2, h3⟩

end Tiles

/-- The group with its rows `k` places further down. -/
def shift (k : Nat) (g : RowGroup) : RowGroup :=
  ⟨g.key, g.start + k, g.stop + k⟩

theorem shift_zero (g : RowGroup) : g.shift 0 = g := rfl

section Collect

variable (col : Nat)

theorem tiles_collect (rows : List Row) : ∀ (key : Option Text) {start r : Nat}, start ≤ r →
    Tiles (r + rows.length) start (collect col key start r rows) := by
  induction rows with
  | nil =>
    intro key start r h
    unfold collect
    split
    next hlt => exact .group (g := ⟨key, start, r⟩) hlt .done
    next hlt =>
      obtain rfl : start = r := by omega
      exact .done
  | cons row rest ih =>
    intro key start r h
    have hlen : r + (row :: rest).length = r + 1 + rest.length := by
      simp only [List.length_cons]; omega
    rw [hlen]
    unfold collect
    simp only
    split
    · exact ih key (by omega)
    · split
      · exact ih _ (by omega)
      · split
        · exact ih key (by omega)
        · have hlt : start < r := by omega
          exact .group (g := ⟨key, start, r⟩) hlt (ih _ (Nat.le_succ r))

theorem collect_shift (k : Nat) (rows : List Row) : ∀ (key : Option Text) (start r : Nat),
    collect col key (start + k) (r + k) rows = (collect col key start r rows).map (shift k) := by
  induction rows with
  | nil =>
    intro key start r
    simp only [collect, Nat.add_lt_add_iff_right]
    split <;> rfl
  | cons row rest ih =>
    intro key start r
    have hnext : r + k + 1 = r + 1 + k := by omega
    simp only [collect, hnext, ih, Nat.add_right_cancel_iff]
    split
    · rfl
    · split
      · rfl
      · split <;> rfl

/-- The groups are made by the cells of one column. -/
theorem collect_congr {col' : Nat} : ∀ {rows rows' : List Row} {key : Option Text} {start r : Nat},
    rows'.map (·.cell col') = rows.map (·.cell col) →
      collect col' key start r rows' = collect col key start r rows
  | [], [], _, _, _, _ => rfl
  | row :: rest, row' :: rest', key, start, r, h => by
    obtain ⟨hrow, hrest⟩ := List.cons.inj h
    simp only [collect, hrow, collect_congr hrest]
  | [], _ :: _, _, _, _, h => by simp at h
  | _ :: _, [], _, _, _, h => by simp at h

/-- The key that is carried past the rows, where `key` is the key above them. -/
def carried (key : Option Text) : List Row → Option Text
  | [] => key
  | row :: rest =>
    carried (if (row.cell col).isBlank then key else some (row.cell col).trimmed) rest

/-- The key that is carried past the rows is that of the last row that has one. -/
theorem carried_eq (rows : List Row) : ∀ key : Option Text, carried col key rows
    = ((rows.filter fun row => !(row.cell col).isBlank).getLast?.map fun row =>
      (row.cell col).trimmed).or key := by
  induction rows with
  | nil => intro key; rfl
  | cons row rest ih =>
    intro key
    rw [carried, ih]
    by_cases hblank : (row.cell col).isBlank
    · simp [hblank]
    · simp only [hblank, Bool.not_false, List.filter_cons_of_pos, List.getLast?_cons]
      cases (rest.filter fun row => !(row.cell col).isBlank).getLast? <;> simp

theorem collect_append (row : Row) (hrow : (row.cell col).isBlank = false) (rest : List Row) :
    ∀ (above : List Row) (key : Option Text) {start r : Nat}, start ≤ r →
      carried col key above ≠ some (row.cell col).trimmed →
      collect col key start r (above ++ row :: rest)
        = collect col key start r above
          ++ collect col none (r + above.length) (r + above.length) (row :: rest) := by
  intro above
  induction above with
  | nil =>
    intro key start r h hkey
    have hkey : key ≠ some (row.cell col).trimmed := hkey
    simp only [List.nil_append, List.length_nil, Nat.add_zero, collect, hrow, Bool.false_eq_true,
      if_false, if_true]
    by_cases hr : r = start
    · simp [hr]
    · have hlt : start < r := by omega
      simp [hr, hlt, hkey]
  | cons top above ih =>
    intro key start r h hkey
    have hlen : r + (top :: above).length = r + 1 + above.length := by
      simp only [List.length_cons]; omega
    rw [hlen, List.cons_append]
    simp only [carried] at hkey
    rw [collect, collect]
    by_cases hblank : (top.cell col).isBlank
    · rw [if_pos hblank] at hkey
      rw [if_pos hblank, if_pos hblank]
      exact ih key (by omega) hkey
    · rw [if_neg hblank] at hkey
      rw [if_neg hblank, if_neg hblank]
      split
      · exact ih _ (by omega) hkey
      · split
        next hsame => exact ih key (by omega) (by rwa [hsame])
        · rw [List.cons_append, ih _ (by omega) hkey]

end Collect

section Range

variable (col : Nat)

theorem tiles_ofRange {rows : List Row} {start stop : Nat} (hle : start ≤ stop)
    (hstop : stop ≤ rows.length) : Tiles stop start (ofRange rows start stop col) := by
  have h := tiles_collect col ((rows.take stop).drop start) none (Nat.le_refl start)
  have hlen : start + ((rows.take stop).drop start).length = stop := by
    simp only [List.length_drop, List.length_take]; omega
  rwa [hlen] at h

/-- Within the rows the search of a column comes to an end. -/
theorem columnHasValues_of_le {rows : List Row} (start : Nat) {stop : Nat}
    (hstop : stop ≤ rows.length) : ∃ holds, columnHasValues rows start stop col = .ok holds := by
  unfold columnHasValues
  split
  · exact ⟨_, rfl⟩
  · rw [if_neg fun hover => Nat.not_lt.2 hstop hover.2]
    exact ⟨_, rfl⟩

section Cells

variable {rows rows' : List Row} {col' k start stop : Nat}
  (h : ∀ r, start ≤ r → r < stop →
    (rows'[r + k]?).map (·.cell col') = (rows[r]?).map (·.cell col))

include h

theorem map_cell_range : ((rows'.take (stop + k)).drop (start + k)).map (·.cell col')
    = ((rows.take stop).drop start).map (·.cell col) := by
  refine List.ext_getElem? fun i => ?_
  rw [List.getElem?_map, List.getElem?_map, List.getElem?_drop, List.getElem?_drop]
  by_cases hi : start + i < stop
  · rw [List.getElem?_take_of_lt hi, List.getElem?_take_of_lt (by omega), Nat.add_right_comm]
    exact h _ (by omega) hi
  · simp only [List.getElem?_take, hi, if_false]
    rw [if_neg (by omega)]
    rfl

/-- Where the cells of a column are the same some rows further down, so are its groups. -/
theorem ofRange_of_cells :
    ofRange rows' (start + k) (stop + k) col' = (ofRange rows start stop col).map (shift k) := by
  rw [ofRange, collect_congr col (map_cell_range col h), collect_shift, ofRange]

theorem columnHasValues_of_cells (hstop : stop ≤ rows.length) (hlong : stop + k ≤ rows'.length) :
    columnHasValues rows' (start + k) (stop + k) col' = columnHasValues rows start stop col := by
  have hany := congrArg (List.any · fun c => !c.isBlank) (map_cell_range col h)
  simp only [List.any_map, Function.comp_def] at hany
  simp only [columnHasValues, hany, Nat.not_lt.2 hlong, Nat.not_lt.2 hstop, and_false, if_false]

end Cells

/-- Where a row begins a key that is not carried from above, the rows above and the rows from there
on are grouped on their own. -/
theorem ofRange_append {above below : List Row} {row : Row} (hhead : below.head? = some row)
    (hrow : (row.cell col).isBlank = false)
    (hkey : carried col none above ≠ some (row.cell col).trimmed) :
    ofRange (above ++ below) 0 (above ++ below).length col
      = ofRange above 0 above.length col
        ++ (ofRange below 0 below.length col).map (shift above.length) := by
  obtain ⟨rest, rfl⟩ : ∃ rest, below = row :: rest := by
    cases below with
    | nil => simp at hhead
    | cons b rest => exact ⟨rest, by simp_all⟩
  simp only [ofRange, List.take_length, List.drop_zero]
  rw [collect_append col row hrow rest above none (Nat.le_refl 0) hkey]
  have h := collect_shift col above.length (row :: rest) none 0 0
  simp only [Nat.zero_add] at h ⊢
  rw [h]

end Range

end RowGroup

end MarkedSheet
