import MarkedSheet.Localization.Harvest
import MarkedSheet.Proofs.Sheet.Tiling

/-!
# Carried keys

A key is carried down to the rows below it in two ways: row by row, and by groups of rows. Both give
every row the same key (`carriedKeys_ofRange`).
-/

namespace MarkedSheet

namespace RowGroup

open MarkedSheet.Localization (carriedKeys)

/-- The key of the group that a row lies in. -/
def keyAt (groups : List RowGroup) (r : Nat) : Option Text :=
  (groups.find? fun g => g.start ≤ r && r < g.stop).bind (·.key)

section KeyAt

variable {g : RowGroup} {rest : List RowGroup} {r : Nat}

theorem keyAt_cons_of_lt (hstart : g.start ≤ r) (hstop : r < g.stop) :
    keyAt (g :: rest) r = g.key := by
  simp [keyAt, hstart, hstop]

theorem keyAt_cons_of_le (h : g.stop ≤ r) : keyAt (g :: rest) r = keyAt rest r := by
  have hlt : ¬ r < g.stop := Nat.not_lt.2 h
  simp [keyAt, hlt]

/-- Every row of a range lies in a group. -/
theorem Tiles.exists_group {start stop : Nat} {groups : List RowGroup}
    (h : Tiles stop start groups) (hstart : start ≤ r) (hstop : r < stop) :
    ∃ g ∈ groups, g.start ≤ r ∧ r < g.stop ∧ keyAt groups r = g.key := by
  induction h with
  | done => omega
  | @group first rest hne hrest ih =>
    rcases Nat.lt_or_ge r first.stop with hlt | hge
    · exact ⟨first, List.mem_cons_self, hstart, hlt, keyAt_cons_of_lt hstart hlt⟩
    · obtain ⟨g, hg, h1, h2, hkey⟩ := ih hge
      exact ⟨g, List.mem_cons_of_mem first hg, h1, h2, (keyAt_cons_of_le hge).trans hkey⟩

end KeyAt

section Collect

variable (col : Nat)

/-- The rows of the group that has begun keep its key. -/
theorem keyAt_collect_begun (rows : List Row) : ∀ (key : Option Text) {start r j : Nat},
    start ≤ j → j < r → keyAt (collect col key start r rows) j = key := by
  induction rows with
  | nil =>
    intro key start r j hstart hj
    have hlt : start < r := by omega
    rw [collect, if_pos hlt]
    exact keyAt_cons_of_lt hstart hj
  | cons row rest ih =>
    intro key start r j hstart hj
    have hne : ¬ r = start := by omega
    simp only [collect, if_neg hne]
    split
    · exact ih key hstart (by omega)
    · split
      · exact ih key hstart (by omega)
      · exact keyAt_cons_of_lt hstart hj

/-- Row by row the keys that are carried down are those of the groups. -/
theorem carriedKeys_collect (rows : List Row) : ∀ (key : Option Text) {start r : Nat}, start ≤ r →
    carriedKeys (some col) key rows
      = (List.range' r rows.length).map (keyAt (collect col key start r rows)) := by
  induction rows with
  | nil => intro key start r _; rfl
  | cons row rest ih =>
    intro key start r h
    -- The row is the last of the group that has begun, whichever key that has.
    have hnext : ∀ (own : Option Text) {first : Nat}, first ≤ r →
        own :: carriedKeys (some col) own rest
          = (List.range' r (rest.length + 1)).map (keyAt (collect col own first (r + 1) rest)) := by
      intro own first hfirst
      rw [List.range'_succ, List.map_cons, keyAt_collect_begun col rest own hfirst (by omega),
        ← ih own (by omega)]
    rw [List.length_cons, carriedKeys]
    simp only [collect]
    by_cases hblank : (row.cell col).isBlank
    · rw [if_pos hblank, if_pos hblank]
      exact hnext key h
    · rw [if_neg hblank, if_neg hblank]
      split
      next => exact hnext (some (row.cell col).trimmed) h
      next =>
        split
        next hsame => rw [← hsame]; exact hnext key h
        next =>
          rw [hnext (some (row.cell col).trimmed) (Nat.le_refl r)]
          refine List.map_congr_left fun j hj => ?_
          exact (keyAt_cons_of_le (List.mem_range'_1.1 hj).1).symm

end Collect

theorem carriedKeys_ofRange (rows : List Row) (col : Nat) :
    carriedKeys (some col) none rows
      = (List.range rows.length).map (keyAt (ofRange rows 0 rows.length col)) := by
  rw [carriedKeys_collect col rows none (Nat.le_refl 0), List.range_eq_range', ofRange,
    List.take_length, List.drop_zero]

end RowGroup

end MarkedSheet
