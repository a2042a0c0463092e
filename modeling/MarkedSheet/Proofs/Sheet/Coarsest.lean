import Mathlib.Data.List.Chain
import MarkedSheet.Proofs.Sheet.Carried

/-!
# Groups are cut only where the key changes

The groups of a range tile it, every row has the key of its group, and neighbours have different
keys. No other groups do all of this, because a group can end neither before the key changes nor
after it (`Coarsest.eq`), so a range of rows that are there has exactly these groups
(`ofRange?_coarsest`).
-/

namespace MarkedSheet

namespace RowGroup

open MarkedSheet.Localization (carriedKeys)

/-- The groups tile the rows from `start` up to `stop`, every row has the key of its group, and
neighbours have different keys. -/
structure Coarsest (keyOf : Nat → Option Text) (stop start : Nat) (groups : List RowGroup) :
    Prop where
  tiles : Tiles stop start groups
  keys : ∀ g ∈ groups, ∀ r, g.start ≤ r → r < g.stop → g.key = keyOf r
  parted : groups.IsChain fun g next => g.key ≠ next.key

/-- The text, trimmed, of the last cell in the column that is not blank, from row `start` to row
`r`. -/
def lastKey (rows : List Row) (col start r : Nat) : Option Text :=
  ((((rows.take (r + 1)).drop start).map (·.cell col)).filter fun c => !c.isBlank).getLast?.map
    Cell.trimmed

section Unique

variable {keyOf : Nat → Option Text} {stop start : Nat} {g other : RowGroup}
  {rest others : List RowGroup}

theorem Tiles.eq_of_nil (h : Tiles stop start []) : start = stop := by
  cases h
  rfl

theorem Tiles.eq_nil (h : Tiles stop stop rest) : rest = [] := by
  cases rest with
  | nil => rfl
  | cons g rest =>
    obtain ⟨hstart, hne, hstop⟩ := h.bounds List.mem_cons_self
    omega

/-- The first group begins with the range and has a row; the other groups tile what it leaves. -/
theorem Tiles.of_cons (h : Tiles stop start (g :: rest)) :
    g.start = start ∧ start < g.stop ∧ Tiles stop g.stop rest := by
  cases h with
  | group hne hrest => exact ⟨rfl, hne, hrest⟩

theorem Coarsest.tail (h : Coarsest keyOf stop start (g :: rest)) :
    Coarsest keyOf stop g.stop rest where
  tiles := h.tiles.of_cons.2.2
  keys := fun next hnext => h.keys next (List.mem_cons_of_mem g hnext)
  parted := h.parted.of_cons

theorem Coarsest.key_eq (h : Coarsest keyOf stop start (g :: rest)) {r : Nat} (hstart : start ≤ r)
    (hstop : r < g.stop) : g.key = keyOf r :=
  h.keys g List.mem_cons_self r (h.tiles.of_cons.1 ▸ hstart) hstop

theorem Coarsest.key_eq_start (h : Coarsest keyOf stop start (g :: rest)) : g.key = keyOf start :=
  h.key_eq (Nat.le_refl start) h.tiles.of_cons.2.1

/-- The first group ends no earlier than another one that begins with it. -/
theorem Coarsest.stop_le (h : Coarsest keyOf stop start (g :: rest))
    (hother : Coarsest keyOf stop start (other :: others)) : other.stop ≤ g.stop := by
  by_contra hlt
  obtain ⟨-, hne, hrest⟩ := h.tiles.of_cons
  have hend := (hother.tiles.bounds List.mem_cons_self).2.2
  cases rest with
  | nil =>
    have := hrest.eq_of_nil
    omega
  | cons next rest =>
    -- The row after the group lies in the other group, so the key has not changed there.
    have hlong : other.key = keyOf g.stop := hother.key_eq (by omega) (by omega)
    have hsame : g.key = other.key := h.key_eq_start.trans hother.key_eq_start.symm
    exact (List.isChain_cons_cons.1 h.parted).1
      (hsame.trans (hlong.trans h.tail.key_eq_start.symm))

theorem Coarsest.eq {groups : List RowGroup} (h : Coarsest keyOf stop start groups)
    (hother : Coarsest keyOf stop start others) : others = groups := by
  induction groups generalizing start others with
  | nil =>
    obtain rfl := h.tiles.eq_of_nil
    exact hother.tiles.eq_nil
  | cons g rest ih =>
    cases others with
    | nil =>
      obtain rfl := hother.tiles.eq_of_nil
      exact h.tiles.eq_nil.symm
    | cons other others =>
      have hkey : other.key = g.key := hother.key_eq_start.trans h.key_eq_start.symm
      have hstart : other.start = g.start :=
        hother.tiles.of_cons.1.trans h.tiles.of_cons.1.symm
      have hstop : other.stop = g.stop := Nat.le_antisymm (h.stop_le hother) (hother.stop_le h)
      have hrest : others = rest := ih h.tail (hstop ▸ hother.tail)
      cases g
      cases other
      simp_all

/-- Where there is a key as soon as a row above has one, only the first group can be without. -/
theorem Coarsest.key_ne_none {groups : List RowGroup} (h : Coarsest keyOf stop start groups)
    (habove : ∀ r s, r ≤ s → keyOf s = none → keyOf r = none) :
    ∀ g ∈ groups.tail, g.key ≠ none := by
  intro g hg hnone
  obtain ⟨first, rest, rfl⟩ : ∃ first rest, groups = first :: rest :=
    List.exists_cons_of_ne_nil fun hnil => by simp [hnil] at hg
  obtain ⟨second, rest, rfl⟩ := List.exists_cons_of_ne_nil (List.ne_nil_of_mem hg)
  obtain ⟨hle, hlt, -⟩ := h.tail.tiles.bounds hg
  have hlast : keyOf g.start = none :=
    (h.tail.keys g hg g.start (Nat.le_refl _) hlt).symm.trans hnone
  have hsecond : second.key = none := h.tail.key_eq_start.trans (habove _ _ hle hlast)
  have hfirst : first.key = none :=
    h.key_eq_start.trans (habove _ _ ((Nat.le_of_lt h.tiles.of_cons.2.1).trans hle) hlast)
  exact (List.isChain_cons_cons.1 h.parted).1 (hfirst.trans hsecond.symm)

end Unique

section Collect

variable (col : Nat)

/-- A group that has begun keeps its key, and whatever group comes next has another one. -/
theorem collect_begun (rows : List Row) : ∀ (key : Option Text) {start r : Nat}, start < r →
    ∃ stop rest, collect col key start r rows = ⟨key, start, stop⟩ :: rest
      ∧ (collect col key start r rows).IsChain fun g next => g.key ≠ next.key := by
  induction rows with
  | nil =>
    intro key start r h
    exact ⟨r, [], by rw [collect, if_pos h], by rw [collect, if_pos h]; exact .singleton _⟩
  | cons row rest ih =>
    intro key start r h
    have hne : ¬ r = start := by omega
    simp only [collect, if_neg hne]
    split
    · exact ih key (by omega)
    · split
      · exact ih key (by omega)
      next hkey =>
        obtain ⟨stop, after, heq, hchain⟩ := ih (some (row.cell col).trimmed) (Nat.lt_succ_self r)
        refine ⟨r, _, rfl, ?_⟩
        rw [heq] at hchain ⊢
        exact List.isChain_cons_cons.2 ⟨hkey, hchain⟩

theorem isChain_collect (rows : List Row) (start : Nat) :
    (collect col none start start rows).IsChain fun g next => g.key ≠ next.key := by
  cases rows with
  | nil => simp [collect]
  | cons row rest =>
    have hbegun : ∀ key, (collect col key start (start + 1) rest).IsChain
        fun g next => g.key ≠ next.key := fun key => by
      obtain ⟨-, -, -, hchain⟩ := collect_begun col rest key (Nat.lt_succ_self start)
      exact hchain
    simp only [collect, if_true]
    split
    · exact hbegun none
    · exact hbegun _

theorem Tiles.keyAt_eq {stop start : Nat} {groups : List RowGroup} (h : Tiles stop start groups)
    {g : RowGroup} (hg : g ∈ groups) {r : Nat} (hstart : g.start ≤ r) (hstop : r < g.stop) :
    keyAt groups r = g.key := by
  induction h with
  | done => simp at hg
  | @group first rest hne hrest ih =>
    rcases List.mem_cons.1 hg with rfl | hg
    · exact keyAt_cons_of_lt hstart hstop
    · have hbelow := (hrest.bounds hg).1
      rw [keyAt_cons_of_le (by omega), ih hg]

theorem getElem?_carriedKeys (rows : List Row) : ∀ (key : Option Text) {i : Nat}, i < rows.length →
    (carriedKeys (some col) key rows)[i]? = some (carried col key (rows.take (i + 1))) := by
  induction rows with
  | nil => intro key i h; simp at h
  | cons row rest ih =>
    intro key i h
    cases i with
    | zero => simp [carriedKeys, carried]
    | succ i => exact ih _ (by simpa using h)

end Collect

section Range

variable {rows : List Row} {start stop : Nat} (col : Nat)

theorem lastKey_eq (rows : List Row) (start r : Nat) :
    lastKey rows col start r = carried col none ((rows.take (r + 1)).drop start) := by
  rw [carried_eq, Option.or_none, lastKey, List.filter_map, List.getLast?_map, Option.map_map]
  rfl

/-- A row without a key has only rows without a key above it. -/
theorem lastKey_eq_none {r s : Nat} (hle : r ≤ s) (h : lastKey rows col start s = none) :
    lastKey rows col start r = none := by
  simp only [lastKey, Option.map_eq_none_iff, List.getLast?_eq_none_iff, List.filter_eq_nil_iff]
    at h ⊢
  intro c hc
  have hsub : ((rows.take (r + 1)).drop start).Sublist ((rows.take (s + 1)).drop start) :=
    (List.take_sublist_take_left (by omega)).drop start
  exact h c ((hsub.map _).subset hc)

theorem keyAt_ofRange (hstop : stop ≤ rows.length) {r : Nat} (hstart : start ≤ r) (hr : r < stop) :
    keyAt (ofRange rows start stop col) r = lastKey rows col start r := by
  have hlength : ((rows.take stop).drop start).length = stop - start := by
    rw [List.length_drop, List.length_take, Nat.min_eq_left hstop]
  have hi : r - start < ((rows.take stop).drop start).length := by omega
  have hkeys := congrArg (·[r - start]?)
    (carriedKeys_collect col ((rows.take stop).drop start) none (Nat.le_refl start))
  simp only [getElem?_carriedKeys col _ _ hi, List.getElem?_map, List.getElem?_range' hi,
    Option.map_some, Option.some.injEq] at hkeys
  have hrows : ((rows.take stop).drop start).take (r - start + 1)
      = (rows.take (r + 1)).drop start := by
    rw [List.take_drop, List.take_take]
    congr 2
    omega
  rw [lastKey_eq, ← hrows, hkeys, ofRange]
  congr 1
  omega

theorem coarsest_ofRange (hle : start ≤ stop) (hstop : stop ≤ rows.length) :
    Coarsest (lastKey rows col start) stop start (ofRange rows start stop col) where
  tiles := tiles_ofRange col hle hstop
  keys := fun g hg r hstart hr => by
    have htiles := tiles_ofRange col hle hstop
    obtain ⟨hfirst, -, hlast⟩ := htiles.bounds hg
    rw [← htiles.keyAt_eq hg hstart hr, keyAt_ofRange col hstop (by omega) (by omega)]
  parted := isChain_collect col _ start

/-- A range of rows that are there has groups. They tile the range, every row has the last key above
it for the key of its group, neighbours have different keys, so that only the first group can be
without one, and no other groups are like this. -/
theorem ofRange?_coarsest (rows : List Row) (hle : start ≤ stop) (hstop : stop ≤ rows.length) :
    ∃ groups, ofRange? rows start stop col = .ok groups
      ∧ Coarsest (lastKey rows col start) stop start groups
      ∧ (∀ g ∈ groups.tail, g.key ≠ none)
      ∧ ∀ others, Coarsest (lastKey rows col start) stop start others → others = groups := by
  have h := coarsest_ofRange col hle hstop
  exact ⟨ofRange rows start stop col, ofRange?_of_le hstop, h,
    h.key_ne_none fun _ _ hle => lastKey_eq_none col hle, fun others hothers => h.eq hothers⟩

/-- Rows of different lengths: in the second column a key, a row without one, the key once more with
blanks around it, another key and an empty row. -/
def raggedRows : List Row :=
  [[none, some ['a']], [some ['b']], [none, some [' ', 'a']], [none, some ['c']], []]

theorem raggedRows_coarsest : 1 ≤ 5 ∧ 5 ≤ raggedRows.length
    ∧ ∃ groups, ofRange? raggedRows 1 5 1 = .ok groups
      ∧ Coarsest (lastKey raggedRows 1 1) 5 1 groups
      ∧ (∀ g ∈ groups.tail, g.key ≠ none)
      ∧ ∀ others, Coarsest (lastKey raggedRows 1 1) 5 1 others → others = groups :=
  ⟨by decide, by decide, ofRange?_coarsest 1 raggedRows (by decide) (by decide)⟩

end Range

end RowGroup

end MarkedSheet
