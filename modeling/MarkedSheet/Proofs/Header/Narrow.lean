import MarkedSheet.Proofs.Header.Renaming

/-!
# Title rows without their ignored columns

When the ignored columns are left out, every column that stays has the place given by the number of
such columns before it (`placeIn`). The close of a container, the value column of a key column and
the columns between them move there as well, so what is left has the same outline in other columns
(`Laid.narrow`).
-/

namespace MarkedSheet

/-- The place, in the filtered list, of what stands at an index of a list. -/
def placeIn {α : Type} (p : α → Bool) (l : List α) (i : Nat) : Nat :=
  (l.take i).countP p

section Places

variable {α : Type} {p : α → Bool} {l : List α} {i : Nat}

@[simp] theorem placeIn_zero : placeIn p l 0 = 0 := by simp [placeIn]

theorem placeIn_cons_succ (a : α) :
    placeIn p (a :: l) (i + 1) = placeIn p l i + if p a then 1 else 0 := by
  simp [placeIn, List.countP_cons]

theorem placeIn_length : placeIn p l l.length = (l.filter p).length := by
  rw [placeIn, List.take_length, List.countP_eq_length_filter]

theorem placeIn_add (n : Nat) :
    placeIn p l (i + n) = placeIn p l i + placeIn p (l.drop i) n := by
  rw [placeIn, List.take_add, List.countP_append]
  rfl

theorem placeIn_take {m : Nat} (h : i ≤ m) : placeIn p (l.take m) i = placeIn p l i := by
  rw [placeIn, List.take_take, Nat.min_eq_left h, placeIn]

theorem placeIn_map {β : Type} {p : β → Bool} (f : α → β) :
    placeIn p (l.map f) i = placeIn (p ∘ f) l i := by
  rw [placeIn, ← List.map_take, List.countP_map, placeIn]

theorem placeIn_mono {j : Nat} (h : i ≤ j) : placeIn p l i ≤ placeIn p l j := by
  obtain ⟨n, rfl⟩ := Nat.exists_eq_add_of_le h
  rw [placeIn_add]
  exact Nat.le_add_right _ _

theorem drop_filter_placeIn : (l.filter p).drop (placeIn p l i) = (l.drop i).filter p := by
  have hsplit : l.filter p = (l.take i).filter p ++ (l.drop i).filter p := by
    rw [← List.filter_append, List.take_append_drop]
  rw [hsplit, placeIn, List.countP_eq_length_filter, List.drop_left]

theorem take_filter_placeIn : (l.filter p).take (placeIn p l i) = (l.take i).filter p := by
  have hsplit : l.filter p = (l.take i).filter p ++ (l.drop i).filter p := by
    rw [← List.filter_append, List.take_append_drop]
  rw [hsplit, placeIn, List.countP_eq_length_filter, List.take_left]

section Member

variable {a : α} (hget : l[i]? = some a)

include hget

theorem placeIn_succ : placeIn p l (i + 1) = placeIn p l i + if p a then 1 else 0 := by
  rw [placeIn, List.take_add_one, hget, List.countP_append, placeIn]
  simp [List.countP_cons]

theorem getElem?_filter_placeIn (ha : p a) : (l.filter p)[placeIn p l i]? = some a := by
  have hdrop : l.drop i = a :: l.drop (i + 1) := by
    obtain ⟨hi, rfl⟩ := List.getElem?_eq_some_iff.1 hget
    exact List.drop_eq_getElem_cons hi
  have h := congrArg (·[0]?) (drop_filter_placeIn (p := p) (l := l) (i := i))
  simpa [hdrop, ha] using h

theorem placeIn_lt (ha : p a) {j : Nat} (hij : i < j) : placeIn p l i < placeIn p l j := by
  have hsucc := placeIn_succ (p := p) hget
  have hmono : placeIn p l (i + 1) ≤ placeIn p l j := placeIn_mono hij
  rw [if_pos ha] at hsucc
  omega

end Member

theorem findIdx?_filter {q : α → Bool} (hq : ∀ a, q a → p a) : ∀ l : List α,
    (l.filter p).findIdx? q = (l.findIdx? q).map (placeIn p l)
  | [] => rfl
  | a :: rest => by
    have ih := findIdx?_filter hq rest
    by_cases ha : q a
    · simp [hq a ha, ha, List.findIdx?_cons]
    · by_cases hp : p a
      · rw [List.filter_cons_of_pos hp, List.findIdx?_cons, if_neg ha, ih, List.findIdx?_cons,
          if_neg ha, Option.map_map, Option.map_map]
        exact Option.map_congr fun i _ => by simp [placeIn_cons_succ, hp]
      · rw [List.filter_cons_of_neg hp, ih, List.findIdx?_cons, if_neg ha, Option.map_map]
        exact Option.map_congr fun i _ => by simp [placeIn_cons_succ, hp]

/-- The members of a range that satisfy more than `p` have their places in the filtered list. -/
theorem map_placeIn_range {q : α → Bool} (hq : ∀ a, q a → p a) (start : Nat) : ∀ n : Nat,
    start + n ≤ l.length →
      ((List.range' start n).filter fun i => (l[i]?).elim false q).map (placeIn p l)
        = (List.range' (placeIn p l start) (placeIn p l (start + n) - placeIn p l start)).filter
          fun i => ((l.filter p)[i]?).elim false q
  | 0, _ => by simp
  | n + 1, hlong => by
    have ih := map_placeIn_range hq start n (by omega)
    obtain ⟨a, hget⟩ : ∃ a, l[start + n]? = some a :=
      ⟨l[start + n], List.getElem?_eq_getElem hlong⟩
    have hmono : placeIn p l start ≤ placeIn p l (start + n) := placeIn_mono (Nat.le_add_right ..)
    have hsucc : placeIn p l (start + (n + 1)) = placeIn p l (start + n) + if p a then 1 else 0 :=
      placeIn_succ hget
    -- The last member of the range has a place of its own only if it satisfies `p`.
    rw [List.range'_1_concat, List.filter_append, List.map_append, ih, hsucc]
    by_cases ha : p a
    · rw [if_pos ha, Nat.sub_add_comm hmono, List.range'_1_concat, Nat.add_sub_cancel' hmono,
        List.filter_append]
      by_cases hqa : q a <;> simp [hget, getElem?_filter_placeIn hget ha, hqa]
    · have hqa : q a = false := Bool.eq_false_iff.2 fun h => ha (hq a h)
      simp [hget, hqa, ha]

end Places

/-- A column of this kind is read. -/
def Kind.isMeaningful : Kind → Bool
  | .ignored => false
  | _ => true

theorem Kind.isMeaningful_iff {kind : Kind} : kind.isMeaningful ↔ kind ≠ .ignored := by
  cases kind <;> simp [isMeaningful]

theorem Kind.isMeaningful_of_not_annotates {kind : Kind} (h : !kind.annotates) :
    kind.isMeaningful := by
  cases kind <;> simp_all [isMeaningful, annotates]

/-- The column when the ignored columns before it are left out. -/
def narrowCol (kinds : List Kind) (col : Nat) : Nat :=
  placeIn Kind.isMeaningful kinds col

section Columns

variable {kinds : List Kind} {col stop : Nat}

theorem narrowCol_mono {last : Nat} (h : col ≤ last) : narrowCol kinds col ≤ narrowCol kinds last :=
  placeIn_mono h

section Meaningful

variable {kind : Kind} (hkind : kinds[col]? = some kind) (hne : kind ≠ .ignored)

include hkind

theorem narrowCol_succ_of_ignored (h : kind = .ignored) :
    narrowCol kinds (col + 1) = narrowCol kinds col := by
  subst h
  exact placeIn_succ hkind

include hne

theorem narrowCol_succ : narrowCol kinds (col + 1) = narrowCol kinds col + 1 := by
  rw [narrowCol, placeIn_succ hkind, if_pos (Kind.isMeaningful_iff.2 hne), narrowCol]

theorem narrowCol_lt (hlt : col < stop) : narrowCol kinds col < narrowCol kinds stop :=
  placeIn_lt hkind (Kind.isMeaningful_iff.2 hne) hlt

theorem kind_narrowCol : (kinds.filter Kind.isMeaningful)[narrowCol kinds col]? = some kind :=
  getElem?_filter_placeIn hkind (Kind.isMeaningful_iff.2 hne)

/-- The columns after one and before another, without the ignored ones. -/
theorem filter_columns (hlt : col < stop) :
    ((kinds.filter Kind.isMeaningful).take (narrowCol kinds stop)).drop (narrowCol kinds col + 1)
      = ((kinds.take stop).drop (col + 1)).filter Kind.isMeaningful := by
  have hplace : narrowCol kinds (col + 1)
      = placeIn Kind.isMeaningful (kinds.take stop) (col + 1) := (placeIn_take hlt).symm
  have htake : (kinds.filter Kind.isMeaningful).take (narrowCol kinds stop)
      = (kinds.take stop).filter Kind.isMeaningful := take_filter_placeIn
  rw [htake, ← narrowCol_succ hkind hne, hplace, drop_filter_placeIn]

/-- The place of a column among the columns after another and before the end of the range. -/
theorem narrowCol_add {n : Nat} (hn : col + 1 + n ≤ stop) :
    narrowCol kinds (col + 1 + n) = narrowCol kinds col + 1
      + placeIn Kind.isMeaningful ((kinds.take stop).drop (col + 1)) n := by
  rw [← narrowCol_succ hkind hne, narrowCol, narrowCol, ← placeIn_take hn, placeIn_add,
    placeIn_take (by omega)]

end Meaningful

theorem closeOffset?_filter (family : Family) : ∀ (kinds : List Kind) (depth : Nat),
    closeOffset? family depth (kinds.filter Kind.isMeaningful)
      = (closeOffset? family depth kinds).map (placeIn Kind.isMeaningful kinds)
  | [], _ => rfl
  | kind :: rest, depth => by
    have ih := closeOffset?_filter family rest
    by_cases hkind : kind.isMeaningful
    · have hsucc : ∀ depth, (closeOffset? family depth (rest.filter Kind.isMeaningful)).map (· + 1)
          = ((closeOffset? family depth rest).map (· + 1)).map
            (placeIn Kind.isMeaningful (kind :: rest)) := by
        intro depth
        rw [ih, Option.map_map, Option.map_map]
        exact Option.map_congr fun i _ => by simp [placeIn_cons_succ, hkind]
      rw [List.filter_cons_of_pos hkind]
      unfold closeOffset?
      split
      · exact hsucc _
      · split
        · split
          · simp
          · exact hsucc _
        · exact hsucc _
    · obtain rfl : kind = .ignored := by
        cases kind <;> simp_all [Kind.isMeaningful]
      have hignored : closeOffset? family depth (.ignored :: rest)
          = (closeOffset? family depth rest).map (· + 1) := by
        rw [closeOffset?.eq_def]
        simp
      rw [List.filter_cons_of_neg hkind, ih, hignored, Option.map_map]
      exact Option.map_congr fun i _ => by simp [placeIn_cons_succ, Kind.isMeaningful]

theorem closeColumn_filter {family : Family} (hkind : kinds[col]? = some (.opening family))
    (hlt : col < stop) :
    closeColumn (kinds.filter Kind.isMeaningful) (narrowCol kinds col) (narrowCol kinds stop) family
      = narrowCol kinds (closeColumn kinds col stop family) := by
  have hle := closeColumn_le kinds col stop family
  unfold closeColumn at hle ⊢
  rw [filter_columns hkind (by simp) hlt, closeOffset?_filter]
  rcases hoffset : closeOffset? family 0 ((kinds.take stop).drop (col + 1)) with _ | offset
  · rfl
  · rw [hoffset] at hle
    exact (narrowCol_add hkind (by simp) hle).symm

/-- The value column at another place. -/
def ValueColumn.map (f : Nat → Nat) : ValueColumn → ValueColumn
  | .found col => .found (f col)
  | .absent => .absent
  | .beyond => .beyond

theorem valueColumn_filter (hkind : kinds[col]? = some .key) (hlt : col < stop)
    (hstop : stop ≤ kinds.length) :
    valueColumn (kinds.filter Kind.isMeaningful) (narrowCol kinds col) (narrowCol kinds stop)
      = (valueColumn kinds col stop).map (narrowCol kinds) := by
  have hplace : ¬ (kinds.filter Kind.isMeaningful).length < narrowCol kinds stop := by
    rw [← placeIn_length]
    exact Nat.not_lt.2 (placeIn_mono hstop)
  have hq : ∀ kind : Kind, (kind = .value || kind = .key) → kind.isMeaningful := by
    intro kind hkind
    cases kind <;> simp_all [Kind.isMeaningful]
  unfold valueColumn
  simp only [filter_columns hkind (by simp) hlt, hplace, Nat.not_lt.2 hstop, if_false,
    findIdx?_filter hq]
  rcases hfound : ((kinds.take stop).drop (col + 1)).findIdx?
      fun kind => decide (kind = .value) || decide (kind = .key) with _ | offset
  · simp only [hfound]
    rfl
  · obtain ⟨hin, hholds, -⟩ := List.findIdx?_eq_some_iff_getElem.1 hfound
    have hget := List.getElem?_eq_getElem hin
    have hoffset : col + 1 + offset ≤ stop := by
      simp only [List.length_drop, List.length_take] at hin
      omega
    simp only [hfound, Option.map_some]
    rw [getElem?_filter_placeIn hget (hq _ hholds), hget]
    split
    · rw [ValueColumn.map, narrowCol_add hkind (by simp) hoffset]
    · rfl

theorem unwrittenBetween_filter {valueCol : Nat} (hkind : kinds[col]? = some .key)
    (hlt : col < valueCol) (hvalue : valueCol ≤ kinds.length) :
    unwrittenBetween (kinds.filter Kind.isMeaningful) (narrowCol kinds col)
        (narrowCol kinds valueCol)
      = (unwrittenBetween kinds col valueCol).map (narrowCol kinds) := by
  obtain ⟨n, rfl⟩ := Nat.exists_eq_add_of_le (Nat.succ_le_of_lt hlt)
  have h := map_placeIn_range (p := Kind.isMeaningful) (fun _ => Kind.isMeaningful_of_not_annotates)
    (col + 1) n hvalue
  have hsucc : placeIn Kind.isMeaningful kinds (col + 1) = narrowCol kinds col + 1 :=
    narrowCol_succ hkind (by simp)
  unfold unwrittenBetween
  rw [hsucc] at h
  rw [Nat.add_sub_cancel_left]
  exact h.symm

end Columns

/-- Without the ignored columns the outline is the same in other columns. -/
theorem Laid.narrow {schema : Schema} {col stop : Nat} {items : List Item}
    (h : Laid schema.kinds col stop items) : stop ≤ schema.kinds.length →
      ∃ items', Laid (schema.kinds.filter Kind.isMeaningful) (narrowCol schema.kinds col)
          (narrowCol schema.kinds stop) items'
        ∧ Renames (· ∈ schema.meaningful) (narrowCol schema.kinds) items items' := by
  induction h with
  | done hend => exact fun _ => ⟨[], .done (narrowCol_mono hend), .nil⟩
  | plain hlt hkind _ ih =>
    intro hstop
    obtain ⟨rest', hrest', hrenames⟩ := ih hstop
    rw [narrowCol_succ hkind (by simp)] at hrest'
    exact ⟨_, .plain (narrowCol_lt hkind (by simp) hlt) (kind_narrowCol hkind (by simp)) hrest',
      .plain (Schema.mem_meaningful hkind (by simp)) hrenames⟩
  | ability hlt hkind _ ih =>
    intro hstop
    obtain ⟨rest', hrest', hrenames⟩ := ih hstop
    rw [narrowCol_succ hkind (by simp)] at hrest'
    exact ⟨_, .ability (narrowCol_lt hkind (by simp) hlt) (kind_narrowCol hkind (by simp)) hrest',
      .ability (Schema.mem_meaningful hkind (by simp)) hrenames⟩
  | @pairs col valueCol stop rest hlt hkind hvalue hrest ih =>
    intro hstop
    obtain ⟨rest', hrest', hrenames⟩ := ih hstop
    obtain ⟨hafter, hbefore, hvalueKind⟩ := valueColumn_lt hvalue
    rw [narrowCol_succ hvalueKind (by simp)] at hrest'
    have hfound := valueColumn_filter hkind hlt hstop
    rw [hvalue] at hfound
    have hlaid := Laid.pairs (narrowCol_lt hkind (by simp) hlt) (kind_narrowCol hkind (by simp))
      hfound hrest'
    rw [unwrittenBetween_filter hkind hafter (by omega)] at hlaid
    exact ⟨_, hlaid, .pairs (Schema.mem_meaningful hkind (by simp))
      (Schema.mem_meaningful hvalueKind (by simp))
      (fun _ hcol => Schema.mem_meaningful_of_unwritten hcol) hrenames⟩
  | loneKey hlt hkind hvalue _ ih =>
    intro hstop
    obtain ⟨rest', hrest', hrenames⟩ := ih hstop
    rw [narrowCol_succ hkind (by simp)] at hrest'
    have habsent := valueColumn_filter hkind hlt hstop
    rw [hvalue] at habsent
    exact ⟨_, .loneKey (narrowCol_lt hkind (by simp) hlt) (kind_narrowCol hkind (by simp)) habsent
      hrest', .loneKey (Schema.mem_meaningful hkind (by simp)) hrenames⟩
  | @container family col close stop items rest hlt hkind hclose hitems hrest ihItems ihRest =>
    intro hstop
    have hle : close ≤ stop := hclose ▸ closeColumn_le schema.kinds col stop family
    obtain ⟨items', hitems', hinside⟩ := ihItems (Nat.le_trans hle hstop)
    rw [narrowCol_succ hkind (by simp)] at hitems'
    have hclose' := closeColumn_filter hkind hlt
    rw [hclose] at hclose'
    -- A container that lasts to the end of its scope has no close of its own, and nothing follows.
    obtain ⟨rest', hrest', hrenames⟩ : ∃ rest',
        Laid (schema.kinds.filter Kind.isMeaningful) (narrowCol schema.kinds close + 1)
          (narrowCol schema.kinds stop) rest'
        ∧ Renames (· ∈ schema.meaningful) (narrowCol schema.kinds) rest rest' := by
      rcases Nat.lt_or_ge close stop with hbefore | hover
      · obtain ⟨rest', hrest', hrenames⟩ := ihRest hstop
        subst hclose
        rw [narrowCol_succ (kind_closeColumn hbefore) (by simp)] at hrest'
        exact ⟨rest', hrest', hrenames⟩
      · obtain rfl : close = stop := by omega
        obtain rfl : rest = [] := by
          cases hrest with
          | done _ => rfl
          | _ => omega
        exact ⟨[], .done (Nat.le_succ _), .nil⟩
    exact ⟨_, .container (narrowCol_lt hkind (by simp) hlt) (kind_narrowCol hkind (by simp)) hclose'
      hitems' hrest', .container (Schema.mem_meaningful hkind (by simp)) hinside hrenames⟩
  | @silent kind col stop rest hlt hkind hsilent _ ih =>
    intro hstop
    obtain ⟨rest', hrest', hrenames⟩ := ih hstop
    by_cases hignored : kind = .ignored
    · rw [narrowCol_succ_of_ignored hkind hignored] at hrest'
      exact ⟨rest', hrest', .dropped hrenames⟩
    · rw [narrowCol_succ hkind hignored] at hrest'
      exact ⟨_, .silent (narrowCol_lt hkind hignored hlt) (kind_narrowCol hkind hignored) hsilent
        hrest', .silent hrenames⟩

end MarkedSheet
