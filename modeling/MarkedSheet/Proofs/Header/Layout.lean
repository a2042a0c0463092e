import MarkedSheet.Header.Outline

/-!
# What an outline consists of

An outline is laid out from its first column on: every item stands where the one before it ends, in
a column of its kind, and a container holds the outline of the columns up to its close. Within the
title row every outline is laid out so (`laid_outline`), and what is said of all outlines goes by
induction on `Laid`.
-/

namespace MarkedSheet

/-- A column of this kind writes nothing where it stands. -/
def Kind.isSilent : Kind → Bool
  | .opening _ | .key | .ability | .plain => false
  | _ => true

section Close

variable {family : Family}

theorem getElem?_of_closeOffset? {kinds : List Kind} : ∀ {depth n : Nat},
    closeOffset? family depth kinds = some n → kinds[n]? = some (.closing family) := by
  induction kinds with
  | nil =>
    intro depth n h
    simp [closeOffset?] at h
  | cons kind rest ih =>
    intro depth n h
    unfold closeOffset? at h
    split at h
    · obtain ⟨m, hm, rfl⟩ := Option.map_eq_some_iff.1 h
      simpa using ih hm
    · split at h
      next hkind =>
        split at h
        · obtain rfl : 0 = n := by simpa using h
          simp [hkind]
        · obtain ⟨m, hm, rfl⟩ := Option.map_eq_some_iff.1 h
          simpa using ih hm
      · obtain ⟨m, hm, rfl⟩ := Option.map_eq_some_iff.1 h
        simpa using ih hm

/-- A container that does not last to the end of its scope is closed by a close of its family. -/
theorem kind_closeColumn {kinds : List Kind} {opened stop : Nat}
    (h : closeColumn kinds opened stop family < stop) :
    kinds[closeColumn kinds opened stop family]? = some (.closing family) := by
  unfold closeColumn at h ⊢
  split at h
  next offset hoffset =>
    have hget := getElem?_of_closeOffset? hoffset
    rw [List.getElem?_drop, List.getElem?_take_of_lt h] at hget
    exact hget
  next => exact absurd h (Nat.lt_irrefl _)

end Close

section Value

variable {kinds : List Kind} {keyCol stop : Nat}

theorem valueColumn_ne_beyond (h : stop ≤ kinds.length) :
    valueColumn kinds keyCol stop ≠ .beyond := by
  unfold valueColumn
  simp only
  split
  · split <;> simp
  · simp [Nat.not_lt.2 h]

theorem valueColumn_lt {valueCol : Nat} (h : valueColumn kinds keyCol stop = .found valueCol) :
    keyCol < valueCol ∧ valueCol < stop ∧ kinds[valueCol]? = some .value := by
  have hlt := lt_of_valueColumn_eq_found h
  unfold valueColumn at h
  simp only at h
  split at h
  next offset hoffset =>
    split at h
    next hvalue =>
      obtain rfl : keyCol + 1 + offset = valueCol := by simpa using h
      have hin := (List.findIdx?_eq_some_iff_findIdx_eq.1 hoffset).1
      simp only [List.length_drop, List.length_take] at hin
      have hstop : keyCol + 1 + offset < stop := by omega
      rw [List.getElem?_drop, List.getElem?_take_of_lt hstop] at hvalue
      exact ⟨hlt, hstop, hvalue⟩
    · simp at h
  · split at h <;> simp at h

/-- A column between a key column and its value column is passed over unless it is an
annotation. -/
theorem mem_unwrittenBetween {valueCol col : Nat} {kind : Kind} (hkind : kinds[col]? = some kind)
    (hwritten : kind.annotates = false) (hkey : keyCol < col) (hvalue : col < valueCol) :
    col ∈ unwrittenBetween kinds keyCol valueCol := by
  simp only [unwrittenBetween, List.mem_filter, List.mem_range'_1]
  refine ⟨by omega, ?_⟩
  simp [hkind, hwritten]

end Value

/-- The items are the outline of the columns from `col` up to `stop`. -/
inductive Laid (kinds : List Kind) : Nat → Nat → List Item → Prop
  | done {col stop : Nat} (hend : stop ≤ col) : Laid kinds col stop []
  | plain {col stop : Nat} {rest : List Item} (hlt : col < stop)
      (hkind : kinds[col]? = some .plain) (hrest : Laid kinds (col + 1) stop rest) :
      Laid kinds col stop (.plain col :: rest)
  | ability {col stop : Nat} {rest : List Item} (hlt : col < stop)
      (hkind : kinds[col]? = some .ability) (hrest : Laid kinds (col + 1) stop rest) :
      Laid kinds col stop (.ability col :: rest)
  | pairs {col valueCol stop : Nat} {rest : List Item} (hlt : col < stop)
      (hkind : kinds[col]? = some .key) (hvalue : valueColumn kinds col stop = .found valueCol)
      (hrest : Laid kinds (valueCol + 1) stop rest) :
      Laid kinds col stop (.pairs col valueCol (unwrittenBetween kinds col valueCol) :: rest)
  | loneKey {col stop : Nat} {rest : List Item} (hlt : col < stop)
      (hkind : kinds[col]? = some .key) (hvalue : valueColumn kinds col stop = .absent)
      (hrest : Laid kinds (col + 1) stop rest) : Laid kinds col stop (.loneKey col :: rest)
  | container {family : Family} {col close stop : Nat} {items rest : List Item} (hlt : col < stop)
      (hkind : kinds[col]? = some (.opening family))
      (hclose : closeColumn kinds col stop family = close)
      (hitems : Laid kinds (col + 1) close items) (hrest : Laid kinds (close + 1) stop rest) :
      Laid kinds col stop (.container family col close items :: rest)
  | silent {kind : Kind} {col stop : Nat} {rest : List Item} (hlt : col < stop)
      (hkind : kinds[col]? = some kind) (hsilent : kind.isSilent)
      (hrest : Laid kinds (col + 1) stop rest) : Laid kinds col stop (.silent col kind :: rest)

theorem laid_outline (kinds : List Kind) (col stop : Nat) (hstop : stop ≤ kinds.length) :
    Laid kinds col stop (outline kinds col stop) := by
  fun_induction outline kinds col stop with
  | case1 col stop hlt hnone =>
    have := List.getElem?_eq_none_iff.1 hnone
    omega
  | case2 col stop hlt family hkind ihItems ihRest =>
    have hle := closeColumn_le kinds col stop family
    exact .container hlt hkind rfl (ihItems (by omega)) (ihRest hstop)
  | case3 col stop hlt hkind valueCol hvalue ih => exact .pairs hlt hkind hvalue (ih hstop)
  | case4 col stop hlt hkind hvalue ih => exact .loneKey hlt hkind hvalue (ih hstop)
  | case5 col stop hlt hkind hvalue => exact absurd hvalue (valueColumn_ne_beyond hstop)
  | case6 col stop hlt hkind ih => exact .ability hlt hkind (ih hstop)
  | case7 col stop hlt hkind ih => exact .plain hlt hkind (ih hstop)
  | case8 col stop hlt kind hopening hkey hability hplain hkind ih =>
    refine .silent hlt hkind ?_ (ih hstop)
    cases kind <;> simp_all [Kind.isSilent]
  | case9 col stop hlt => exact .done (by omega)

/-- What is laid out from a column on is the outline. -/
theorem Laid.outline_eq {kinds : List Kind} {col stop : Nat} {items : List Item}
    (h : Laid kinds col stop items) : outline kinds col stop = items := by
  induction h with
  | done hend => rw [outline, dif_neg (Nat.not_lt.2 hend)]
  | plain hlt hkind _ ih => rw [outline, dif_pos hlt, hkind, ih]
  | ability hlt hkind _ ih => rw [outline, dif_pos hlt, hkind, ih]
  | pairs hlt hkind hvalue _ ih =>
    rw [outline, dif_pos hlt, hkind]
    simp only
    split <;> simp_all
  | loneKey hlt hkind hvalue _ ih =>
    rw [outline, dif_pos hlt, hkind]
    simp only
    split <;> simp_all
  | container hlt hkind hclose _ _ ihItems ihRest =>
    subst hclose
    rw [outline, dif_pos hlt, hkind]
    simp [ihItems, ihRest]
  | @silent kind _ _ _ hlt hkind hsilent _ ih =>
    rw [outline, dif_pos hlt, hkind, ih]
    cases kind <;> simp_all [Kind.isSilent]

mutual

/-- The columns that an item looks into. -/
def Item.columns : Item → List Nat
  | .plain col | .ability col | .loneKey col | .silent col _ | .beyond col => [col]
  | .pairs keyCol valueCol unwritten => keyCol :: valueCol :: unwritten
  | .container _ col _ items => col :: columnsOf items

/-- The columns that the items of an outline look into. -/
def columnsOf : List Item → List Nat
  | [] => []
  | item :: rest => item.columns ++ columnsOf rest

end

/-- No item looks beyond the columns of its outline. -/
theorem Laid.columns_lt {kinds : List Kind} {col stop : Nat} {items : List Item}
    (h : Laid kinds col stop items) : ∀ c ∈ columnsOf items, c < stop := by
  have single : ∀ {col stop : Nat} {rest : List Nat}, col < stop → (∀ c ∈ rest, c < stop) →
      ∀ c ∈ [col] ++ rest, c < stop := by
    intro col stop rest hlt hrest c hc
    rcases List.mem_cons.1 hc with rfl | hc
    · exact hlt
    · exact hrest c hc
  induction h with
  | done _ => simp [columnsOf]
  | plain hlt _ _ ih => exact single hlt ih
  | ability hlt _ _ ih => exact single hlt ih
  | loneKey hlt _ _ _ ih => exact single hlt ih
  | silent hlt _ _ _ ih => exact single hlt ih
  | pairs hlt _ hvalue _ ih =>
    obtain ⟨-, hbefore, -⟩ := valueColumn_lt hvalue
    intro c hc
    rcases List.mem_append.1 hc with hc | hc
    · rcases List.mem_cons.1 hc with rfl | hc
      · exact hlt
      · rcases List.mem_cons.1 hc with rfl | hc
        · exact hbefore
        · have hrange := List.mem_range'_1.1 (List.mem_filter.1 hc).1
          omega
    · exact ih c hc
  | @container family col close stop _ _ hlt _ hclose _ _ ihItems ihRest =>
    have hle : close ≤ stop := hclose ▸ closeColumn_le _ col stop family
    intro c hc
    rcases List.mem_append.1 hc with hc | hc
    · rcases List.mem_cons.1 hc with rfl | hc
      · exact hlt
      · exact Nat.lt_of_lt_of_le (ihItems c hc) hle
    · exact ihRest c hc

end MarkedSheet
