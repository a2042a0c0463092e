import Mathlib.Order.Bounds.Basic
import MarkedSheet.Proofs.Header.Pairing

/-!
# The first balanced close

The search for a close keeps one number, how many inner containers of the family are open. What it
finds can be said by counting alone: the first close of the family with as many opens as closes of
the family before it (`closeOffset?_cases`). The search only gets shorter when it starts further on
(`exists_closeOffset?_drop`), so the scope that a container gives to the containers in it changes
none of their closes (`closeColumn_first_balanced`). Nothing here asks for brackets that are
properly nested.
-/

namespace MarkedSheet

/-- The kind in place `n` is a close of the family, and before it stand as many closes as opens,
with `depth` more opens before the list. -/
def ClosesAt (family : Family) (depth : Nat) (kinds : List Kind) (n : Nat) : Prop :=
  kinds[n]? = some (.closing family)
    ∧ depth + (kinds.take n).count (.opening family) = (kinds.take n).count (.closing family)

section Search

variable {family : Family} {depth : Nat} {kind : Kind} {rest kinds : List Kind}

theorem closesAt_zero :
    ClosesAt family depth (kind :: rest) 0 ↔ kind = .closing family ∧ depth = 0 := by
  simp [ClosesAt]

theorem closesAt_opening_succ {n : Nat} : ClosesAt family depth (.opening family :: rest) (n + 1)
    ↔ ClosesAt family (depth + 1) rest n := by
  simp only [ClosesAt, List.getElem?_cons_succ, List.take_succ_cons, List.count_cons_self]
  rw [List.count_cons_of_ne (by simp), Nat.add_assoc, Nat.add_comm 1]

theorem closesAt_closing_succ {n : Nat} :
    ClosesAt family (depth + 1) (.closing family :: rest) (n + 1)
      ↔ ClosesAt family depth rest n := by
  simp only [ClosesAt, List.getElem?_cons_succ, List.take_succ_cons, List.count_cons_self]
  rw [List.count_cons_of_ne (by simp), Nat.add_right_comm, Nat.add_right_cancel_iff]

theorem closesAt_other_succ {n : Nat} (hopening : kind ≠ .opening family)
    (hclosing : kind ≠ .closing family) : ClosesAt family depth (kind :: rest) (n + 1)
      ↔ ClosesAt family depth rest n := by
  simp only [ClosesAt, List.getElem?_cons_succ, List.take_succ_cons]
  rw [List.count_cons_of_ne hopening, List.count_cons_of_ne hclosing]

/-- The search finds the first place that closes, and nothing only if no place does. -/
def Finds (found : Option Nat) (closes : Nat → Prop) : Prop :=
  match found with
  | some n => IsLeast {n | closes n} n
  | none => ∀ n, ¬ closes n

theorem finds_succ {found : Option Nat} {closes later : Nat → Prop} (hzero : ¬ closes 0)
    (hsucc : ∀ n, closes (n + 1) ↔ later n) (h : Finds found later) :
    Finds (found.map (· + 1)) closes := by
  cases found with
  | none =>
    intro n hn
    cases n with
    | zero => exact hzero hn
    | succ n => exact h n ((hsucc n).1 hn)
  | some m =>
    refine ⟨(hsucc m).2 h.1, fun n hn => ?_⟩
    cases n with
    | zero => exact absurd hn hzero
    | succ n => exact Nat.succ_le_succ (h.2 ((hsucc n).1 hn))

theorem finds_closeOffset? (family : Family) (kinds : List Kind) : ∀ depth,
    Finds (closeOffset? family depth kinds) (ClosesAt family depth kinds) := by
  induction kinds with
  | nil =>
    intro depth n hn
    simp [ClosesAt] at hn
  | cons kind rest ih =>
    intro depth
    unfold closeOffset?
    split
    next hopening =>
      subst hopening
      exact finds_succ (by simp [closesAt_zero]) (fun n => closesAt_opening_succ) (ih (depth + 1))
    next hopening =>
      split
      next hclosing =>
        subst hclosing
        cases depth with
        | zero => exact ⟨closesAt_zero.2 ⟨rfl, rfl⟩, fun _ _ => Nat.zero_le _⟩
        | succ depth =>
          exact finds_succ (by simp [closesAt_zero]) (fun n => closesAt_closing_succ) (ih depth)
      next hclosing =>
        exact finds_succ (by simp [closesAt_zero, hclosing])
          (fun n => closesAt_other_succ hopening hclosing) (ih depth)

/-- With fewer containers open the close comes no later. -/
theorem exists_closeOffset?_le {kinds : List Kind} : ∀ {depth less n : Nat}, less ≤ depth →
    closeOffset? family depth kinds = some n →
      ∃ m ≤ n, closeOffset? family less kinds = some m := by
  induction kinds with
  | nil =>
    intro depth less n _ h
    simp [closeOffset?] at h
  | cons kind rest ih =>
    intro depth less n hless h
    have hlater : ∀ {depth less : Nat}, less ≤ depth →
        (closeOffset? family depth rest).map (· + 1) = some n →
        ∃ m ≤ n, (closeOffset? family less rest).map (· + 1) = some m := by
      intro depth less hless h
      obtain ⟨k, hk, rfl⟩ := Option.map_eq_some_iff.1 h
      obtain ⟨m, hm, hfound⟩ := ih hless hk
      exact ⟨m + 1, Nat.succ_le_succ hm, by rw [hfound]; rfl⟩
    unfold closeOffset? at h ⊢
    split at h
    next hopening =>
      rw [if_pos hopening]
      exact hlater (Nat.succ_le_succ hless) h
    next hopening =>
      rw [if_neg hopening]
      split at h
      next hclosing =>
        rw [if_pos hclosing]
        cases less with
        | zero => exact ⟨0, Nat.zero_le n, rfl⟩
        | succ less =>
          obtain ⟨depth, rfl⟩ : ∃ d, depth = d + 1 := ⟨depth - 1, by omega⟩
          exact hlater (Nat.le_of_succ_le_succ hless) h
      next hclosing =>
        rw [if_neg hclosing]
        exact hlater hless h

/-- Past the first column the search goes on, with some number of containers open. -/
theorem exists_closeOffset?_tail {n : Nat}
    (h : closeOffset? family depth (kind :: rest) = some (n + 1)) :
    ∃ depth', closeOffset? family depth' rest = some n := by
  unfold closeOffset? at h
  split at h
  · exact ⟨_, by simpa using h⟩
  · split at h
    · split at h
      · simp at h
      · exact ⟨_, by simpa using h⟩
    · exact ⟨_, by simpa using h⟩

/-- A search that starts before the close, whether in an open or not, ends there at the latest. -/
theorem exists_closeOffset?_drop : ∀ {kinds : List Kind} {depth n k : Nat},
    closeOffset? family depth kinds = some n → k ≤ n →
      ∃ m, closeOffset? family 0 (kinds.drop k) = some m ∧ k + m ≤ n
  | kinds, depth, n, 0, h, _ => by
    obtain ⟨m, hm, hfound⟩ := exists_closeOffset?_le (Nat.zero_le depth) h
    exact ⟨m, hfound, by omega⟩
  | [], _, _, _ + 1, h, _ => by simp [closeOffset?] at h
  | kind :: rest, depth, n, k + 1, h, hk => by
    obtain ⟨n, rfl⟩ : ∃ j, n = j + 1 := ⟨n - 1, by omega⟩
    obtain ⟨depth', h⟩ := exists_closeOffset?_tail h
    obtain ⟨m, hm, hle⟩ := exists_closeOffset?_drop h (Nat.le_of_succ_le_succ hk)
    exact ⟨m, hm, by omega⟩

end Search

/-- A close of the family after the column `opened`, with as many opens as closes of the family in
the columns between. -/
structure BalancedClose (kinds : List Kind) (opened : Nat) (family : Family) (col : Nat) :
    Prop where
  after : opened < col
  closing : kinds[col]? = some (.closing family)
  balanced : ((kinds.take col).drop (opened + 1)).count (.opening family)
    = ((kinds.take col).drop (opened + 1)).count (.closing family)

section Columns

variable {kinds : List Kind} {opened stop : Nat} {family : Family}

theorem closesAt_scope_iff (n : Nat) :
    ClosesAt family 0 ((kinds.take stop).drop (opened + 1)) n
      ↔ BalancedClose kinds opened family (opened + 1 + n) ∧ opened + 1 + n < stop := by
  rw [ClosesAt, List.getElem?_drop, Nat.zero_add]
  rcases Nat.lt_or_ge (opened + 1 + n) stop with hlt | hle
  · have hbetween : ((kinds.take stop).drop (opened + 1)).take n
        = (kinds.take (opened + 1 + n)).drop (opened + 1) := by
      rw [List.drop_take, List.take_take, List.drop_take]
      congr 1
      omega
    rw [List.getElem?_take_of_lt hlt, hbetween]
    exact ⟨fun h => ⟨⟨by omega, h.1, h.2⟩, hlt⟩, fun h => ⟨h.1.closing, h.1.balanced⟩⟩
  · rw [List.getElem?_take_eq_none hle]
    simp [Nat.not_lt.2 hle]

/-- A container is closed where its balanced close and the end of its scope come first. -/
theorem isLeast_closeColumn : IsLeast {col | col = stop ∨ BalancedClose kinds opened family col}
    (closeColumn kinds opened stop family) := by
  have hsearch := finds_closeOffset? family ((kinds.take stop).drop (opened + 1)) 0
  have hoffset : ∀ {col}, BalancedClose kinds opened family col → col < stop → ∃ n,
      col = opened + 1 + n ∧ ClosesAt family 0 ((kinds.take stop).drop (opened + 1)) n :=
    fun {col} hcol hlt => by
      have hafter := hcol.after
      obtain ⟨n, rfl⟩ : ∃ n, col = opened + 1 + n := ⟨col - (opened + 1), by omega⟩
      exact ⟨n, rfl, (closesAt_scope_iff n).2 ⟨hcol, hlt⟩⟩
  refine ⟨?_, fun col hcol => ?_⟩
  · unfold closeColumn
    split
    next n hn =>
      rw [hn] at hsearch
      exact .inr ((closesAt_scope_iff n).1 hsearch.1).1
    next => exact .inl rfl
  · rcases hcol with rfl | hcol
    · exact closeColumn_le ..
    rcases Nat.lt_or_ge col stop with hlt | hle
    · obtain ⟨n, rfl, hn⟩ := hoffset hcol hlt
      unfold closeColumn
      split
      next m hm =>
        rw [hm] at hsearch
        exact Nat.add_le_add_left (hsearch.2 hn) _
      next hnone =>
        rw [hnone] at hsearch
        exact absurd hn (hsearch n)
    · exact (closeColumn_le ..).trans hle

/-- What lies within a container is closed where the container is, or before. -/
theorem closeColumn_within_le {inner : Nat} (hafter : opened < inner)
    (hbefore : inner < closeColumn kinds opened stop family) :
    closeColumn kinds inner stop family ≤ closeColumn kinds opened stop family := by
  unfold closeColumn at hbefore ⊢
  split at hbefore
  next n hn =>
    obtain ⟨m, hm, hle⟩ := exists_closeOffset?_drop hn (show inner - opened ≤ n by omega)
    rw [List.drop_drop, show opened + 1 + (inner - opened) = inner + 1 by omega] at hm
    rw [hm]
    simp only
    omega
  next => exact closeColumn_le kinds inner stop family

/-- A container is closed by the first close of its family that has as many opens as closes of the
family before it, or by the end of its scope if no such close comes before that. The scope that this
gives to the columns within the container leaves all closes of the family where they are, and none
of them comes after that of the container. -/
theorem closeColumn_first_balanced (kinds : List Kind) (opened stop : Nat) (family : Family) :
    (IsLeast {col | BalancedClose kinds opened family col ∧ col < stop}
        (closeColumn kinds opened stop family)
      ∨ (∀ col < stop, ¬ BalancedClose kinds opened family col)
        ∧ closeColumn kinds opened stop family = stop)
    ∧ ∀ inner, opened < inner → inner < closeColumn kinds opened stop family →
      closeColumn kinds inner (closeColumn kinds opened stop family) family
        = closeColumn kinds inner stop family
      ∧ closeColumn kinds inner stop family ≤ closeColumn kinds opened stop family := by
  have hclose : IsLeast {col | col = stop ∨ BalancedClose kinds opened family col} _ :=
    isLeast_closeColumn
  refine ⟨?_, fun inner hafter hbefore => ⟨?_, closeColumn_within_le hafter hbefore⟩⟩
  · rcases (closeColumn_le kinds opened stop family).lt_or_eq with hlt | heq
    · have hbalanced := hclose.1.resolve_left hlt.ne
      exact .inl ⟨⟨hbalanced, hlt⟩, fun col hcol => hclose.2 (.inr hcol.1)⟩
    · refine .inr ⟨fun col hlt hcol => ?_, heq⟩
      have hle := hclose.2 (.inr hcol)
      omega
  · -- The close of the inner container is the least column in both scopes.
    have hle := closeColumn_within_le hafter hbefore
    have hinner : IsLeast {col | col = stop ∨ BalancedClose kinds inner family col} _ :=
      isLeast_closeColumn
    refine isLeast_closeColumn.unique ⟨?_, fun col hcol => ?_⟩
    · refine hinner.1.imp_left fun hstop => hle.antisymm ?_
      rw [hstop]
      exact closeColumn_le ..
    · rcases hcol with rfl | hcol
      · exact hle
      · exact hinner.2 (.inr hcol)

/-- An array within another, across the close of a map that both lie around. -/
def crossedKinds : List Kind :=
  [.opening .arrayAcross, .opening .mapAcross, .opening .arrayAcross, .closing .mapAcross,
    .closing .arrayAcross, .closing .arrayAcross]

theorem crossedKinds_closed : 0 < 2 ∧ 2 < closeColumn crossedKinds 0 6 .arrayAcross
    ∧ IsLeast {col | BalancedClose crossedKinds 0 .arrayAcross col ∧ col < 6} 5
    ∧ closeColumn crossedKinds 2 (closeColumn crossedKinds 0 6 .arrayAcross) .arrayAcross
      = closeColumn crossedKinds 2 6 .arrayAcross
    ∧ closeColumn crossedKinds 2 6 .arrayAcross ≤ closeColumn crossedKinds 0 6 .arrayAcross := by
  have hbefore : 2 < closeColumn crossedKinds 0 6 .arrayAcross := by decide
  have hclose := closeColumn_first_balanced crossedKinds 0 6 .arrayAcross
  refine ⟨by decide, hbefore, ?_, hclose.2 2 (by decide) hbefore⟩
  exact hclose.1.resolve_right fun h => absurd h.2 (by decide)

end Columns

end MarkedSheet
