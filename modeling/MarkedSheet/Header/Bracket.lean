import MarkedSheet.Header.Kind

/-!
# Matching brackets

The close of a container is the first close of its own family that no later open of that family
takes; other families are passed over. Where there is none before the end of the scope, the scope
closes the container. The close lies after the open and within the scope (`lt_closeColumn`,
`closeColumn_le`).
-/

namespace MarkedSheet

/-- How many kinds come before the close, with so many inner containers of the family open. -/
def closeOffset? (family : Family) : Nat → List Kind → Option Nat
  | _, [] => none
  | depth, kind :: rest =>
    if kind = .opening family then (closeOffset? family (depth + 1) rest).map (· + 1)
    else if kind = .closing family then
      match depth with
      | 0 => some 0
      | depth + 1 => (closeOffset? family depth rest).map (· + 1)
    else (closeOffset? family depth rest).map (· + 1)

/-- The column that closes the container opened in column `opened`, or `stop` if none before `stop`
does. -/
def closeColumn (kinds : List Kind) (opened stop : Nat) (family : Family) : Nat :=
  match closeOffset? family 0 ((kinds.take stop).drop (opened + 1)) with
  | some offset => opened + 1 + offset
  | none => stop

theorem closeOffset?_lt {family : Family} {depth n : Nat} {kinds : List Kind}
    (h : closeOffset? family depth kinds = some n) : n < kinds.length := by
  induction kinds generalizing depth n with
  | nil => simp [closeOffset?] at h
  | cons kind rest ih =>
    unfold closeOffset? at h
    split at h
    · obtain ⟨m, hm, rfl⟩ := Option.map_eq_some_iff.1 h
      have := ih hm
      simp only [List.length_cons]; omega
    · split at h
      · split at h
        · simp only [Option.some.injEq] at h
          simp only [List.length_cons]; omega
        · obtain ⟨m, hm, rfl⟩ := Option.map_eq_some_iff.1 h
          have := ih hm
          simp only [List.length_cons]; omega
      · obtain ⟨m, hm, rfl⟩ := Option.map_eq_some_iff.1 h
        have := ih hm
        simp only [List.length_cons]; omega

theorem lt_closeColumn {kinds : List Kind} {opened stop : Nat} {family : Family}
    (h : opened < stop) : opened < closeColumn kinds opened stop family := by
  unfold closeColumn
  split <;> omega

theorem closeColumn_le (kinds : List Kind) (opened stop : Nat) (family : Family) :
    closeColumn kinds opened stop family ≤ stop := by
  unfold closeColumn
  split
  next offset h =>
    have := closeOffset?_lt h
    simp only [List.length_drop, List.length_take] at this
    omega
  · exact Nat.le_refl _

end MarkedSheet
