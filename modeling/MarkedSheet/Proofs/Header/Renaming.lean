import MarkedSheet.Header.Schema
import MarkedSheet.Proofs.Header.Layout

/-!
# Outlines in other columns

Two outlines are one arrangement in different columns (`Renames`) if they have the same items in the
same nesting, each column of the first exchanged for another, and differ otherwise in items that
write nothing where they stand. A close is no part of the arrangement: what counts is the items
before it.
-/

namespace MarkedSheet

/-- The second outline is the first with its columns exchanged by `f`; all of them satisfy `P`.
Items that write nothing may be missing from it. -/
inductive Renames (P : Nat → Prop) (f : Nat → Nat) : List Item → List Item → Prop
  | nil : Renames P f [] []
  | plain {col : Nat} {rest rest' : List Item} (hcol : P col) (hrest : Renames P f rest rest') :
      Renames P f (.plain col :: rest) (.plain (f col) :: rest')
  | ability {col : Nat} {rest rest' : List Item} (hcol : P col) (hrest : Renames P f rest rest') :
      Renames P f (.ability col :: rest) (.ability (f col) :: rest')
  | pairs {keyCol valueCol : Nat} {unwritten : List Nat} {rest rest' : List Item}
      (hkey : P keyCol) (hvalue : P valueCol) (hunwritten : ∀ col ∈ unwritten, P col)
      (hrest : Renames P f rest rest') :
      Renames P f (.pairs keyCol valueCol unwritten :: rest)
        (.pairs (f keyCol) (f valueCol) (unwritten.map f) :: rest')
  | loneKey {col : Nat} {rest rest' : List Item} (hcol : P col) (hrest : Renames P f rest rest') :
      Renames P f (.loneKey col :: rest) (.loneKey (f col) :: rest')
  | container {family : Family} {col close close' : Nat} {items items' rest rest' : List Item}
      (hcol : P col) (hitems : Renames P f items items') (hrest : Renames P f rest rest') :
      Renames P f (.container family col close items :: rest)
        (.container family (f col) close' items' :: rest')
  | silent {col : Nat} {kind : Kind} {rest rest' : List Item} (hrest : Renames P f rest rest') :
      Renames P f (.silent col kind :: rest) (.silent (f col) kind :: rest')
  | dropped {col : Nat} {kind : Kind} {rest rest' : List Item} (hrest : Renames P f rest rest') :
      Renames P f (.silent col kind :: rest) rest'

namespace Schema

variable {schema : Schema}

/-- The columns between a key column and its value column that could have been written are
meaningful. -/
theorem mem_meaningful_of_unwritten {keyCol valueCol col : Nat}
    (h : col ∈ unwrittenBetween schema.kinds keyCol valueCol) : col ∈ schema.meaningful := by
  obtain ⟨-, hwritten⟩ := List.mem_filter.1 h
  rcases hkind : schema.kinds[col]? with _ | kind
  · simp [hkind] at hwritten
  · refine mem_meaningful hkind ?_
    rintro rfl
    simp [hkind, Kind.annotates] at hwritten

end Schema

/-- Every outline within the title row is its own arrangement, in meaningful columns. -/
theorem Laid.renames_self {schema : Schema} {col stop : Nat} {items : List Item}
    (h : Laid schema.kinds col stop items) : Renames (· ∈ schema.meaningful) id items items := by
  induction h with
  | done _ => exact .nil
  | plain _ hkind _ ih => exact .plain (Schema.mem_meaningful hkind (by simp)) ih
  | ability _ hkind _ ih => exact .ability (Schema.mem_meaningful hkind (by simp)) ih
  | @pairs col valueCol _ _ _ hkind hvalue _ ih =>
    have hunwritten : ∀ passed ∈ unwrittenBetween schema.kinds col valueCol,
        passed ∈ schema.meaningful := fun _ => Schema.mem_meaningful_of_unwritten
    have h := Renames.pairs (Schema.mem_meaningful hkind (by simp))
      (Schema.mem_meaningful (valueColumn_lt hvalue).2.2 (by simp)) hunwritten ih
    rwa [List.map_id] at h
  | loneKey _ hkind _ _ ih => exact .loneKey (Schema.mem_meaningful hkind (by simp)) ih
  | container _ hkind _ _ _ ihItems ihRest =>
    exact .container (Schema.mem_meaningful hkind (by simp)) ihItems ihRest
  | silent _ _ _ _ ih => exact .silent ih

end MarkedSheet
