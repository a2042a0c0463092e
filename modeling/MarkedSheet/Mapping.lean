/-!
# Mappings that keep their order

A mapping is its list of keys and values in the order in which the keys first came. Setting a key
that is there keeps its place. `get?_set` says what a look-up finds afterwards.
-/

namespace MarkedSheet

/-- Keys and values, in the order in which the keys first came. -/
abbrev Mapping (κ ν : Type) := List (κ × ν)

namespace Mapping

variable {κ ν : Type} [DecidableEq κ]

/-- The value of a key. -/
def get? : Mapping κ ν → κ → Option ν
  | [], _ => none
  | (k, v) :: rest, key => if k = key then some v else get? rest key

/-- The mapping with the value of a key set: in its place if the key is there, else at the end. -/
def set : Mapping κ ν → κ → ν → Mapping κ ν
  | [], key, value => [(key, value)]
  | (k, v) :: rest, key, value =>
    if k = key then (k, value) :: rest else (k, v) :: set rest key value

/-- The mapping that pairs give, of which the last for a key counts. -/
def ofList (pairs : List (κ × ν)) : Mapping κ ν :=
  pairs.foldl (fun m pair => set m pair.1 pair.2) []

theorem get?_set (m : Mapping κ ν) (key : κ) (value : ν) (k : κ) :
    get? (set m key value) k = if key = k then some value else get? m k := by
  induction m with
  | nil => by_cases h : key = k <;> simp [set, get?, h]
  | cons pair rest ih =>
    obtain ⟨k', v⟩ := pair
    by_cases h : k' = key
    · by_cases hk : key = k <;> simp_all [set, get?]
    · by_cases hk : k' = k
      · subst hk
        simp [set, get?, h, Ne.symm h]
      · simp [set, get?, h, hk, ih]

theorem set_set (m : Mapping κ ν) (key : κ) (value other : ν) :
    set (set m key value) key other = set m key other := by
  induction m with
  | nil => simp [set]
  | cons pair rest ih => by_cases h : pair.1 = key <;> simp [set, h, ih]

end Mapping

end MarkedSheet
