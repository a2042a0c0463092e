import MarkedSheet.Pinyin.Lexicon

/-!
# Readings added twice

Readings take the place of what a dictionary had before for the same words. So to add the same
readings again changes nothing (`Lexicon.addAll_addAll`), however the lexicon reads.
-/

namespace MarkedSheet

namespace Mapping

variable {κ ν : Type} [DecidableEq κ]

/-- The mapping with values set one after another. -/
def setAll (m : Mapping κ ν) (pairs : List (κ × ν)) : Mapping κ ν :=
  pairs.foldl (fun m pair => m.set pair.1 pair.2) m

@[simp] theorem setAll_cons (m : Mapping κ ν) (pair : κ × ν) (rest : List (κ × ν)) :
    m.setAll (pair :: rest) = (m.set pair.1 pair.2).setAll rest := rfl

variable {m : Mapping κ ν} {key : κ} {value : ν}

theorem set_of_get? : ∀ {m : Mapping κ ν}, m.get? key = some value → m.set key value = m
  | (k, v) :: rest, h => by
    rw [get?] at h
    rw [set]
    split at h
    next hkey =>
      obtain rfl := Option.some.inj h
      rw [if_pos hkey, hkey]
    next hkey => rw [if_neg hkey, set_of_get? h]

/-- A key that is there keeps its place, so another one can be set before. -/
theorem set_comm {other : κ} (w : ν) (hne : key ≠ other) : ∀ {m : Mapping κ ν},
    (m.get? key).isSome → (m.set key value).set other w = (m.set other w).set key value
  | (k, v) :: rest, h => by
    rw [get?] at h
    by_cases hkey : k = key
    · have hother : k ≠ other := hkey ▸ hne
      simp [set, hkey, hne]
    · rw [if_neg hkey] at h
      by_cases hother : k = other
      · simp [set, hother, Ne.symm hne]
      · simp [set, hkey, hother, set_comm w hne h]

theorem isSome_set {other : κ} (w : ν) (h : (m.get? key).isSome) :
    ((m.set other w).get? key).isSome := by
  rw [get?_set]
  split
  · rfl
  · exact h

theorem isSome_setAll {pairs : List (κ × ν)} : ∀ {m : Mapping κ ν}, (m.get? key).isSome →
    ((m.setAll pairs).get? key).isSome := by
  induction pairs with
  | nil => exact fun h => h
  | cons pair rest ih => exact fun h => ih (isSome_set pair.2 h)

/-- What is set later counts. -/
theorem setAll_set {pairs : List (κ × ν)} (hmem : key ∈ pairs.map Prod.fst) :
    ∀ {m : Mapping κ ν}, (m.get? key).isSome → (m.set key value).setAll pairs = m.setAll pairs := by
  induction pairs with
  | nil => cases hmem
  | cons pair rest ih =>
    intro m h
    rw [setAll_cons, setAll_cons]
    by_cases hkey : pair.1 = key
    · rw [hkey, set_set]
    · rw [set_comm pair.2 (Ne.symm hkey) h]
      exact ih ((List.mem_cons.1 hmem).resolve_left (Ne.symm hkey)) (isSome_set pair.2 h)

/-- What is not set again stays. -/
theorem get?_setAll {pairs : List (κ × ν)} (hmem : key ∉ pairs.map Prod.fst) :
    ∀ {m : Mapping κ ν}, (m.setAll pairs).get? key = m.get? key := by
  induction pairs with
  | nil => exact rfl
  | cons pair rest ih =>
    intro m
    rw [List.map_cons, List.mem_cons, not_or] at hmem
    rw [setAll_cons, ih hmem.2, get?_set, if_neg (Ne.symm hmem.1)]

/-- To set the same values again changes nothing. -/
theorem setAll_setAll (pairs : List (κ × ν)) : ∀ m : Mapping κ ν,
    (m.setAll pairs).setAll pairs = m.setAll pairs := by
  induction pairs with
  | nil => exact fun _ => rfl
  | cons pair rest ih =>
    intro m
    rw [setAll_cons, setAll_cons]
    have hset : ((m.set pair.1 pair.2).get? pair.1) = some pair.2 := by
      rw [get?_set, if_pos rfl]
    by_cases hmem : pair.1 ∈ rest.map Prod.fst
    · rw [setAll_set hmem (isSome_setAll (by rw [hset]; rfl)), ih]
    · rw [set_of_get? ((get?_setAll hmem).trans hset), ih]

end Mapping

namespace Pinyin

namespace Dictionary

/-- The phrase that is added with its syllables, if it is one. -/
def phraseOf? (added : Text × Text) : Option (Text × List Text) :=
  match added.1 with
  | [_] => none
  | word => some (word, added.2.words)

/-- The character that is added with its readings, if it is one. -/
def readingOf? (added : Text × Text) : Option (Char × Text) :=
  match added.1 with
  | [c] => some (c, Text.join [','] added.2.words)
  | _ => none

theorem addAll_eq (added : Mapping Text Text) : ∀ d : Dictionary, d.addAll added
    = ⟨d.phrases.setAll (added.filterMap phraseOf?),
      d.readings.setAll (added.filterMap readingOf?)⟩ := by
  induction added with
  | nil => exact fun _ => rfl
  | cons entry rest ih =>
    intro d
    obtain ⟨word, reading⟩ := entry
    change (d.add word reading).addAll rest = _
    rw [ih]
    rcases word with _ | ⟨c, _ | ⟨e, more⟩⟩ <;> rfl

end Dictionary

/-- To add readings a second time changes nothing. -/
theorem Lexicon.addAll_addAll (lexicon : Lexicon) (added : Mapping Text Text) :
    (lexicon.addAll added).addAll added = lexicon.addAll added := by
  simp only [addAll, Dictionary.addAll_eq, Mapping.setAll_setAll]

end Pinyin

end MarkedSheet
