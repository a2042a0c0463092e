import MarkedSheet.Proofs.Pinyin.Local

/-!
# Lexicons that read by phrases

A dictionary whose phrases do not have more syllables than characters reads every run (`isTotal`).
If it has Latin letters for all it knows, the lexicon is plain (`isPlain`), and if it has readings
without Chinese characters for all of these, none is left of a run (`leavesNoHan`).
-/

namespace MarkedSheet

theorem Mapping.mem_of_get? {κ ν : Type} [DecidableEq κ] {key : κ} {value : ν} :
    ∀ {m : Mapping κ ν}, m.get? key = some value → (key, value) ∈ m
  | (k, v) :: rest, h => by
    rw [Mapping.get?] at h
    split at h
    next hkey =>
      obtain rfl := Option.some.inj h
      rw [hkey]
      exact List.mem_cons_self
    next => exact List.mem_cons_of_mem _ (mem_of_get? h)

theorem Mapping.get?_isSome_of_mem {κ ν : Type} [DecidableEq κ] {key : κ} {value : ν} :
    ∀ {m : Mapping κ ν}, (key, value) ∈ m → (m.get? key).isSome
  | (k, v) :: rest, h => by
    rw [Mapping.get?]
    split
    next => rfl
    next hkey =>
      rcases List.mem_cons.1 h with h | h
      · exact absurd (Prod.mk.inj h).1.symm hkey
      · exact get?_isSome_of_mem h

namespace Pinyin

/-- A character without its tone mark is a Latin letter or itself. -/
theorem bareLetter_eq_or_isLatin (c : Char) : bareLetter c = c ∨ isLatin (bareLetter c) := by
  unfold bareLetter
  split
  next bare marked h =>
    have hletters : ∀ letter ∈ markedLetters, isLatin letter.1 := by decide
    exact .inr (hletters _ (List.mem_of_find?_eq_some h))
  next => exact .inl rfl

theorem mem_of_mem_dropFollowingMarks {t : Text} {d : Char} (h : d ∈ dropFollowingMarks t) :
    d ∈ t := by
  fun_induction dropFollowingMarks t with
  | case1 letter mark rest _ ih =>
    rcases List.mem_cons.1 h with rfl | h
    · exact List.mem_cons_self
    · exact List.mem_cons_of_mem _ (List.mem_cons_of_mem _ (ih h))
  | case2 letter mark rest _ ih =>
    rcases List.mem_cons.1 h with rfl | h
    · exact List.mem_cons_self
    · exact List.mem_cons_of_mem _ (ih h)
  | case3 t => exact h

/-- To leave the tone out brings in no characters but Latin letters. -/
theorem mem_withoutTone {syllable : Text} {d : Char} (h : d ∈ withoutTone syllable) :
    d ∈ syllable ∨ isLatin d := by
  obtain ⟨c, hc, rfl⟩ := List.mem_map.1 (mem_of_mem_dropFollowingMarks (List.mem_filter.1 h).1)
  rcases bareLetter_eq_or_isLatin c with hsame | hlatin
  · exact .inl (by rwa [hsame])
  · exact .inr hlatin

theorem le_of_isAlphanum {c : Char} (h : c.isAlphanum) : c.val ≤ 'z'.val := by
  rcases Bool.or_eq_true_iff.1 h with h | hdigit
  · rcases Bool.or_eq_true_iff.1 h with hupper | hlower
    · exact UInt32.le_trans (of_decide_eq_true hupper).2 (by decide)
    · exact of_decide_eq_true (Bool.and_eq_true_iff.1 hlower).2
  · exact UInt32.le_trans (of_decide_eq_true (Bool.and_eq_true_iff.1 hdigit).2) (by decide)

theorem isHan_of_isLatin {c : Char} (h : isLatin c) : isHan c = false := by
  rcases Bool.or_eq_true_iff.1 h with halphanum | hmark
  · have hout : ¬ 0x4E00 ≤ c.toNat :=
      Nat.not_le.2 (Nat.lt_of_le_of_lt (le_of_isAlphanum halphanum) (by decide))
    rw [isHan, decide_eq_false hout, Bool.false_and]
  · rw [of_decide_eq_true hmark]
    rfl

theorem isHan_withoutTone {syllable : Text} (h : containsHan syllable = false) :
    ∀ d ∈ withoutTone syllable, isHan d = false := by
  intro d hd
  rcases mem_withoutTone hd with hd | hd
  · simpa using List.any_eq_false.1 h d hd
  · exact isHan_of_isLatin hd

theorem exists_of_mem_mapM {α β ε : Type} {f : α → Except ε β} :
    ∀ {l : List α} {bs : List β}, l.mapM f = .ok bs → ∀ b ∈ bs, ∃ a ∈ l, f a = .ok b
  | [], bs, h, b, hb => by
    obtain rfl : [] = bs := Except.ok.inj h
    simp at hb
  | a :: rest, bs, h, b, hb => by
    rw [List.mapM_cons] at h
    cases hfirst : f a with
    | error e => rw [hfirst] at h; cases h
    | ok first =>
      rw [hfirst] at h
      cases hrest : rest.mapM f with
      | error e => rw [hrest] at h; cases h
      | ok others =>
        rw [hrest] at h
        obtain rfl : first :: others = bs := Except.ok.inj h
        rcases List.mem_cons.1 hb with rfl | hb
        · exact ⟨a, List.mem_cons_self, hfirst⟩
        · obtain ⟨a', ha', h'⟩ := exists_of_mem_mapM hrest b hb
          exact ⟨a', List.mem_cons_of_mem a ha', h'⟩

namespace Dictionary

/-- No phrase has more syllables than characters. -/
def Fits (d : Dictionary) : Prop :=
  ∀ word, ∀ syllables ∈ d.phrase? word, syllables.length ≤ word.length

/-- Phrases have no more syllables than characters, and what is known is in Latin letters. -/
structure IsPlain (d : Dictionary) : Prop where
  fits : ∀ phrase ∈ d.phrases, phrase.2.length ≤ phrase.1.length
  phrases : ∀ phrase ∈ d.phrases, ∀ syllable ∈ phrase.2, (withoutTone syllable).all isLatin
  readings : ∀ entry ∈ d.readings, (withoutTone (entry.2.takeWhile (· != ','))).all isLatin

/-- Every Chinese character has a reading, and there is none in what phrases and characters are
found to read as. -/
structure CoversHan (d : Dictionary) : Prop where
  phrases : ∀ word, ∀ syllables ∈ d.phrase? word,
    ∀ syllable ∈ syllables, containsHan syllable = false
  readings : ∀ c, ∀ readings ∈ d.readings.get? c, containsHan readings = false
  all : ∀ c, isHan c → (d.readings.get? c).isSome

variable {d : Dictionary}

theorem fits_of_forall (h : ∀ phrase ∈ d.phrases, phrase.2.length ≤ phrase.1.length) : d.Fits :=
  fun _ _ hsyllables => h _ (Mapping.mem_of_get? hsyllables)

theorem exists_pronounce (hfits : d.Fits) (segment : Text) :
    ∃ parts, d.pronounce segment = .ok parts := by
  unfold pronounce
  split
  next syllables hsyllables =>
    exact ⟨_, if_neg (Nat.not_lt.2 (hfits segment syllables hsyllables))⟩
  next => exact ⟨_, rfl⟩

/-- A dictionary whose phrases fit reads every run. -/
theorem isTotal (hfits : d.Fits) : (Lexicon.byPhrases d).IsTotal := by
  intro run _
  obtain ⟨groups, hgroups⟩ := exists_mapM fun segment (_ : segment ∈ d.segments run) =>
    exists_pronounce hfits segment
  refine ⟨groups.flatten, ?_⟩
  change ((d.segments run).mapM d.pronounce).map List.flatten = _
  rw [hgroups]
  rfl

section Characters

variable {P : Char → Prop} (hphrases : ∀ word, ∀ syllables ∈ d.phrase? word,
    ∀ syllable ∈ syllables, ∀ c ∈ withoutTone syllable, P c)

include hphrases

theorem forall_mem_pronounce {segment : Text} {parts : List Text}
    (hreadings : ∀ c ∈ segment, ∀ e ∈ withoutTone (d.reading c), P e)
    (h : d.pronounce segment = .ok parts) : ∀ part ∈ parts, ∀ e ∈ part, P e := by
  unfold pronounce at h
  split at h
  next syllables hsyllables =>
    split at h
    · simp at h
    · obtain rfl := Except.ok.inj h
      exact List.forall_mem_map.2 (hphrases segment syllables hsyllables)
  next =>
    obtain rfl := Except.ok.inj h
    exact List.forall_mem_map.2 hreadings

/-- A run is read as characters of syllables of phrases and of readings of its own characters. -/
theorem forall_mem_syllables {run : Text} {parts : List Text}
    (hreadings : ∀ c ∈ run, ∀ e ∈ withoutTone (d.reading c), P e)
    (h : (Lexicon.byPhrases d).syllables run = .ok parts) : ∀ part ∈ parts, ∀ e ∈ part, P e := by
  replace h : ((d.segments run).mapM d.pronounce).map List.flatten = .ok parts := h
  cases hgroups : (d.segments run).mapM d.pronounce with
  | error e => rw [hgroups] at h; cases h
  | ok groups =>
    rw [hgroups] at h
    obtain rfl : groups.flatten = parts := Except.ok.inj h
    intro part hpart
    obtain ⟨group, hgroup, hpart⟩ := List.mem_flatten.1 hpart
    obtain ⟨segment, hsegment, hpronounce⟩ := exists_of_mem_mapM hgroups group hgroup
    refine forall_mem_pronounce hphrases (fun c hc => hreadings c ?_) hpronounce part hpart
    rw [← d.flatten_segments run]
    exact List.mem_flatten.2 ⟨segment, hsegment, hc⟩

end Characters

theorem mem_withoutTone_reading (hplain : d.IsPlain) {c e : Char}
    (h : e ∈ withoutTone (d.reading c)) : e = c ∨ isLatin e := by
  unfold reading at h
  split at h
  next readings hreadings =>
    exact .inr (List.all_eq_true.1 (hplain.readings _ (Mapping.mem_of_get? hreadings)) e h)
  next => exact (mem_withoutTone h).imp_left List.mem_singleton.1

/-- A dictionary of Latin letters is read as such. -/
theorem isPlain (hplain : d.IsPlain) : (Lexicon.byPhrases d).IsPlain where
  total := isTotal (fits_of_forall hplain.fits)
  letters run _ parts h := by
    refine forall_mem_syllables (P := fun e => e ∈ run ∨ isLatin e ∨ e = 'ü')
      (fun word syllables hsyllables syllable hsyllable e he => .inr (.inl ?_))
      (fun c hc e he => ?_) h
    · have hlatin := hplain.phrases _ (Mapping.mem_of_get? hsyllables) syllable hsyllable
      exact List.all_eq_true.1 hlatin e he
    · rcases mem_withoutTone_reading hplain he with rfl | he
      · exact .inl hc
      · exact .inr (.inl he)

/-- Of runs that a dictionary covers no Chinese character is left. -/
theorem leavesNoHan (hcovers : d.CoversHan) : (Lexicon.byPhrases d).LeavesNoHan := by
  intro run hrun parts h part hpart
  refine List.any_eq_false.2 fun e he => ?_
  rw [Bool.not_eq_true]
  refine forall_mem_syllables (P := fun e => isHan e = false)
    (fun word syllables hsyllables syllable hsyllable =>
      isHan_withoutTone (hcovers.phrases word syllables hsyllables syllable hsyllable))
    (fun c hc => isHan_withoutTone ?_) h part hpart e he
  obtain ⟨readings, hreadings⟩ :=
    Option.isSome_iff_exists.1 (hcovers.all c (List.all_eq_true.1 hrun.2 c hc))
  have hnone := hcovers.readings c readings hreadings
  rw [reading, hreadings]
  exact List.any_eq_false.2 fun e he =>
    List.any_eq_false.1 hnone e (List.takeWhile_subset _ he)

section Filled

/-- The dictionary with a reading for the Chinese characters that it does not have. -/
def filled (d : Dictionary) : Dictionary where
  phrases := d.phrases
  readings := d.readings
    ++ (List.range 20902).map fun n => (Char.ofNat (0x4E00 + n), "zi".toList)

theorem coversHan_filled
    (hphrases : ∀ phrase ∈ d.phrases, ∀ syllable ∈ phrase.2, containsHan syllable = false)
    (hreadings : ∀ entry ∈ d.readings, containsHan entry.2 = false) : d.filled.CoversHan where
  phrases := fun _ _ hsyllables => hphrases _ (Mapping.mem_of_get? hsyllables)
  readings := by
    have hall : ∀ entry ∈ d.filled.readings, containsHan entry.2 = false := by
      refine List.forall_mem_append.2 ⟨hreadings, List.forall_mem_map.2 fun _ _ => ?_⟩
      exact (by decide : containsHan "zi".toList = false)
    exact fun c readings hfound => hall (c, readings) (Mapping.mem_of_get? hfound)
  all := by
    intro c hc
    simp only [isHan, Bool.and_eq_true, decide_eq_true_eq] at hc
    have hmem : (c, "zi".toList) ∈ d.filled.readings :=
      List.mem_append_right _ (List.mem_map.2 ⟨c.toNat - 0x4E00, List.mem_range.2 (by omega), by
        rw [Nat.add_sub_cancel' hc.1, Char.ofNat_toNat]⟩)
    exact Mapping.get?_isSome_of_mem hmem

/-- A phrase, and the reading of one of its characters. -/
def ofPhrase : Dictionary where
  phrases := [("火球".toList, ["huo".toList, "qiu".toList])]
  readings := [('火', "huo".toList)]

end Filled

end Dictionary

/-- A lexicon that knows nothing. -/
def Lexicon.blank : Lexicon := .byPhrases ⟨[], []⟩

theorem Lexicon.blank_isPlain : blank.IsPlain :=
  Dictionary.isPlain (by constructor <;> simp)

end Pinyin

end MarkedSheet
