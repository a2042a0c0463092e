import MarkedSheet.Proofs.Pinyin.Dictionary

/-!
# Texts are transliterated apart

Where two texts meet at a character that is not Chinese, they are transliterated one after the
other, failures included, however the lexicon reads (`convert_append`); a text without Chinese
characters stays as it is (`convert_of_not_containsHan`). If the lexicon leaves no Chinese character
of a run, none is left of a text, so that a second transliteration changes nothing.
`Transliterator.convert_local` says all of this.
-/

namespace MarkedSheet

namespace Pinyin

open Text (Parted)

section Romanized

variable {lexicon : Lexicon}

theorem romanize_append_cons {c : Char} (hc : isHan c = false) (s t : Text) :
    romanize lexicon (s ++ c :: t) = do
      let first ← romanize lexicon s
      let others ← romanize lexicon t
      return first ++ c :: others :=
  romanizeFrom_append lexicon hc t [] s

theorem romanize_cons {c : Char} (hc : isHan c = false) (t : Text) :
    romanize lexicon (c :: t) = (romanize lexicon t).map (c :: ·) := by
  rw [← List.nil_append (c :: t), romanize_append_cons hc, romanize_nil]
  cases romanize lexicon t <;> rfl

theorem romanize_append {s t : Text} (h : Parted (fun c => !isHan c) s t) :
    romanize lexicon (s ++ t) = do
      let first ← romanize lexicon s
      let others ← romanize lexicon t
      return first ++ others := by
  rcases h.cases with rfl | rfl | ⟨before, c, rfl, hc⟩ | ⟨c, after, rfl, hc⟩
  · rw [romanize_nil, List.nil_append]
    cases romanize lexicon t <;> rfl
  · rw [romanize_nil, List.append_nil]
    cases hs : romanize lexicon s with
    | error e => rfl
    | ok first => exact congrArg Except.ok (List.append_nil first).symm
  · have hc : isHan c = false := by simpa using hc
    rw [List.append_assoc, List.singleton_append]
    simp only [romanize_append_cons hc, romanize_nil]
    cases romanize lexicon before with
    | error e => rfl
    | ok first => cases romanize lexicon t <;> simp [bind, Except.bind, pure, Except.pure]
  · have hc : isHan c = false := by simpa using hc
    rw [romanize_append_cons hc, romanize_cons hc]
    cases romanize lexicon s with
    | error e => rfl
    | ok first => cases romanize lexicon after <;> rfl

theorem romanize_of_not_containsHan {t : Text} (h : containsHan t = false) :
    romanize lexicon t = .ok t := by
  induction t with
  | nil => exact romanize_nil _
  | cons c rest ih =>
    simp only [containsHan, List.any_cons, Bool.or_eq_false_iff] at h
    rw [romanize_cons h.1, ih h.2]
    rfl

theorem isHan_plainVowel {c : Char} (h : isHan c = false) : isHan (plainVowel c) = false := by
  unfold plainVowel
  split
  · rfl
  · exact h

/-- With a lexicon that leaves no Chinese characters of runs there are none left of a text. -/
theorem containsHan_of_romanize (hleaves : lexicon.LeavesNoHan) {t t' : Text}
    (h : romanize lexicon t = .ok t') : containsHan t' = false := by
  refine List.any_eq_false.2 fun d hd => ?_
  rw [Bool.not_eq_true]
  rcases mem_romanizeFrom t [] rfl h hd with
    rfl | ⟨-, hother⟩ | ⟨run, hrun, -, parts, hparts, part, hpart, c, hc, rfl⟩
  · rfl
  · exact hother
  · exact isHan_plainVowel (by
      simpa using List.any_eq_false.1 (hleaves run hrun parts hparts part hpart) c hc)

end Romanized

namespace Transliterator

section Apart

variable {transliterator : Transliterator} (h : HanAliases transliterator.aliases)

include h

theorem convert_eq (lexicon : Lexicon) (t : Text) :
    transliterator.convert lexicon t = romanize lexicon (transliterator.exchange t) := by
  cases t with
  | nil =>
    rw [(actsBetween_exchange h).nil]
    exact (romanize_nil lexicon).symm
  | cons c rest => rfl

theorem convert_append (lexicon : Lexicon) {s t : Text} (hparted : Parted (fun c => !isHan c) s t) :
    transliterator.convert lexicon (s ++ t) = do
      let first ← transliterator.convert lexicon s
      let others ← transliterator.convert lexicon t
      return first ++ others := by
  have hbetween := actsBetween_exchange h
  simp only [convert_eq h, hbetween.append_parted hparted]
  exact romanize_append (hbetween.parted hparted)

theorem convert_of_not_containsHan (lexicon : Lexicon) {t : Text} (ht : containsHan t = false) :
    transliterator.convert lexicon t = .ok t := by
  have hfixed : ∀ c ∈ t, !isHan c := fun c hc => by simpa using List.any_eq_false.1 ht c hc
  have hsame := (actsBetween_exchange h).append_left hfixed []
  rw [(actsBetween_exchange h).nil, List.append_nil] at hsame
  rw [convert_eq h, hsame, romanize_of_not_containsHan ht]

/-- Texts that meet at a character that is not Chinese are transliterated apart, and a text without
Chinese characters stays, however the lexicon reads. If it leaves no Chinese characters of runs,
none is left and another transliteration changes nothing. If it reads every run, every text is
transliterated. -/
theorem convert_local (lexicon : Lexicon) :
    (∀ s t : Text, Parted (fun c => !isHan c) s t → transliterator.convert lexicon (s ++ t) = do
        let first ← transliterator.convert lexicon s
        let others ← transliterator.convert lexicon t
        return first ++ others)
      ∧ (∀ t, containsHan t = false → transliterator.convert lexicon t = .ok t)
      ∧ (lexicon.LeavesNoHan → ∀ t t', transliterator.convert lexicon t = .ok t' →
        containsHan t' = false ∧ transliterator.convert lexicon t' = .ok t')
      ∧ (lexicon.IsTotal → ∀ t, ∃ t', transliterator.convert lexicon t = .ok t') := by
  refine ⟨fun s t => convert_append h lexicon, fun t => convert_of_not_containsHan h lexicon,
    fun hleaves t t' ht => ?_, fun htotal t => ?_⟩
  · rw [convert_eq h] at ht
    have hlatin := containsHan_of_romanize hleaves ht
    exact ⟨hlatin, convert_of_not_containsHan h lexicon hlatin⟩
  · rw [convert_eq h]
    exact exists_romanizeFrom htotal _ [] rfl

end Apart

/-- The alias brings in Chinese characters, among them itself. -/
theorem convert_flame : HanAliases [("火".toList, "火球".toList)]
    ∧ (Lexicon.byPhrases (.filled .ofPhrase)).LeavesNoHan
    ∧ (Lexicon.byPhrases (.filled .ofPhrase)).IsTotal
    ∧ ∃ t', Transliterator.convert ⟨[("火".toList, "火球".toList)]⟩
        (.byPhrases (.filled .ofPhrase)) "a火，球".toList = .ok t' ∧ containsHan t' = false := by
  let flame : Transliterator := ⟨[("火".toList, "火球".toList)]⟩
  have haliases : HanAliases flame.aliases := by decide
  have hleaves : (Lexicon.byPhrases (.filled .ofPhrase)).LeavesNoHan :=
    Dictionary.leavesNoHan (Dictionary.coversHan_filled (by decide) (by decide))
  have htotal : (Lexicon.byPhrases (.filled .ofPhrase)).IsTotal :=
    Dictionary.isTotal (Dictionary.fits_of_forall (by
      change ∀ phrase ∈ Dictionary.ofPhrase.phrases, phrase.2.length ≤ phrase.1.length
      decide))
  obtain ⟨-, -, hlatin, hconvert⟩ := convert_local haliases (.byPhrases (.filled .ofPhrase))
  obtain ⟨t', ht⟩ := hconvert htotal "a火，球".toList
  exact ⟨haliases, hleaves, htotal, t', ht, (hlatin hleaves _ _ ht).1⟩

end Transliterator

end Pinyin

end MarkedSheet
