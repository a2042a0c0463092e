import Mathlib.Tactic.Choose
import MarkedSheet.Pinyin.Transliterator
import MarkedSheet.Proofs.Text.Between

/-!
# Transliteration is local

Aliases made of Chinese characters only are exchanged between all other characters
(`actsBetween_exchange`), and every run of Chinese characters between two others becomes its
syllables on its own (`romanizeFrom_append`). A lexicon that reads every run never fails
(`exists_romanizeFrom`). A plain lexicon reads runs as Latin letters and characters of their own as
well, so transliteration with it is a change between the characters that are not Chinese
(`exists_convert`).
-/

namespace MarkedSheet

namespace Pinyin

open Text (ActsBetween)

section Aliases

/-- Every alias stands for something, and for Chinese characters only. -/
def HanAliases (aliases : Mapping Text Text) : Prop :=
  ∀ entry ∈ aliases, entry.1 ≠ [] ∧ entry.1.all isHan

instance (aliases : Mapping Text Text) : Decidable (HanAliases aliases) :=
  inferInstanceAs (Decidable (∀ entry ∈ aliases, entry.1 ≠ [] ∧ entry.1.all isHan))

theorem actsBetween_foldl : ∀ {aliases : Mapping Text Text}, HanAliases aliases →
    ActsBetween (fun c => !isHan c)
      fun t => aliases.foldl (fun t (old, new) => Text.replaceAll old new t) t
  | [], _ => Text.actsBetween_id _
  | entry :: rest, h => by
    have hfirst := h entry List.mem_cons_self
    have hrest := actsBetween_foldl fun other hother => h other (List.mem_cons_of_mem entry hother)
    exact hrest.comp (Text.actsBetween_replaceAll hfirst.1 entry.2 fun c hc => by
      simp [List.all_eq_true.1 hfirst.2 c hc])

theorem mem_foldl {c : Char} : ∀ {aliases : Mapping Text Text}, HanAliases aliases → ∀ {t : Text},
    c ∈ aliases.foldl (fun t (old, new) => Text.replaceAll old new t) t →
      c ∈ t ∨ ∃ entry ∈ aliases, c ∈ entry.2
  | [], _, _, hc => .inl hc
  | entry :: rest, h, _, hc => by
    have hrest : HanAliases rest := fun other hother => h other (List.mem_cons_of_mem entry hother)
    rcases mem_foldl hrest hc with hc | ⟨other, hother, hc⟩
    · rcases Text.mem_replaceAll (h entry List.mem_cons_self).1 hc with hc | hc
      · exact .inl hc
      · exact .inr ⟨entry, List.mem_cons_self, hc⟩
    · exact .inr ⟨other, List.mem_cons_of_mem entry hother, hc⟩

variable {transliterator : Transliterator}

theorem hanAliases_ordered (h : HanAliases transliterator.aliases) :
    HanAliases transliterator.ordered :=
  fun entry hentry => h entry (List.mem_mergeSort.1 hentry)

theorem actsBetween_exchange (h : HanAliases transliterator.aliases) :
    ActsBetween (fun c => !isHan c) transliterator.exchange :=
  actsBetween_foldl (hanAliases_ordered h)

theorem mem_exchange (h : HanAliases transliterator.aliases) {t : Text} {c : Char}
    (hc : c ∈ transliterator.exchange t) :
    c ∈ t ∨ ∃ entry ∈ transliterator.aliases, c ∈ entry.2 := by
  rcases mem_foldl (hanAliases_ordered h) hc with hc | ⟨entry, hentry, hc⟩
  · exact .inl hc
  · exact .inr ⟨entry, List.mem_mergeSort.1 hentry, hc⟩

end Aliases

section Runs

variable (lexicon : Lexicon)

@[simp] theorem romanize_nil : romanize lexicon [] = .ok [] := rfl

/-- A character that is not Chinese parts a text. -/
theorem romanizeFrom_append {c : Char} (hc : isHan c = false) (t : Text) : ∀ run s : Text,
    romanizeFrom lexicon run (s ++ c :: t) = do
      let first ← romanizeFrom lexicon run s
      let others ← romanizeFrom lexicon [] t
      return first ++ c :: others := by
  intro run s
  induction s generalizing run with
  | nil => simp [romanizeFrom, hc]
  | cons d s ih =>
    rw [List.cons_append, romanizeFrom, romanizeFrom]
    split
    · exact ih (run ++ [d])
    · simp only [ih, bind_assoc, pure_bind, List.append_assoc, List.cons_append]

end Runs

/-- A character of a bare syllable. -/
def isLatin (c : Char) : Bool :=
  c.isAlphanum || c = 'ê'

/-- The text is a run of Chinese characters. -/
def IsRun (t : Text) : Prop :=
  t ≠ [] ∧ t.all isHan

namespace Lexicon

/-- Every run of Chinese characters can be read. -/
def IsTotal (lexicon : Lexicon) : Prop :=
  ∀ run, IsRun run → ∃ parts, lexicon.syllables run = .ok parts

/-- Every run of Chinese characters can be read, as Latin letters, rounded u and characters that the
run has itself. -/
structure IsPlain (lexicon : Lexicon) : Prop where
  total : lexicon.IsTotal
  letters : ∀ run, IsRun run → ∀ parts, lexicon.syllables run = .ok parts →
    ∀ part ∈ parts, ∀ c ∈ part, c ∈ run ∨ isLatin c ∨ c = 'ü'

/-- There is no Chinese character in what runs of them are read as. -/
def LeavesNoHan (lexicon : Lexicon) : Prop :=
  ∀ run, IsRun run → ∀ parts, lexicon.syllables run = .ok parts →
    ∀ part ∈ parts, containsHan part = false

/-- The character is one of a syllable of a run of Chinese characters of the text. -/
def Gives (lexicon : Lexicon) (t : Text) (d : Char) : Prop :=
  ∃ run, IsRun run ∧ run ⊆ t ∧ ∃ parts, lexicon.syllables run = .ok parts
    ∧ ∃ part ∈ parts, ∃ c ∈ part, d = plainVowel c

end Lexicon

section Results

variable {lexicon : Lexicon}

theorem exists_mapM {α β ε : Type} {f : α → Except ε β} :
    ∀ {l : List α}, (∀ a ∈ l, ∃ b, f a = .ok b) → ∃ bs, l.mapM f = .ok bs
  | [], _ => ⟨[], rfl⟩
  | a :: rest, h => by
    obtain ⟨b, hb⟩ := h a List.mem_cons_self
    obtain ⟨bs, hbs⟩ := exists_mapM fun a' ha' => h a' (List.mem_cons_of_mem a ha')
    refine ⟨b :: bs, ?_⟩
    rw [List.mapM_cons, hb, hbs]
    rfl

theorem mem_join {separator : Text} {c : Char} : ∀ {parts : List Text},
    c ∈ Text.join separator parts → c ∈ separator ∨ ∃ part ∈ parts, c ∈ part
  | [], h => by simp at h
  | [part], h => .inr ⟨part, List.mem_cons_self, h⟩
  | part :: next :: rest, h => by
    rw [Text.join, List.mem_append, List.mem_append] at h
    rcases h with (h | h) | h
    · exact .inr ⟨part, List.mem_cons_self, h⟩
    · exact .inl h
    · refine (mem_join h).imp_right ?_
      rintro ⟨other, hother, h⟩
      exact ⟨other, List.mem_cons_of_mem part hother, h⟩
    · simp

theorem all_append_singleton {run : Text} {c : Char} (hrun : run.all isHan) (hc : isHan c) :
    (run ++ [c]).all isHan := by
  rw [List.all_append, hrun, List.all_cons, hc]
  rfl

section Total

variable (htotal : lexicon.IsTotal)

include htotal

theorem exists_romanizeRun {run : Text} (hrun : run.all isHan) :
    ∃ t, romanizeRun lexicon run = .ok t := by
  unfold romanizeRun
  split
  next => exact ⟨[], rfl⟩
  next hne =>
    obtain ⟨parts, hparts⟩ := htotal run ⟨by simpa using hne, hrun⟩
    exact ⟨_, by rw [hparts]; rfl⟩

theorem exists_romanizeFrom : ∀ t run : Text, run.all isHan →
    ∃ t', romanizeFrom lexicon run t = .ok t' := by
  intro t
  induction t with
  | nil => exact fun run hrun => exists_romanizeRun htotal hrun
  | cons c rest ih =>
    intro run hrun
    rw [romanizeFrom]
    split
    next hc => exact ih (run ++ [c]) (all_append_singleton hrun hc)
    next =>
      obtain ⟨first, hfirst⟩ := exists_romanizeRun htotal hrun
      obtain ⟨others, hothers⟩ := ih [] rfl
      exact ⟨first ++ c :: others, by rw [hfirst, hothers]; rfl⟩

end Total

section Characters

theorem Lexicon.Gives.mono {s t : Text} {d : Char} (h : lexicon.Gives s d) (hsub : s ⊆ t) :
    lexicon.Gives t d := by
  obtain ⟨run, hrun, hwithin, hparts⟩ := h
  exact ⟨run, hrun, List.Subset.trans hwithin hsub, hparts⟩

/-- A run becomes characters of its syllables, and low lines. -/
theorem mem_romanizeRun {run t : Text} {d : Char} (hrun : run.all isHan)
    (h : romanizeRun lexicon run = .ok t) (hd : d ∈ t) : d = '_' ∨ lexicon.Gives run d := by
  unfold romanizeRun at h
  split at h
  next =>
    obtain rfl := Except.ok.inj h
    cases hd
  next hne =>
    cases hparts : lexicon.syllables run with
    | error e => rw [hparts] at h; cases h
    | ok parts =>
      rw [hparts] at h
      obtain rfl := Except.ok.inj h
      obtain ⟨c, hc, rfl⟩ := List.mem_map.1 hd
      rcases mem_join hc with hc | ⟨part, hpart, hc⟩
      · rw [List.mem_singleton.1 hc]
        exact .inl rfl
      · exact .inr ⟨run, ⟨by simpa using hne, hrun⟩, List.Subset.refl _, parts, hparts, part,
          hpart, c, hc, rfl⟩

/-- A text becomes what its runs of Chinese characters become, and its other characters. -/
theorem mem_romanizeFrom : ∀ (t run : Text) {t' : Text} {d : Char}, run.all isHan →
    romanizeFrom lexicon run t = .ok t' → d ∈ t' →
    d = '_' ∨ (d ∈ t ∧ isHan d = false) ∨ lexicon.Gives (run ++ t) d := by
  intro t
  induction t with
  | nil =>
    intro run t' d hrun h hd
    refine (mem_romanizeRun hrun h hd).imp_right fun hgives => .inr ?_
    rwa [List.append_nil]
  | cons c rest ih =>
    intro run t' d hrun h hd
    rw [romanizeFrom] at h
    split at h
    next hc =>
      refine (ih _ (all_append_singleton hrun hc) h hd).imp_right (Or.imp ?_ fun hgives => ?_)
      · exact fun ⟨hmem, hother⟩ => ⟨List.mem_cons_of_mem c hmem, hother⟩
      · rwa [List.append_assoc] at hgives
    next hc =>
      cases hfirst : romanizeRun lexicon run with
      | error e => rw [hfirst] at h; cases h
      | ok first =>
        rw [hfirst] at h
        cases hothers : romanizeFrom lexicon [] rest with
        | error e => rw [hothers] at h; cases h
        | ok others =>
          rw [hothers] at h
          obtain rfl : first ++ c :: others = t' := Except.ok.inj h
          rcases List.mem_append.1 hd with hd | hd
          · exact (mem_romanizeRun hrun hfirst hd).imp_right fun hgives =>
              .inr (hgives.mono (List.subset_append_left _ _))
          rcases List.mem_cons.1 hd with rfl | hd
          · exact .inr (.inl ⟨List.mem_cons_self, by simpa using hc⟩)
          · refine (ih [] rfl hothers hd).imp_right (Or.imp ?_ fun hgives => ?_)
            · exact fun ⟨hmem, hother⟩ => ⟨List.mem_cons_of_mem c hmem, hother⟩
            · exact hgives.mono fun x hx =>
                List.mem_append_right _ (List.mem_cons_of_mem c hx)

end Characters

end Results

section Plain

variable {lexicon : Lexicon} (hlexicon : lexicon.IsPlain)

include hlexicon

theorem mem_or_isLatin_of_gives {t : Text} {d : Char} (h : lexicon.Gives t d) :
    d ∈ t ∨ isLatin d := by
  obtain ⟨run, hrun, hwithin, parts, hparts, part, hpart, c, hc, rfl⟩ := h
  unfold plainVowel
  split
  next => exact .inr rfl
  next hother =>
    rcases hlexicon.letters run hrun parts hparts part hpart c hc with hc | hc | hc
    · exact .inl (hwithin hc)
    · exact .inr hc
    · exact absurd hc hother

/-- With a plain lexicon every text is romanized, and between the characters that are not
Chinese. -/
theorem exists_romanize : ∃ f : Text → Text, (∀ t, romanize lexicon t = .ok (f t))
    ∧ ActsBetween (fun c => !isHan c) f ∧ ∀ t, ∀ d ∈ f t, d ∈ t ∨ isLatin d ∨ d = '_' := by
  choose f hf using fun t => exists_romanizeFrom hlexicon.total t [] rfl
  refine ⟨f, hf, ⟨?_, ?_⟩, fun t d hd => ?_⟩
  · exact Except.ok.inj ((hf []).symm.trans (romanize_nil lexicon))
  · intro c hc s t
    have happend := romanizeFrom_append lexicon (by simpa using hc) t [] s
    rw [hf, hf, hf] at happend
    exact Except.ok.inj happend
  · rcases mem_romanizeFrom t [] rfl (hf t) hd with hd | ⟨hd, -⟩ | hd
    · exact .inr (.inr hd)
    · exact .inl hd
    · exact (mem_or_isLatin_of_gives hlexicon hd).imp_right .inl

/-- With a plain lexicon every text is transliterated, and between the characters that are not
Chinese. -/
theorem exists_convert (transliterator : Transliterator)
    (h : HanAliases transliterator.aliases) : ∃ f : Text → Text,
      (∀ t, transliterator.convert lexicon t = .ok (f t))
      ∧ ActsBetween (fun c => !isHan c) f
      ∧ ∀ t, ∀ d ∈ f t, d ∈ t ∨ (∃ entry ∈ transliterator.aliases, d ∈ entry.2)
        ∨ isLatin d ∨ d = '_' := by
  obtain ⟨f, hf, hbetween, hmem⟩ := exists_romanize hlexicon
  have hexchange := actsBetween_exchange h
  refine ⟨fun t => f (transliterator.exchange t), fun t => ?_, hbetween.comp hexchange, ?_⟩
  · cases t with
    | nil =>
      change _ = Except.ok (f (transliterator.exchange []))
      rw [hexchange.nil, hbetween.nil]
      rfl
    | cons c rest => exact hf (transliterator.exchange (c :: rest))
  · intro t d hd
    rcases hmem _ d hd with hd | hd
    · exact (mem_exchange h hd).imp_right .inl
    · exact .inr (.inr hd)

end Plain

end Pinyin

end MarkedSheet
