import MarkedSheet.Text.Basic

/-!
# Changes between fixed characters

Some changes of a text leave the characters of one sort where they are and change what stands on
either side of such a character on its own (`ActsBetween`). To exchange a part for another is a
change between the characters that the part does not have (`actsBetween_replaceAll`). What is said
of such changes is shown for runs without a fixed character, and then for a run with a fixed
character after it (`run_induction`).
-/

namespace MarkedSheet

namespace Text

section Occurring

theorem occursIn_iff {part t : Text} : part.occursIn t ↔ part <:+: t := by
  induction t with
  | nil => simp [occursIn]
  | cons c rest ih =>
    rw [occursIn, Bool.or_eq_true, ih, List.isPrefixOf_iff_prefix, List.infix_cons_iff]

/-- Where a part occurs, the first exchange takes one occurrence, whatever it is exchanged for. -/
theorem exists_replaceFirst {old t : Text} (h : old <:+: t) : ∃ before after,
    t = before ++ (old ++ after) ∧ ∀ new, replaceFirst old new t = before ++ (new ++ after) := by
  induction t with
  | nil =>
    obtain rfl : old = [] := by simpa using h
    exact ⟨[], [], rfl, fun new => by simp [replaceFirst]⟩
  | cons c rest ih =>
    by_cases hfirst : old <+: c :: rest
    · obtain ⟨after, hafter⟩ := hfirst
      refine ⟨[], after, hafter.symm, fun new => ?_⟩
      rw [replaceFirst, if_pos (List.isPrefixOf_iff_prefix.2 ⟨after, hafter⟩), ← hafter,
        List.drop_left, List.nil_append]
    · obtain ⟨before, after, hrest, hnew⟩ := ih ((List.infix_cons_iff.1 h).resolve_left hfirst)
      refine ⟨c :: before, after, by rw [List.cons_append, ← hrest], fun new => ?_⟩
      rw [replaceFirst, if_neg (hfirst ∘ List.isPrefixOf_iff_prefix.1), hnew, List.cons_append]

end Occurring

section Replacing

variable {old : Text}

theorem replaceAll_of_ne_nil (hold : old ≠ []) (new t : Text) :
    replaceAll old new t = replaceFrom old new 0 t := by
  simp [replaceAll, hold]

/-- Where the part does not begin, a character stays. -/
theorem replaceFrom_cons {c : Char} {rest : Text} (h : old.isPrefixOf (c :: rest) = false)
    (new : Text) : replaceFrom old new 0 (c :: rest) = c :: replaceFrom old new 0 rest := by
  rw [replaceFrom, if_neg (by simp [h])]

theorem replaceAll_of_not_occursIn {t : Text} (h : old.occursIn t = false) (new : Text) :
    replaceAll old new t = t := by
  have hold : old ≠ [] := by
    rintro rfl
    cases t <;> simp [occursIn] at h
  rw [replaceAll_of_ne_nil hold]
  induction t with
  | nil => rfl
  | cons c rest ih =>
    simp only [occursIn, Bool.or_eq_false_iff] at h
    rw [replaceFrom_cons h.1, ih h.2]

theorem mem_replaceFrom {new : Text} {c : Char} (t : Text) : ∀ skip : Nat,
    c ∈ replaceFrom old new skip t → c ∈ t ∨ c ∈ new := by
  induction t with
  | nil =>
    intro skip h
    cases skip <;> simp [replaceFrom] at h
  | cons d rest ih =>
    intro skip h
    have hrest : ∀ n, c ∈ replaceFrom old new n rest → c ∈ d :: rest ∨ c ∈ new := fun n hn =>
      (ih n hn).imp_left (List.mem_cons_of_mem d)
    cases skip with
    | succ n => exact hrest n h
    | zero =>
      rw [replaceFrom] at h
      split at h
      · rcases List.mem_append.1 h with hnew | h
        · exact .inr hnew
        · exact hrest _ h
      · rcases List.mem_cons.1 h with rfl | h
        · exact .inl List.mem_cons_self
        · exact hrest 0 h

/-- Exchanging a part brings in no characters but those of what it is exchanged for. -/
theorem mem_replaceAll (hold : old ≠ []) {new t : Text} {c : Char}
    (h : c ∈ replaceAll old new t) : c ∈ t ∨ c ∈ new := by
  rw [replaceAll_of_ne_nil hold] at h
  exact mem_replaceFrom t 0 h

end Replacing

/-- The fixed characters stay, and what stands on either side of one is changed on its own. -/
structure ActsBetween (fixed : Char → Bool) (f : Text → Text) : Prop where
  nil : f [] = []
  append : ∀ {c : Char}, fixed c → ∀ s t, f (s ++ c :: t) = f s ++ c :: f t

section Runs

variable {fixed : Char → Bool} {f g : Text → Text}

/-- A text is a run without fixed characters, or such a run with a fixed character and a text after
it. -/
theorem run_induction (fixed : Char → Bool) {P : Text → Prop}
    (hrun : ∀ run : Text, (∀ c ∈ run, fixed c = false) → P run)
    (hcons : ∀ (run : Text) (c : Char) (rest : Text), (∀ d ∈ run, fixed d = false) → fixed c →
      P rest → P (run ++ c :: rest)) (t : Text) : P t := by
  -- The run in front grows until a fixed character ends it.
  suffices key : ∀ run : Text, (∀ c ∈ run, fixed c = false) → P (run ++ t) from key [] (by simp)
  induction t with
  | nil =>
    intro run h
    rw [List.append_nil]
    exact hrun run h
  | cons c rest ih =>
    intro run h
    cases hc : fixed c with
    | true => exact hcons run c rest h hc (ih [] (by simp))
    | false =>
      have hgrown : ∀ d ∈ run ++ [c], fixed d = false := by
        intro d hd
        rcases List.mem_append.1 hd with hd | hd
        · exact h d hd
        · rwa [List.mem_singleton.1 hd]
      have := ih (run ++ [c]) hgrown
      rwa [List.append_assoc, List.singleton_append] at this

theorem actsBetween_id (fixed : Char → Bool) : ActsBetween fixed id :=
  ⟨rfl, fun _ _ _ => rfl⟩

theorem ActsBetween.comp (hg : ActsBetween fixed g) (hf : ActsBetween fixed f) :
    ActsBetween fixed fun t => g (f t) :=
  ⟨by rw [hf.nil, hg.nil], fun hc s t => by rw [hf.append hc, hg.append hc]⟩

theorem ActsBetween.cons (h : ActsBetween fixed f) {c : Char} (hc : fixed c) (t : Text) :
    f (c :: t) = c :: f t := by
  have := h.append hc [] t
  rwa [h.nil] at this

/-- Fixed characters in front stay as they are. -/
theorem ActsBetween.append_left (h : ActsBetween fixed f) {s : Text} (hs : ∀ c ∈ s, fixed c)
    (t : Text) : f (s ++ t) = s ++ f t := by
  induction s with
  | nil => rfl
  | cons c rest ih =>
    rw [List.cons_append, h.cons (hs c List.mem_cons_self),
      ih fun d hd => hs d (List.mem_cons_of_mem c hd), List.cons_append]

/-- An occurrence does not reach over a character that the part does not have. -/
theorem isPrefixOf_append_cons {old : Text} {c : Char} (hc : c ∉ old) (s t : Text) :
    old.isPrefixOf (s ++ c :: t) = old.isPrefixOf s := by
  rw [Bool.eq_iff_iff, List.isPrefixOf_iff_prefix, List.isPrefixOf_iff_prefix]
  refine ⟨fun h => ?_, fun h => h.trans (List.prefix_append _ _)⟩
  rcases List.prefix_or_prefix_of_prefix h (List.prefix_append s (c :: t)) with hs | ⟨q, rfl⟩
  · exact hs
  · rcases List.prefix_cons_iff.1 ((List.prefix_append_right_inj s).1 h) with rfl | ⟨q, rfl, -⟩
    · simp
    · simp at hc

theorem replaceFrom_append_cons {old : Text} (hold : old ≠ []) {c : Char} (hc : c ∉ old)
    (new t : Text) : ∀ (s : Text) (skip : Nat), skip ≤ s.length →
      replaceFrom old new skip (s ++ c :: t)
        = replaceFrom old new skip s ++ c :: replaceFrom old new 0 t
  | [], skip, hskip => by
    obtain rfl : skip = 0 := Nat.le_zero.1 hskip
    have hnone : old.isPrefixOf (c :: t) = false := by
      rw [← List.nil_append (c :: t), isPrefixOf_append_cons hc]
      cases old with
      | nil => exact absurd rfl hold
      | cons _ _ => rfl
    exact replaceFrom_cons hnone new
  | d :: rest, skip + 1, hskip => by
    have ih := replaceFrom_append_cons hold hc new t rest skip (by simpa using hskip)
    rwa [List.cons_append, replaceFrom, replaceFrom]
  | d :: rest, 0, _ => by
    have hbegins := isPrefixOf_append_cons hc (d :: rest) t
    rw [List.cons_append] at hbegins
    rw [List.cons_append, replaceFrom, replaceFrom, hbegins]
    split
    next h =>
      -- The occurrence lies within the text before the character.
      have hlen := (List.isPrefixOf_iff_prefix.1 h).length_le
      rw [List.length_cons] at hlen
      rw [replaceFrom_append_cons hold hc new t rest (old.length - 1) (by omega), List.append_assoc]
    next => rw [replaceFrom_append_cons hold hc new t rest 0 (Nat.zero_le _), List.cons_append]

theorem actsBetween_replaceAll {old : Text} (hold : old ≠ []) (new : Text)
    (hfixed : ∀ c ∈ old, fixed c = false) : ActsBetween fixed (replaceAll old new) where
  nil := by rw [replaceAll_of_ne_nil hold, replaceFrom]
  append := by
    intro c hc s t
    have hmem : c ∉ old := fun h => by simp [hfixed c h] at hc
    simp only [replaceAll_of_ne_nil hold]
    exact replaceFrom_append_cons hold hmem new t s 0 (Nat.zero_le _)

end Runs

section Parted

variable {fixed : Char → Bool} {f : Text → Text} {s t : Text}

/-- Where the texts meet, a fixed character stands on one side, or one of them is empty. -/
def Parted (fixed : Char → Bool) (s t : Text) : Prop :=
  (∀ c ∈ s.getLast?, fixed c) ∨ ∀ c ∈ t.head?, fixed c

instance : Decidable (Parted fixed s t) :=
  inferInstanceAs (Decidable ((∀ c ∈ s.getLast?, fixed c) ∨ ∀ c ∈ t.head?, fixed c))

theorem Parted.cases (h : Parted fixed s t) : s = [] ∨ t = []
    ∨ (∃ before c, s = before ++ [c] ∧ fixed c) ∨ ∃ c after, t = c :: after ∧ fixed c := by
  rcases h with hs | ht
  · rcases List.eq_nil_or_concat s with rfl | ⟨before, c, rfl⟩
    · exact .inl rfl
    · exact .inr (.inr (.inl ⟨before, c, List.concat_eq_append, hs c (by simp)⟩))
  · cases t with
    | nil => exact .inr (.inl rfl)
    | cons c after => exact .inr (.inr (.inr ⟨c, after, rfl, ht c rfl⟩))

theorem ActsBetween.append_parted (hf : ActsBetween fixed f) (h : Parted fixed s t) :
    f (s ++ t) = f s ++ f t := by
  rcases h.cases with rfl | rfl | ⟨before, c, rfl, hc⟩ | ⟨c, after, rfl, hc⟩
  · rw [hf.nil, List.nil_append, List.nil_append]
  · rw [hf.nil, List.append_nil, List.append_nil]
  · have hlast := hf.append hc before []
    rw [hf.nil] at hlast
    rw [hlast, List.append_assoc, List.singleton_append, hf.append hc, List.append_assoc,
      List.singleton_append]
  · rw [hf.append hc, hf.cons hc]

/-- What parts two texts parts what becomes of them. -/
theorem ActsBetween.parted (hf : ActsBetween fixed f) (h : Parted fixed s t) :
    Parted fixed (f s) (f t) := by
  rcases h.cases with rfl | rfl | ⟨before, c, rfl, hc⟩ | ⟨c, after, rfl, hc⟩
  · exact .inl (by simp [hf.nil])
  · exact .inr (by simp [hf.nil])
  · refine .inl ?_
    rw [hf.append hc, hf.nil]
    simpa using hc
  · refine .inr ?_
    rw [hf.cons hc]
    simpa using hc

end Parted

end Text

end MarkedSheet
