import Mathlib.Data.List.Infix
import MarkedSheet.Proofs.Text.Between

/-!
# Exchanges one after another

Two exchanges can be made in either order if neither has a hand in the occurrences of the other
(`Independent.replaceAll_comm`): no occurrence of the one part begins in the other part or in what
that is exchanged for (`NoneBegins`), and none that begins before the latter reaches it
(`NoneReaches`). Of steps taken one after another only those whose order changes have to be such
(`foldl_eq_of_perm`).
-/

namespace MarkedSheet

namespace Text

section Occurrences

/-- No occurrence of the part begins in the text, whatever stands after the text. -/
def NoneBegins (old t : Text) : Prop :=
  ∀ s, s <:+ t → s ≠ [] → ¬ old <+: s ∧ ¬ s <+: old

/-- No occurrence of the part begins before the text and reaches it, whatever stands around it. -/
def NoneReaches (old t : Text) : Prop :=
  ∀ s, s <:+ old → s ≠ [] → s ≠ old → ¬ s <+: t ∧ ¬ t <+: s

instance (old t : Text) : Decidable (NoneBegins old t) :=
  decidable_of_iff (∀ s ∈ t.tails, s ≠ [] → ¬ old <+: s ∧ ¬ s <+: old)
    (by simp only [NoneBegins, List.mem_tails])

instance (old t : Text) : Decidable (NoneReaches old t) :=
  decidable_of_iff (∀ s ∈ old.tails, s ≠ [] → s ≠ old → ¬ s <+: t ∧ ¬ t <+: s)
    (by simp only [NoneReaches, List.mem_tails])

variable {old new t : Text}

theorem replaceAll_nil (hold : old ≠ []) (new : Text) : replaceAll old new [] = [] := by
  rw [replaceAll_of_ne_nil hold, replaceFrom]

theorem replaceAll_cons (hold : old ≠ []) {c : Char} (h : ¬ old <+: c :: t) (new : Text) :
    replaceAll old new (c :: t) = c :: replaceAll old new t := by
  rw [← List.isPrefixOf_iff_prefix, Bool.not_eq_true] at h
  rw [replaceAll_of_ne_nil hold, replaceAll_of_ne_nil hold, replaceFrom_cons h]

theorem replaceAll_append_self (hold : old ≠ []) (new t : Text) :
    replaceAll old new (old ++ t) = new ++ replaceAll old new t := by
  rw [replaceAll_of_ne_nil hold, replaceAll_of_ne_nil hold]
  cases old with
  | nil => exact absurd rfl hold
  | cons c rest =>
    have hbegins : (c :: rest).isPrefixOf (c :: (rest ++ t)) :=
      List.isPrefixOf_iff_prefix.2 (List.prefix_append (c :: rest) t)
    rw [List.cons_append, replaceFrom, if_pos hbegins, replaceFrom_drop, List.length_cons,
      Nat.add_sub_cancel, List.drop_left]

theorem NoneBegins.of_cons {c : Char} (h : NoneBegins old (c :: t)) : NoneBegins old t :=
  fun s hs => h s (hs.trans (List.suffix_cons c t))

/-- Where no occurrence begins, the text stays. -/
theorem replaceAll_append_of_noneBegins (hold : old ≠ []) (h : NoneBegins old t) (rest : Text) :
    replaceAll old new (t ++ rest) = t ++ replaceAll old new rest := by
  induction t with
  | nil => rfl
  | cons c t ih =>
    obtain ⟨hwithin, hover⟩ := h (c :: t) List.suffix_rfl (List.cons_ne_nil c t)
    have hnone : ¬ old <+: c :: (t ++ rest) := by
      intro hbegins
      have hpart := List.prefix_append (c :: t) rest
      exact (List.prefix_or_prefix_of_prefix hbegins hpart).elim hwithin hover
    rw [List.cons_append, replaceAll_cons hold hnone, ih h.of_cons, List.cons_append]

/-- Induction over a text from its end, by the characters at which neither part begins and the
occurrences of both. -/
theorem occurrence_induction {a b : Text} (ha : a ≠ []) (hb : b ≠ []) {P : Text → Prop}
    (nil : P []) (first : ∀ t, P t → P (a ++ t)) (second : ∀ t, P t → P (b ++ t))
    (cons : ∀ c t, ¬ a <+: c :: t → ¬ b <+: c :: t → P t → P (c :: t)) (t : Text) : P t := by
  -- An occurrence is not empty, so what stands after it is shorter.
  induction hn : t.length using Nat.strongRecOn generalizing t with
  | ind n ih =>
    have hshorter : ∀ {old : Text}, old ≠ [] → ∀ rest, (old ++ rest).length = n → P rest :=
      fun hold rest hlen => ih rest.length (by
        have := List.length_pos_iff.2 hold
        rw [List.length_append] at hlen
        omega) rest rfl
    by_cases hfirst : a <+: t
    · obtain ⟨rest, rfl⟩ := hfirst
      exact first rest (hshorter ha rest hn)
    by_cases hsecond : b <+: t
    · obtain ⟨rest, rfl⟩ := hsecond
      exact second rest (hshorter hb rest hn)
    cases t with
    | nil => exact nil
    | cons c rest => exact cons c rest hfirst hsecond (hshorter (List.cons_ne_nil c []) rest hn)

theorem ne_of_cons_suffix {c : Char} {rest part : Text} (h : c :: rest <:+ part) : rest ≠ part := by
  rintro rfl
  exact absurd h.length_le (by simp)

/-- An exchange that no occurrence of a part reaches brings no new end of one to the front of the
text. -/
theorem prefix_of_prefix_replaceAll {part : Text} (hold : old ≠ []) (h : NoneReaches part new) :
    ∀ t s : Text, s <:+ part → s ≠ part → s <+: replaceAll old new t → s <+: t := by
  intro t
  induction t using occurrence_induction hold hold with
  | nil =>
    intro s _ _ hs
    rwa [replaceAll_nil hold] at hs
  | first t _ | second t _ =>
    intro s hsuffix hne hs
    rw [replaceAll_append_self hold] at hs
    by_contra hnot
    have hnil : s ≠ [] := fun hnil => hnot (hnil ▸ List.nil_prefix)
    obtain ⟨hwithin, hover⟩ := h s hsuffix hnil hne
    exact (List.prefix_or_prefix_of_prefix hs (List.prefix_append new _)).elim hwithin hover
  | cons c t hnone _ ih =>
    intro s hsuffix hne hs
    rw [replaceAll_cons hold hnone] at hs
    rcases List.prefix_cons_iff.1 hs with rfl | ⟨rest, rfl, hrest⟩
    · exact List.nil_prefix
    · have hrest' := ih rest ((List.suffix_cons c rest).trans hsuffix) (ne_of_cons_suffix hsuffix)
      exact List.prefix_cons_iff.2 (.inr ⟨rest, rfl, hrest' hrest⟩)

/-- Nor does it bring a new occurrence to a character before the text. -/
theorem prefix_cons_of_prefix_cons_replaceAll {part : Text} (hold : old ≠ [])
    (h : NoneReaches part new) {c : Char} (hbegins : part <+: c :: replaceAll old new t) :
    part <+: c :: t := by
  rcases List.prefix_cons_iff.1 hbegins with rfl | ⟨rest, rfl, hrest⟩
  · exact List.nil_prefix
  · have hrest' := prefix_of_prefix_replaceAll hold h t rest (List.suffix_cons c rest)
      (ne_of_cons_suffix List.suffix_rfl)
    exact List.prefix_cons_iff.2 (.inr ⟨rest, rfl, hrest' hrest⟩)

end Occurrences

section Commuting

/-- Neither of two exchanges has a hand in the occurrences of the other: no occurrence of the one
part begins in the other part, in what that is exchanged for, or before the latter to reach it. -/
structure Independent (a b : Text × Text) : Prop where
  partBegins : NoneBegins b.1 a.1 ∧ NoneBegins a.1 b.1
  newBegins : NoneBegins b.1 a.2 ∧ NoneBegins a.1 b.2
  newReaches : NoneReaches b.1 a.2 ∧ NoneReaches a.1 b.2

instance (a b : Text × Text) : Decidable (Independent a b) :=
  decidable_of_iff
    ((NoneBegins b.1 a.1 ∧ NoneBegins a.1 b.1) ∧ (NoneBegins b.1 a.2 ∧ NoneBegins a.1 b.2)
      ∧ NoneReaches b.1 a.2 ∧ NoneReaches a.1 b.2)
    ⟨fun h => ⟨h.1, h.2.1, h.2.2⟩, fun h => ⟨h.1, h.2, h.3⟩⟩

variable {a b : Text × Text}

/-- Independent exchanges can be made in either order. -/
theorem Independent.replaceAll_comm (h : Independent a b) (ha : a.1 ≠ []) (hb : b.1 ≠ [])
    (t : Text) :
    replaceAll b.1 b.2 (replaceAll a.1 a.2 t) = replaceAll a.1 a.2 (replaceAll b.1 b.2 t) := by
  induction t using occurrence_induction ha hb with
  | nil => simp only [replaceAll_nil ha, replaceAll_nil hb]
  | first t ih =>
    rw [replaceAll_append_self ha, replaceAll_append_of_noneBegins hb h.newBegins.1, ih,
      replaceAll_append_of_noneBegins hb h.partBegins.1, replaceAll_append_self ha]
  | second t ih =>
    rw [replaceAll_append_self hb, replaceAll_append_of_noneBegins ha h.newBegins.2, ← ih,
      replaceAll_append_of_noneBegins ha h.partBegins.2, replaceAll_append_self hb]
  | cons c t hfirst hsecond ih =>
    have hsecond' := mt (prefix_cons_of_prefix_cons_replaceAll ha h.newReaches.1) hsecond
    have hfirst' := mt (prefix_cons_of_prefix_cons_replaceAll hb h.newReaches.2) hfirst
    rw [replaceAll_cons ha hfirst, replaceAll_cons hb hsecond, replaceAll_cons hb hsecond',
      replaceAll_cons ha hfirst', ih]

end Commuting

section Reordered

variable {α β : Type} {f : β → α → β}

theorem foldl_comm {a : α} : ∀ {l : List α}, (∀ b ∈ l, ∀ z, f (f z a) b = f (f z b) a) →
    ∀ z, l.foldl f (f z a) = f (l.foldl f z) a
  | [], _, _ => rfl
  | b :: rest, h, z => by
    rw [List.foldl_cons, h b List.mem_cons_self,
      foldl_comm fun c hc => h c (List.mem_cons_of_mem b hc), List.foldl_cons]

/-- Steps can be taken in another order if any two of them whose order changes can be taken in
either order. -/
theorem foldl_eq_of_perm : ∀ {l l' : List α}, l.Perm l' →
    (∀ a b, [a, b].Sublist l → [b, a].Sublist l' → ∀ z, f (f z a) b = f (f z b) a) →
    ∀ z, l.foldl f z = l'.foldl f z
  | [], l', hperm, _, z => by rw [List.nil_perm.1 hperm]
  | a :: rest, l', hperm, hcomm, z => by
    obtain ⟨before, after, rfl⟩ := List.append_of_mem (hperm.mem_iff.1 List.mem_cons_self)
    have hrest : rest.Perm (before ++ after) := (List.perm_cons a).1 (hperm.trans List.perm_middle)
    -- The first step can be taken before all that come before it in the other order.
    have hbefore : ∀ b ∈ before, ∀ z, f (f z a) b = f (f z b) a := by
      intro b hb
      have hmem : b ∈ rest := hrest.mem_iff.2 (List.mem_append_left after hb)
      exact hcomm a b (List.cons_sublist_cons.2 (List.singleton_sublist.2 hmem))
        ((List.singleton_sublist.2 hb).append (List.singleton_sublist.2 List.mem_cons_self))
    have hsub : (before ++ after).Sublist (before ++ a :: after) :=
      (List.sublist_cons_self a after).append_left before
    rw [List.foldl_cons,
      foldl_eq_of_perm hrest fun b c hb hc => hcomm b c (hb.cons a) (hc.trans hsub),
      List.foldl_append, foldl_comm hbefore, ← List.foldl_cons, ← List.foldl_append]

end Reordered

end Text

end MarkedSheet
