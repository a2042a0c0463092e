import MarkedSheet.Pinyin.Transliterator
import MarkedSheet.Proofs.Text.Exchanges

/-!
# The order of aliases

Longer aliases are exchanged first, so the order in which aliases of different lengths are given
does not count (`filter_ordered`). Of two aliases of one length the first given is exchanged first,
and the other order can give another text (`Transliterator.convert_swapped`), but not if they are
independent (`Transliterator.convert_perm`).
-/

namespace MarkedSheet

namespace Pinyin

namespace Transliterator

section Ordered

variable (transliterator : Transliterator)

theorem ordered_perm : transliterator.ordered.Perm transliterator.aliases :=
  List.mergeSort_perm _ _

theorem longer_trans (a b c : Text × Text) (hab : decide (b.1.length ≤ a.1.length))
    (hbc : decide (c.1.length ≤ b.1.length)) : decide (c.1.length ≤ a.1.length) := by
  simp only [decide_eq_true_eq] at *
  omega

theorem longer_total (a b : Text × Text) :
    decide (b.1.length ≤ a.1.length) || decide (a.1.length ≤ b.1.length) := by
  simp only [Bool.or_eq_true, decide_eq_true_eq]
  omega

theorem pairwise_ordered :
    transliterator.ordered.Pairwise fun a b => b.1.length ≤ a.1.length :=
  (List.pairwise_mergeSort longer_trans longer_total _).imp of_decide_eq_true

/-- Aliases of one length stay in their order. -/
theorem filter_ordered (n : Nat) :
    transliterator.ordered.filter (·.1.length = n)
      = transliterator.aliases.filter (·.1.length = n) := by
  have hsorted : (transliterator.aliases.filter (·.1.length = n)).Pairwise
      fun a b => decide (b.1.length ≤ a.1.length) := by
    refine List.pairwise_of_forall_mem_list fun a ha b hb => ?_
    simp only [List.mem_filter, decide_eq_true_eq] at ha hb ⊢
    omega
  have hsub := (List.sublist_mergeSort longer_trans longer_total hsorted
    List.filter_sublist).filter (·.1.length = n)
  simp only [List.filter_filter, Bool.and_self] at hsub
  exact (hsub.eq_of_length (transliterator.ordered_perm.filter _).length_eq.symm).symm

variable {transliterator}

/-- Aliases that come one after the other when ordered, and do not have different lengths, were
given so. -/
theorem sublist_of_sublist_ordered {e f : Text × Text} (hlength : e.1.length = f.1.length)
    (h : [e, f].Sublist transliterator.ordered) : [e, f].Sublist transliterator.aliases := by
  have hfiltered := h.filter (·.1.length = e.1.length)
  rw [filter_ordered, List.filter_cons_of_pos (by simp),
    List.filter_cons_of_pos (by simp [hlength]), List.filter_nil] at hfiltered
  exact hfiltered.trans List.filter_sublist

end Ordered

variable {a b : Transliterator}

/-- In another order the aliases give the same if those of one length whose order changes are
independent. -/
theorem exchange_perm (hperm : a.aliases.Perm b.aliases) (hkeys : (a.aliases.map Prod.fst).Nodup)
    (hindependent : ∀ e f, [e, f].Sublist a.aliases → [f, e].Sublist b.aliases →
      e.1.length = f.1.length → Text.Independent e f) (t : Text) : a.exchange t = b.exchange t := by
  have hordered : a.ordered.Perm b.ordered :=
    a.ordered_perm.trans (hperm.trans b.ordered_perm.symm)
  refine Text.foldl_eq_of_perm hordered (fun e f hef hfe t => ?_) t
  have hlength : e.1.length = f.1.length := Nat.le_antisymm
    (List.pairwise_iff_forall_sublist.1 b.pairwise_ordered hfe)
    (List.pairwise_iff_forall_sublist.1 a.pairwise_ordered hef)
  have hgiven := sublist_of_sublist_ordered hlength hef
  have hne : e.1 ≠ f.1 := by
    have hpair := hkeys.sublist (hgiven.map Prod.fst)
    simpa using hpair
  -- There is only one alias without characters.
  have hpos : 0 < e.1.length := Nat.pos_of_ne_zero fun hzero => hne
    ((List.length_eq_zero_iff.1 hzero).trans
      (List.length_eq_zero_iff.1 (hlength.symm.trans hzero)).symm)
  have hfree := hindependent e f hgiven (sublist_of_sublist_ordered hlength.symm hfe) hlength
  exact hfree.replaceAll_comm (List.ne_nil_of_length_pos hpos)
    (List.ne_nil_of_length_pos (hlength ▸ hpos)) t

/-- Of aliases given in another order only those of one length that are not independent count. -/
theorem convert_perm (hperm : a.aliases.Perm b.aliases) (hkeys : (a.aliases.map Prod.fst).Nodup)
    (hindependent : ∀ e f, [e, f].Sublist a.aliases → [f, e].Sublist b.aliases →
      e.1.length = f.1.length → Text.Independent e f) (lexicon : Lexicon) (t : Text) :
    a.convert lexicon t = b.convert lexicon t := by
  rw [convert, convert, exchange_perm hperm hkeys hindependent]

section Circular

/-- Two aliases of one length that lead to one another. -/
def circular : Mapping Text Text :=
  [("火".toList, "球".toList), ("球".toList, "火".toList)]

/-- The readings of the two. -/
def circularReadings : Lexicon :=
  .byPhrases ⟨[], [('火', "huo".toList), ('球', "qiu".toList)]⟩

/-- An alias of the same length that is independent of the two. -/
def sword : Text × Text :=
  ("剑".toList, "sword".toList)

/-- An independent alias can be given first or last. -/
theorem convert_moved :
    (circular ++ [sword]).Perm (sword :: circular) ∧ ((circular ++ [sword]).map Prod.fst).Nodup
      ∧ convert ⟨circular ++ [sword]⟩ circularReadings "火剑".toList
        = convert ⟨sword :: circular⟩ circularReadings "火剑".toList := by
  have hperm : (circular ++ [sword]).Perm (sword :: circular) := by decide
  have hkeys : ((circular ++ [sword]).map Prod.fst).Nodup := by decide
  have hpairs : (circular ++ [sword]).Pairwise fun e f =>
      [f, e].Sublist (sword :: circular) → Text.Independent e f := by decide
  exact ⟨hperm, hkeys, convert_perm hperm hkeys (fun e f hef hfe _ =>
    List.pairwise_iff_forall_sublist.1 hpairs hef hfe) circularReadings "火剑".toList⟩

/-- Aliases that lead to one another give different texts in different orders. -/
theorem convert_swapped :
    circular.Perm circular.reverse ∧ (circular.map Prod.fst).Nodup
      ∧ convert ⟨circular⟩ circularReadings "火".toList = .ok "huo".toList
      ∧ convert ⟨circular.reverse⟩ circularReadings "火".toList = .ok "qiu".toList := by
  have hfirst : ordered ⟨circular⟩ = circular := List.mergeSort_of_pairwise (by decide)
  have hreversed : ordered ⟨circular.reverse⟩ = circular.reverse :=
    List.mergeSort_of_pairwise (by decide)
  refine ⟨by decide, by decide, ?_, ?_⟩
  · rw [convert, exchange, hfirst]
    decide +kernel
  · rw [convert, exchange, hreversed]
    decide +kernel

end Circular

end Transliterator

end Pinyin

end MarkedSheet
