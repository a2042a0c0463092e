import Mathlib.Data.List.DropRight
import MarkedSheet.Text.Blank

/-!
# Texts without outer blanks

Blanks around a text are lost when it is trimmed (`trim_append_of_isBlank`,
`trim_append_right_of_isBlank`), and a text that begins and ends with something else is its own
trimmed text (`trim_eq_self`). Around such a text trimming takes blanks off only where nothing else
stands farther out (`trim_around`).
-/

namespace MarkedSheet

/-- Dropping from the end stops at the last element that is kept. -/
theorem rdropWhile_append_cons {α : Type} {q : α → Bool} {x : α} (hx : ¬ q x) (l rest : List α) :
    (l ++ x :: rest).rdropWhile q = l ++ x :: rest.rdropWhile q := by
  induction rest using List.reverseRecOn with
  | nil => rw [List.rdropWhile_concat_neg q l x hx, List.rdropWhile_nil]
  | append_singleton rest y ih =>
    rw [← List.cons_append, ← List.append_assoc]
    by_cases hy : q y
    · rw [List.rdropWhile_concat_pos q _ y hy, List.rdropWhile_concat_pos q _ y hy, ih]
    · rw [List.rdropWhile_concat_neg q _ y hy, List.rdropWhile_concat_neg q _ y hy]
      simp

namespace Text

section Start

theorem trimStart_append_of_isBlank {a : Text} (h : isBlank a) (t : Text) :
    trimStart (a ++ t) = trimStart t :=
  List.dropWhile_append_of_pos (List.all_eq_true.1 h)

theorem trim_append_of_isBlank {a : Text} (h : isBlank a) (t : Text) : trim (a ++ t) = trim t := by
  rw [trim, trimStart_append_of_isBlank h, trim]

theorem trimStart_cons {c : Char} (h : isBlankChar c = false) (t : Text) :
    trimStart (c :: t) = c :: t := by
  simp [trimStart, h]

theorem trimStart_append_cons {c : Char} (h : isBlankChar c = false) (a t : Text) :
    trimStart (a ++ c :: t) = trimStart a ++ c :: t := by
  induction a with
  | nil => exact trimStart_cons h t
  | cons d a ih => by_cases hd : isBlankChar d <;> simp_all [trimStart]

/-- The first character of a text without the blanks it starts with is not blank. -/
theorem isBlankChar_head_trimStart {t s : Text} {c : Char} (h : trimStart t = c :: s) :
    isBlankChar c = false := by
  unfold trimStart at h
  have hne : t.dropWhile isBlankChar ≠ [] := by simp [h]
  have := List.head_dropWhile_not isBlankChar hne
  simpa [h] using this

end Start

section End

theorem trimEnd_append_cons {c : Char} (h : isBlankChar c = false) (t b : Text) :
    trimEnd (t ++ c :: b) = t ++ c :: trimEnd b :=
  rdropWhile_append_cons (by simp [h]) t b

theorem trimEnd_concat {c : Char} (h : isBlankChar c = false) (t : Text) :
    trimEnd (t ++ [c]) = t ++ [c] :=
  trimEnd_append_cons h t []

/-- What stands up to a character that is not blank stays. -/
theorem prefix_trimEnd {c : Char} (h : isBlankChar c = false) (s t : Text) :
    s ++ [c] <+: trimEnd (s ++ c :: t) := by
  rw [trimEnd_append_cons h]
  exact ⟨trimEnd t, by simp⟩

theorem exists_trimEnd (t : Text) : ∃ blanks, isBlank blanks ∧ t = trimEnd t ++ blanks := by
  refine ⟨(t.reverse.takeWhile isBlankChar).reverse, ?_, ?_⟩
  · simp [isBlank, List.all_takeWhile]
  · rw [trimEnd, ← List.reverse_append, List.takeWhile_append_dropWhile, List.reverse_reverse]

theorem trimEnd_append_of_isBlank {b : Text} (h : isBlank b) (t : Text) :
    trimEnd (t ++ b) = trimEnd t := by
  have hrev : isBlank b.reverse := by simpa [isBlank] using h
  have hstart := trimStart_append_of_isBlank hrev t.reverse
  rw [trimEnd, List.reverse_append, ← trimStart, hstart, trimStart, trimEnd]

theorem trim_append_right_of_isBlank {b : Text} (h : isBlank b) (t : Text) :
    trim (t ++ b) = trim t := by
  rw [trim, trimStart, List.dropWhile_append]
  split
  next hnone =>
    have hstart : trimStart t = [] := List.isEmpty_iff.1 hnone
    rw [trim, hstart]
    exact trim_eq_nil_iff.2 h
  next => exact trimEnd_append_of_isBlank h _

end End

section Trimmed

theorem trim_eq_self {c d : Char} (hc : isBlankChar c = false) (hd : isBlankChar d = false)
    (t : Text) : trim (c :: t ++ [d]) = c :: t ++ [d] := by
  rw [trim, List.cons_append, trimStart_cons hc, ← List.cons_append, trimEnd_concat hd]

theorem trim_of_not_blank {t : Text} (h : ∀ c ∈ t, isBlankChar c = false) : trim t = t := by
  have hstart : trimStart t = t := by
    cases t with
    | nil => rfl
    | cons c t => exact trimStart_cons (h c List.mem_cons_self) t
  have hend : trimEnd t = t := by
    rcases List.eq_nil_or_concat t with rfl | ⟨t, c, rfl⟩
    · rfl
    · rw [List.concat_eq_append] at h ⊢
      exact trimEnd_concat (h c (by simp)) t
  rw [trim, hstart, hend]

theorem isBlankChar_head_trim {t s : Text} {c : Char} (h : trim t = c :: s) :
    isBlankChar c = false := by
  obtain ⟨rest, hrest⟩ := List.rdropWhile_prefix isBlankChar (l := trimStart t)
  change trim t ++ rest = trimStart t at hrest
  rw [h, List.cons_append] at hrest
  exact isBlankChar_head_trimStart hrest.symm

/-- The last character of a trimmed text is not blank. -/
theorem isBlankChar_getLast_trim {t : Text} {s : Text} {c : Char} (h : trim t = s ++ [c]) :
    isBlankChar c = false := by
  have hrev := congrArg List.reverse h
  simp only [trim, trimEnd, List.reverse_reverse, List.reverse_append, List.reverse_cons,
    List.reverse_nil, List.nil_append, List.singleton_append] at hrev
  have hne : (trimStart t).reverse.dropWhile isBlankChar ≠ [] := by simp [hrev]
  have := List.head_dropWhile_not isBlankChar hne
  simpa [hrev] using this

theorem trim_trim (t : Text) : trim (trim t) = trim t := by
  have hstart : trimStart (trim t) = trim t := by
    rcases h : trim t with _ | ⟨c, s⟩
    · rfl
    · exact trimStart_cons (isBlankChar_head_trim h) s
  rw [trim, hstart]
  exact List.rdropWhile_idempotent isBlankChar (trimStart t)

theorem trim_trimStart (t : Text) : trim (trimStart t) = trim t := by
  rw [trim, trimStart, trimStart, List.dropWhile_idempotent, ← trimStart, trim]

/-- Around a trimmed text only the blanks at the far ends are taken off. -/
theorem trim_around {p : Text} (hp : trim p = p) (hne : p ≠ []) (a b : Text) :
    trim (a ++ (p ++ b)) = trimStart a ++ (p ++ trimEnd b) := by
  obtain ⟨c, s, hfirst⟩ := List.exists_cons_of_ne_nil hne
  obtain ⟨front, last, hlast⟩ : ∃ front last, p = front ++ [last] :=
    ⟨_, _, (List.dropLast_concat_getLast hne).symm⟩
  have hstart : trimStart (a ++ (p ++ b)) = trimStart a ++ (p ++ b) := by
    rw [hfirst, List.cons_append]
    exact trimStart_append_cons (isBlankChar_head_trim (hp.trans hfirst)) a (s ++ b)
  have hend : ∀ r, trimEnd (r ++ (p ++ b)) = r ++ (p ++ trimEnd b) := by
    intro r
    have := trimEnd_append_cons (isBlankChar_getLast_trim (hp.trans hlast)) (r ++ front) b
    simpa [hlast] using this
  rw [trim, hstart, hend]

/-- Blanks within do not matter: where a text starts with something that is not blank and goes on
with a trimmed text, trimming takes nothing off. -/
theorem trim_append_trim {c : Char} (hc : isBlankChar c = false) (s : Text) {t : Text}
    (ht : trim t ≠ []) : trim (c :: s ++ trim t) = c :: s ++ trim t := by
  have := trim_around (trim_trim t) ht (c :: s) []
  rwa [List.append_nil, trimEnd_nil, List.append_nil, trimStart_cons hc] at this

end Trimmed

theorem mem_dropWhile_isBlankChar {t : Text} {c : Char} (hc : c ∈ t) (h : isBlankChar c = false) :
    c ∈ t.dropWhile isBlankChar := by
  rw [← List.takeWhile_append_dropWhile (p := isBlankChar) (l := t), List.mem_append] at hc
  refine hc.resolve_left fun hmem => ?_
  have := List.all_eq_true.1 (List.all_takeWhile (p := isBlankChar) (l := t)) c hmem
  simp [h] at this

/-- Trimming takes off nothing but blanks. -/
theorem mem_trim {t : Text} {c : Char} (hc : c ∈ t) (h : isBlankChar c = false) : c ∈ trim t := by
  have hstart := mem_dropWhile_isBlankChar hc h
  exact List.mem_reverse.2 (mem_dropWhile_isBlankChar (List.mem_reverse.2 hstart) h)

end Text

end MarkedSheet
