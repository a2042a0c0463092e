import MarkedSheet.KeyValues.Collapse
import MarkedSheet.KeyValues.Value
import MarkedSheet.Proofs.Text.Trimmed

/-!
# What lines look like

With blanks for indentation a line shows by its trimmed text what it is: only the lines that open
containers, some comments, and some values that are not quoted end with a brace, only the closing
lines are one, and only comments start with two slashes.
-/

namespace MarkedSheet

namespace KeyValues

/-- The line is a comment. -/
def isCommentLine (line : Text) : Bool :=
  ['/', '/'].isPrefixOf line.trim

theorem isSuffixOf_concat (c d : Char) (t : Text) : [c].isSuffixOf (t ++ [d]) = (c == d) := by
  simp [List.isSuffixOf, List.isPrefixOf]

section Indentation

variable {unit : Text}

theorem isBlank_indentation (hunit : unit.isBlank) (depth : Int) :
    (indentation unit depth).isBlank := by
  refine List.all_eq_true.2 fun c hc => ?_
  obtain ⟨piece, hpiece, hc⟩ := List.mem_flatten.1 hc
  rw [List.eq_of_mem_replicate hpiece] at hc
  split at hc
  · obtain rfl := List.mem_singleton.1 hc
    rfl
  · exact List.all_eq_true.1 hunit c hc

variable (hunit : unit.isBlank) (depth : Int)

include hunit

theorem trim_indented (t : Text) : (indentation unit depth ++ t).trim = t.trim :=
  Text.trim_append_of_isBlank (isBlank_indentation hunit depth) t

theorem opensContainer_indented (t : Text) :
    opensContainer (indentation unit depth ++ t) = opensContainer t := by
  rw [opensContainer, trim_indented hunit, opensContainer]

theorem closesContainer_indented (t : Text) :
    closesContainer (indentation unit depth ++ t) = closesContainer t := by
  rw [closesContainer, trim_indented hunit, closesContainer]

theorem isCommentLine_indented (t : Text) :
    isCommentLine (indentation unit depth ++ t) = isCommentLine t := by
  rw [isCommentLine, trim_indented hunit, isCommentLine]

end Indentation

section Closing

/-- A line that has another character than blanks and the brace closes nothing. -/
theorem closesContainer_of_mem {line : Text} {c : Char} (hc : c ∈ line)
    (hblank : isBlankChar c = false) (hne : c ≠ '}') : closesContainer line = false := by
  rw [closesContainer, decide_eq_false_iff_not]
  intro htrim
  have hmem := Text.mem_trim hc hblank
  rw [htrim] at hmem
  exact hne (List.mem_singleton.1 hmem)

variable (unit : Text) (depth : Int)

theorem closesContainer_openLine (name : Text) :
    closesContainer (indentation unit depth ++ openText name) = false :=
  closesContainer_of_mem (c := '"') (by simp [openText, quote]) rfl (by decide)

theorem closesContainer_commentLine (content : Text) :
    closesContainer (indentation unit depth ++ commentText content) = false :=
  closesContainer_of_mem (c := '/') (by simp [commentText]) rfl (by decide)

theorem closesContainer_pairLine (key value : Text) :
    closesContainer (indentation unit depth ++ pairText key value) = false :=
  closesContainer_of_mem (c := '"') (by simp [pairText, quote]) rfl (by decide)

end Closing

section Brackets

theorem openText_eq (name : Text) :
    openText name = '"' :: (escape name ++ ['"', ' ']) ++ ['{'] := by
  simp [openText, quote]

theorem trim_openText (name : Text) : (openText name).trim = openText name := by
  rw [openText_eq]
  exact Text.trim_eq_self rfl rfl _

theorem opensContainer_openText (name : Text) : opensContainer (openText name) = true := by
  rw [opensContainer, trim_openText, openText_eq]
  exact isSuffixOf_concat '{' '{' _

theorem isCommentLine_openText (name : Text) : isCommentLine (openText name) = false := by
  rw [isCommentLine, trim_openText]
  simp [openText, quote, List.isPrefixOf]

theorem opensContainer_closeText : opensContainer closeText = false := by decide

theorem closesContainer_closeText : closesContainer closeText = true := by decide

end Brackets

section Comments

theorem prefix_trim_commentText (content : Text) : ['/', '/'] <+: (commentText content).trim := by
  have h : (commentText content).trimStart = ['/'] ++ '/' :: ' ' :: content :=
    Text.trimStart_cons rfl _
  rw [Text.trim, h]
  exact Text.prefix_trimEnd rfl ['/'] (' ' :: content)

theorem isCommentLine_commentText (content : Text) : isCommentLine (commentText content) = true :=
  List.isPrefixOf_iff_prefix.2 (prefix_trim_commentText content)

end Comments

section Pairs

/-- Nested text starts with a brace when it is trimmed. -/
theorem isNestedText_eq (value : Text) : isNestedText value = ['{'].isPrefixOf value.trim := by
  unfold isNestedText
  rw [Text.trim]
  rcases h : value.trimStart with _ | ⟨c, rest⟩
  · rfl
  · have hc : isBlankChar c = false := Text.isBlankChar_head_trimStart h
    obtain ⟨more, hmore⟩ := Text.prefix_trimEnd hc [] rest
    rw [List.nil_append, List.nil_append, List.singleton_append] at hmore
    rw [← hmore]
    simp [List.isPrefixOf]

theorem trim_ne_nil_of_isNestedText {value : Text} (h : isNestedText value) : value.trim ≠ [] := by
  intro hnil
  rw [isNestedText_eq, hnil] at h
  simp at h

theorem pairText_of_nested (key : Text) {value : Text} (h : isNestedText value) :
    pairText key value = '"' :: (escape key ++ ['"', ' ']) ++ value.trim := by
  simp [pairText, h, quote]

theorem pairText_of_not_nested (key : Text) {value : Text} (h : ¬ isNestedText value) :
    pairText key value = '"' :: (escape key ++ ['"', ' ', '"'] ++ escape value) ++ ['"'] := by
  simp [pairText, h, quote]

theorem trim_pairText (key value : Text) : (pairText key value).trim = pairText key value := by
  by_cases h : isNestedText value
  · rw [pairText_of_nested key h]
    exact Text.trim_append_trim rfl _ (trim_ne_nil_of_isNestedText h)
  · rw [pairText_of_not_nested key h]
    exact Text.trim_eq_self rfl rfl _

/-- A pair is taken for an opening line if its value is nested text that ends with a brace. -/
theorem opensContainer_pairText_eq (key value : Text) :
    opensContainer (pairText key value)
      = (isNestedText value && ['{'].isSuffixOf value.trim) := by
  rw [opensContainer, trim_pairText]
  by_cases h : isNestedText value
  · obtain ⟨front, last, hlast⟩ : ∃ front last, value.trim = front ++ [last] :=
      ⟨_, _, (List.dropLast_concat_getLast (trim_ne_nil_of_isNestedText h)).symm⟩
    rw [pairText_of_nested key h, hlast, ← List.append_assoc, isSuffixOf_concat, isSuffixOf_concat,
      h, Bool.true_and]
  · rw [pairText_of_not_nested key h, isSuffixOf_concat]
    simp [h]

theorem opensContainer_pairText (key : Text) {value : Text} (h : isNestedText value = false) :
    opensContainer (pairText key value) = false := by
  rw [opensContainer_pairText_eq, h, Bool.false_and]

theorem isCommentLine_pairText (key value : Text) : isCommentLine (pairText key value) = false := by
  rw [isCommentLine, trim_pairText]
  simp [pairText, quote, List.isPrefixOf]

end Pairs

section Values

theorem isNestedText_of_not_mem {value : Text} (h : '{' ∉ value) : isNestedText value = false := by
  rw [Bool.eq_false_iff]
  intro hnested
  obtain ⟨rest, hrest⟩ := List.isPrefixOf_iff_prefix.1 hnested
  have hmem : '{' ∈ value.trimStart := by simp [← hrest]
  exact h ((List.dropWhile_sublist _).subset hmem)

theorem brace_not_mem_ofNat (n : Nat) : '{' ∉ Text.ofNat n := by
  intro h
  have := Nat.isDigit_of_mem_toDigits (by decide) (by decide) h
  exact absurd this (by decide)

theorem brace_not_mem_fourPlaces (n : Numeral) : '{' ∉ n.fourPlaces := by
  have hmagnitude : ∀ x : Magnitude, '{' ∉ x.fourPlaces := by
    intro x
    cases x with
    | infinite => decide
    | finite m q =>
      simp [Magnitude.fourPlaces, List.leftpad, brace_not_mem_ofNat, List.mem_replicate]
  unfold Numeral.fourPlaces
  split <;> simp [hmagnitude]

/-- What is written for a value is the value itself or has no brace. -/
theorem normalize_eq_or_not_mem (emptyToken value : Text) :
    normalize emptyToken value = value ∨ '{' ∉ normalize emptyToken value := by
  rcases normalize_cases emptyToken value with h | h | ⟨n, -, h⟩
  · exact .inr (by simp [h])
  · exact .inl h
  · exact .inr (h ▸ brace_not_mem_fourPlaces n)

/-- A value is nested text as it is written only if it is so in its cell. -/
theorem isNestedText_normalize (emptyToken : Text) {value : Text}
    (h : isNestedText value = false) : isNestedText (normalize emptyToken value) = false := by
  rcases normalize_eq_or_not_mem emptyToken value with heq | hbrace
  · rw [heq, h]
  · exact isNestedText_of_not_mem hbrace

end Values

end KeyValues

end MarkedSheet
