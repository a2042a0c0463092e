import MarkedSheet.Proofs.KeyValues.Lines

/-!
# Reading key values

The reader of the format. Outside quotation marks blanks part the tokens, two slashes begin a
comment that lasts to the end of the line, and a brace is a token of its own. A quoted token ends at
the first quotation mark that has no backslash before it; a backslash and a quotation mark stand for
the mark, and every other character for itself. So a written token is read back exactly if it does
not end with a backslash (`tokens_quote_iff`): a backslash at the end takes the closing mark with
it, and whatever is read instead differs from the token in that place (`quoted_of_tokensFrom`).
-/

namespace MarkedSheet

namespace KeyValues

/-- What a reader of key values tells apart. -/
inductive Token
  | opening
  | closing
  /-- A token in quotation marks. -/
  | quoted (content : Text)
  /-- Characters that are neither in quotation marks nor in a comment. -/
  | bare (content : Text)
  deriving DecidableEq, Repr

/-- Where a reader is. -/
inductive Mode
  /-- Outside quotation marks, after the characters of a bare token. -/
  | outside (word : Text)
  /-- In a comment. -/
  | comment
  /-- In quotation marks, after characters that were read as `content`. -/
  | quoted (content : Text)
  deriving DecidableEq, Repr

/-- The bare token that ends, if there is one. -/
def wordTokens (word : Text) : List Token :=
  if word.isEmpty then [] else [.bare word]

/-- The text ends with a backslash. -/
def EndsWithBackslash (t : Text) : Prop :=
  t.getLast? = some '\\'

instance (t : Text) : Decidable (EndsWithBackslash t) :=
  inferInstanceAs (Decidable (t.getLast? = some '\\'))

/-- One character further, with the tokens that end there. In quotation marks, a mark after a
backslash takes its place. -/
def Mode.step : Mode → Char → Mode × List Token
  | .outside word, c =>
    if c = '/' && word.getLast? = some '/' then (.comment, wordTokens word.dropLast)
    else if c = '"' then (.quoted [], wordTokens word)
    else if c = '{' then (.outside [], wordTokens word ++ [.opening])
    else if c = '}' then (.outside [], wordTokens word ++ [.closing])
    else if isBlankChar c then (.outside [], wordTokens word)
    else (.outside (word ++ [c]), [])
  | .comment, c => (if c = '\n' then .outside [] else .comment, [])
  | .quoted content, c =>
    if c = '"' then
      if EndsWithBackslash content then (.quoted (content.dropLast ++ ['"']), [])
      else (.outside [], [.quoted content])
    else (.quoted (content ++ [c]), [])

/-- The tokens of a text from a mode on; none if the text ends in quotation marks. -/
def tokensFrom : Mode → Text → Option (List Token)
  | .outside word, [] => some (wordTokens word)
  | .comment, [] => some []
  | .quoted _, [] => none
  | mode, c :: rest => (tokensFrom (mode.step c).1 rest).map ((mode.step c).2 ++ ·)

/-- The tokens of a text. -/
def tokens (t : Text) : Option (List Token) :=
  tokensFrom (.outside []) t

section Steps

theorem tokensFrom_cons (mode : Mode) (c : Char) (rest : Text) :
    tokensFrom mode (c :: rest)
      = (tokensFrom (mode.step c).1 rest).map ((mode.step c).2 ++ ·) := by
  cases mode <;> rfl

@[simp] theorem tokens_nil : tokens [] = some [] := rfl

theorem tokens_opening (rest : Text) :
    tokens ('{' :: rest) = (tokens rest).map (.opening :: ·) := by
  rw [tokens, tokensFrom_cons]
  rfl

theorem tokens_closing (rest : Text) :
    tokens ('}' :: rest) = (tokens rest).map (.closing :: ·) := by
  rw [tokens, tokensFrom_cons]
  rfl

theorem tokens_blank {c : Char} (hc : isBlankChar c) (rest : Text) :
    tokens (c :: rest) = tokens rest := by
  have hmark : ∀ d, isBlankChar d = false → c ≠ d := by
    rintro d hd rfl
    simp [hd] at hc
  have hstep : Mode.step (.outside []) c = (.outside [], []) := by
    simp [Mode.step, wordTokens, hc, hmark '"' rfl, hmark '{' rfl, hmark '}' rfl]
  rw [tokens, tokensFrom_cons, hstep]
  simp [tokens]

theorem tokens_blanks {s : Text} (hs : s.isBlank) (rest : Text) :
    tokens (s ++ rest) = tokens rest := by
  induction s with
  | nil => rfl
  | cons c s ih =>
    have h := List.all_eq_true.1 hs
    have ih := ih (List.all_eq_true.2 fun d hd => h d (List.mem_cons_of_mem c hd))
    rw [List.cons_append, tokens_blank (h c List.mem_cons_self), ih]

theorem tokens_newline (rest : Text) : tokens ('\n' :: rest) = tokens rest :=
  tokens_blank rfl rest

end Steps

section Comments

theorem tokensFrom_comment {s : Text} (hs : '\n' ∉ s) (rest : Text) :
    tokensFrom .comment (s ++ rest) = tokensFrom .comment rest := by
  induction s with
  | nil => rfl
  | cons c s ih =>
    simp only [List.mem_cons, not_or] at hs
    have hstep : Mode.step .comment c = (.comment, []) := by
      simp [Mode.step, Ne.symm hs.1]
    rw [List.cons_append, tokensFrom_cons, hstep, ih hs.2]
    simp

theorem tokens_slashes (rest : Text) : tokens ('/' :: '/' :: rest) = tokensFrom .comment rest := by
  rw [tokens, tokensFrom_cons, tokensFrom_cons]
  simp [Mode.step, isBlankChar, wordTokens]

/-- A comment is read as nothing, up to the end of its line. -/
theorem tokens_comment {s : Text} (hs : '\n' ∉ s) (rest : Text) :
    tokens ('/' :: '/' :: s ++ '\n' :: rest) = tokens rest := by
  rw [List.cons_append, List.cons_append, tokens_slashes, tokensFrom_comment hs, tokensFrom_cons]
  simp [Mode.step, tokens]

end Comments

section Quotes

/-- What is written for a text between quotation marks is read as the text. -/
theorem tokensFrom_quoted_escape (t rest : Text) : ∀ content : Text,
    tokensFrom (.quoted content) (escape t ++ rest) = tokensFrom (.quoted (content ++ t)) rest := by
  induction t with
  | nil => intro content; simp
  | cons c t ih =>
    intro content
    have happend : content ++ c :: t = content ++ [c] ++ t := by simp
    rw [happend, ← ih]
    by_cases hc : c = '"'
    · subst hc
      have hescape : escape ('"' :: t) = '\\' :: '"' :: escape t := rfl
      rw [hescape, List.cons_append, List.cons_append, tokensFrom_cons, tokensFrom_cons]
      simp [Mode.step, EndsWithBackslash]
    · have hescape : escape (c :: t) = c :: escape t := by simp [escape, hc]
      rw [hescape, List.cons_append, tokensFrom_cons]
      simp [Mode.step, hc]

theorem tokens_quote_append (t rest : Text) :
    tokens (quote t ++ rest) = tokensFrom (.quoted t) ('"' :: rest) := by
  have hquote : quote t ++ rest = '"' :: (escape t ++ '"' :: rest) := by simp [quote]
  rw [hquote, tokens, tokensFrom_cons]
  have := tokensFrom_quoted_escape t ('"' :: rest) []
  simpa [Mode.step, wordTokens] using this

/-- A token that does not end with a backslash is read back. -/
theorem tokens_quote {t : Text} (ht : ¬ EndsWithBackslash t) (rest : Text) :
    tokens (quote t ++ rest) = (tokens rest).map (.quoted t :: ·) := by
  rw [tokens_quote_append, tokensFrom_cons]
  simp [Mode.step, ht, tokens]

/-- A quotation mark that was read in quotation marks stays where it is in the token. -/
theorem quoted_of_tokensFrom {front : Text} (rest : Text) : ∀ {back : Text} {read : List Token},
    tokensFrom (.quoted (front ++ '"' :: back)) rest = some read →
      ∃ back' read', read = .quoted (front ++ '"' :: back') :: read' := by
  induction rest with
  | nil =>
    intro back read h
    simp [tokensFrom] at h
  | cons c rest ih =>
    intro back read h
    rw [tokensFrom_cons] at h
    obtain ⟨more, hmore, rfl⟩ := Option.map_eq_some_iff.1 h
    unfold Mode.step at hmore ⊢
    by_cases hc : c = '"'
    · simp only [hc, if_true] at hmore ⊢
      split at hmore
      next hends =>
        -- The backslash that is taken back comes after the mark.
        rcases List.eq_nil_or_concat back with rfl | ⟨init, d, rfl⟩
        · simp [EndsWithBackslash] at hends
        · have hlast : front ++ '"' :: init.concat d = front ++ '"' :: init ++ [d] := by simp
          have hdrop : (front ++ '"' :: init.concat d).dropLast ++ ['"']
              = front ++ '"' :: (init ++ ['"']) := by
            rw [hlast, List.dropLast_concat]
            simp
          rw [if_pos hends]
          rw [hdrop] at hmore
          simpa using ih hmore
      next hends =>
        rw [if_neg hends]
        exact ⟨back, more, rfl⟩
    · simp only [hc, if_false] at hmore ⊢
      rw [List.append_assoc, List.cons_append] at hmore
      simpa using ih hmore

/-- A written token is read back exactly if it does not end with a backslash. -/
theorem tokens_quote_iff (t rest : Text) (read : List Token) :
    tokens (quote t ++ rest) = some (.quoted t :: read)
      ↔ ¬ EndsWithBackslash t ∧ tokens rest = some read := by
  by_cases ht : EndsWithBackslash t
  · simp only [ht, not_true_eq_false, false_and, iff_false]
    intro h
    obtain ⟨init, rfl⟩ : ∃ init, t = init ++ ['\\'] := by
      rcases List.eq_nil_or_concat t with rfl | ⟨init, d, rfl⟩
      · simp [EndsWithBackslash] at ht
      · refine ⟨init, ?_⟩
        simpa [EndsWithBackslash] using ht
    rw [tokens_quote_append, tokensFrom_cons] at h
    have hmark : tokensFrom (.quoted (init ++ '"' :: [])) rest
        = some (.quoted (init ++ ['\\']) :: read) := by
      simpa [Mode.step, ht] using h
    obtain ⟨back, read', hread⟩ := quoted_of_tokensFrom rest hmark
    simp at hread
  · rw [tokens_quote ht]
    simp [ht, Option.map_eq_some_iff]

end Quotes

end KeyValues

end MarkedSheet
