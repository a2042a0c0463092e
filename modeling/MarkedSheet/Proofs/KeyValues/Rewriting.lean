import MarkedSheet.KeyValues.Document
import MarkedSheet.Proofs.KeyValues.Reader
import MarkedSheet.Proofs.Text.Between

/-!
# Changing written lines

A change of texts that leaves the marks of the format alone, and brings no quotation mark into a run
between them, changes a written line as it changes what the line shows: the change of a quoted token
is the quoted change of the token (`ActsBetween.quote`). Dropping the carriage return before each
line feed is such a change, so a document in which no token has both is read like the document
before it (`tokens_document`).
-/

namespace MarkedSheet

namespace KeyValues

open Text (ActsBetween)

section Quotes

variable {fixed : Char → Bool} {f : Text → Text}

/-- The quotation mark and the backslash are fixed, and a run without fixed characters gets no
quotation mark. -/
structure KeepsQuotes (fixed : Char → Bool) (f : Text → Text) : Prop extends
    ActsBetween fixed f where
  quote : fixed '"'
  backslash : fixed '\\'
  run : ∀ t : Text, (∀ c ∈ t, fixed c = false) → '"' ∉ f t

theorem KeepsQuotes.escape (h : KeepsQuotes fixed f) (t : Text) :
    f (escape t) = escape (f t) := by
  have hplain : ∀ run : Text, (∀ c ∈ run, fixed c = false) →
      KeyValues.escape run = run ∧ KeyValues.escape (f run) = f run := by
    intro run hrun
    refine ⟨escape_of_not_mem fun hmem => ?_, escape_of_not_mem (h.run run hrun)⟩
    simpa [h.quote] using hrun '"' hmem
  induction t using Text.run_induction fixed with
  | hrun run hrun => rw [(hplain run hrun).1, (hplain run hrun).2]
  | hcons run c rest hrun hc ih =>
    rw [h.append hc, escape_append, escape_append, (hplain run hrun).1, (hplain run hrun).2]
    by_cases hmark : c = '"'
    · subst hmark
      have hescape : ∀ t, KeyValues.escape ('"' :: t) = '\\' :: '"' :: KeyValues.escape t :=
        fun _ => rfl
      rw [hescape, hescape, h.append h.backslash, h.cons h.quote, ih]
    · have hescape : ∀ t, KeyValues.escape (c :: t) = c :: KeyValues.escape t := fun t => by
        simp [KeyValues.escape, hmark]
      rw [hescape, hescape, h.append hc, ih]

/-- A quoted token is changed in its quotation marks. -/
theorem KeepsQuotes.quote_append (h : KeepsQuotes fixed f) (t rest : Text) :
    f (KeyValues.quote t ++ rest) = KeyValues.quote (f t) ++ f rest := by
  have hquote : ∀ t rest : Text,
      KeyValues.quote t ++ rest = '"' :: (KeyValues.escape t ++ '"' :: rest) := fun t rest => by
    simp [KeyValues.quote]
  rw [hquote, hquote, h.cons h.quote, h.append h.quote, h.escape]

end Quotes

/-- The text without the carriage returns that stand before a line feed. -/
def unixLines (t : Text) : Text :=
  Text.replaceAll ['\r', '\n'] ['\n'] t

/-- A carriage return stands before a line feed. -/
def HasCrLf (t : Text) : Prop :=
  Text.occursIn ['\r', '\n'] t

instance (t : Text) : Decidable (HasCrLf t) :=
  inferInstanceAs (Decidable (Text.occursIn ['\r', '\n'] t = true))

section Lines

theorem unixLines_of_not_hasCrLf {t : Text} (h : ¬ HasCrLf t) : unixLines t = t :=
  Text.replaceAll_of_not_occursIn (Bool.eq_false_iff.2 h) _

theorem keepsQuotes_unixLines : KeepsQuotes (fun c => !(['\r', '\n'].contains c)) unixLines where
  toActsBetween := Text.actsBetween_replaceAll (by simp) _ (by simp)
  quote := rfl
  backslash := rfl
  run := by
    intro t ht hmem
    rcases Text.mem_replaceAll (by simp) hmem with h | h
    · simpa using ht _ h
    · simp at h

/-- A line feed that nothing stands before stays. -/
theorem unixLines_newline (t : Text) : unixLines ('\n' :: t) = '\n' :: unixLines t := rfl

/-- Up to its line feed a text may lose a carriage return and nothing else. -/
theorem unixLines_line {s : Text} (hs : '\n' ∉ s) (rest : Text) :
    ∃ s', '\n' ∉ s' ∧ unixLines (s ++ '\n' :: rest) = s' ++ '\n' :: unixLines rest := by
  induction s with
  | nil => exact ⟨[], by simp, unixLines_newline rest⟩
  | cons c s ih =>
    simp only [List.mem_cons, not_or] at hs
    obtain ⟨s', hs', ih⟩ := ih hs.2
    by_cases h : c = '\r' ∧ s = []
    · obtain ⟨rfl, rfl⟩ := h
      exact ⟨[], by simp, rfl⟩
    · have hstay : ['\r', '\n'].isPrefixOf (c :: (s ++ '\n' :: rest)) = false := by
        rw [Bool.eq_false_iff]
        intro hstart
        rcases s with _ | ⟨d, s⟩
        · simp [List.isPrefixOf] at hstart
          exact h ⟨hstart.symm, rfl⟩
        · simp [List.isPrefixOf] at hstart
          simp only [List.mem_cons, not_or] at hs
          exact hs.2.1 hstart.2
      refine ⟨c :: s', by simp [hs.1, hs'], ?_⟩
      have hcons := Text.replaceFrom_cons hstay ['\n']
      rw [List.cons_append, List.cons_append, ← ih]
      exact hcons

theorem tokens_unixLines_comment {s : Text} (hs : '\n' ∉ s) (rest : Text) :
    tokens (unixLines ('/' :: '/' :: s ++ '\n' :: rest)) = tokens (unixLines rest) := by
  obtain ⟨s', hs', hline⟩ := unixLines_line hs rest
  rw [List.cons_append, List.cons_append, keepsQuotes_unixLines.cons rfl,
    keepsQuotes_unixLines.cons rfl, hline]
  exact tokens_comment hs' _

end Lines

section Documents

theorem headText_append (source sheet rest : Text) :
    headText source sheet ++ rest
      = '/' :: '/' :: " this file is auto-generated by sheetkv from".toList
        ++ '\n' :: ('/' :: '/' :: (' ' :: source ++ ' ' :: sheet)
        ++ '\n' :: ('/' :: '/' :: " edit the source workbook instead of this file".toList
        ++ '\n' :: rest)) := by
  have hfirst : "// this file is auto-generated by sheetkv from\n// ".toList
      = '/' :: '/' :: " this file is auto-generated by sheetkv from".toList
        ++ ['\n', '/', '/', ' '] := by simp
  have hlast : "\n// edit the source workbook instead of this file\n".toList
      = ['\n', '/', '/'] ++ " edit the source workbook instead of this file".toList
        ++ ['\n'] := by simp
  unfold headText
  rw [hfirst, hlast]
  -- The words of the head do not matter, and without them the rest is quickly compared.
  generalize " this file is auto-generated by sheetkv from".toList = first
  generalize " edit the source workbook instead of this file".toList = last
  simp

/-- The head of a document is read as nothing. -/
theorem tokens_document {source sheet : Text} (hsource : '\n' ∉ source) (hsheet : '\n' ∉ sheet)
    (root : Text) (lines : List Text) :
    tokens (document source sheet root lines)
      = tokens (unixLines (rootBlock root (bodyText lines))) := by
  have hmiddle : '\n' ∉ ' ' :: source ++ ' ' :: sheet := by simp [hsource, hsheet]
  change tokens (unixLines (headText source sheet ++ rootBlock root (bodyText lines))) = _
  rw [headText_append, tokens_unixLines_comment (by simp), tokens_unixLines_comment hmiddle,
    tokens_unixLines_comment (by simp)]

theorem join_newline_append {lines : List Text} (hlines : lines ≠ []) :
    Text.join ['\n'] lines ++ ['\n'] = lines.flatMap (· ++ ['\n']) := by
  induction lines with
  | nil => exact absurd rfl hlines
  | cons line rest ih =>
    cases rest with
    | nil => simp
    | cons next rest =>
      have ih := ih (by simp)
      rw [List.flatMap_cons, ← ih]
      simp [Text.join]

/-- Every line of a body that has something in it ends with a line feed. -/
theorem rootBlock_eq (root : Text) {lines : List Text} (hlines : ∀ line ∈ lines, line ≠ []) :
    rootBlock root (bodyText lines)
      = quote root ++ '\n' :: '{' :: '\n' :: (lines.flatMap (· ++ ['\n']) ++ ['}', '\n']) := by
  have hbody : (if (bodyText lines).isEmpty then [] else bodyText lines ++ ['\n'])
      = lines.flatMap (· ++ ['\n']) := by
    cases lines with
    | nil => rfl
    | cons line rest =>
      have hne : bodyText (line :: rest) ≠ [] := by
        have := hlines line List.mem_cons_self
        cases rest <;> simp [bodyText, Text.join, this]
      rw [if_neg (by simpa using hne)]
      exact join_newline_append (by simp)
  rw [rootBlock, hbody]
  simp

end Documents

end KeyValues

end MarkedSheet
