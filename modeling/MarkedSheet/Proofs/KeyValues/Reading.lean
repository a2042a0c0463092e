import MarkedSheet.Proofs.KeyValues.Deletion
import MarkedSheet.Proofs.KeyValues.Rewriting

/-!
# Reading changed lines

The lines of a forest are read one by one, and so are the lines that a change of texts makes of them
(`ReadsAlike`): the braces stay, and every quoted token is changed as a whole. The change may bring
neither a backslash to the end of a token nor a line feed into a comment. What the collapse pass
leaves are lines of the forest without its empty containers (`mem_collapse_linesOf`), so only the
texts of that forest matter.
-/

namespace MarkedSheet

namespace KeyValues

open Text (ActsBetween)

/-- Whatever follows, the text is read as the tokens. -/
def Reads (t : Text) (read : List Token) : Prop :=
  ∀ rest, tokens (t ++ rest) = (tokens rest).map (read ++ ·)

section Reads

variable {s t : Text} {read more : List Token}

theorem reads_nil : Reads [] [] := fun rest => by simp

theorem Reads.append (hs : Reads s read) (ht : Reads t more) : Reads (s ++ t) (read ++ more) := by
  intro rest
  rw [List.append_assoc, hs, ht, Option.map_map]
  congr 1
  funext read'
  exact (List.append_assoc ..).symm

theorem Reads.tokens_eq (h : Reads t read) : tokens t = some read := by
  have := h []
  rw [List.append_nil] at this
  simpa using this

theorem reads_blanks (h : s.isBlank) : Reads s [] := fun rest => by
  rw [tokens_blanks h]
  simp

theorem reads_opening : Reads ['{'] [.opening] := tokens_opening

theorem reads_closing : Reads ['}'] [.closing] := tokens_closing

theorem reads_quote (h : ¬ EndsWithBackslash t) : Reads (quote t) [.quoted t] := tokens_quote h

theorem reads_comment (h : '\n' ∉ t) : Reads (commentText t ++ ['\n']) [] := fun rest => by
  have hspace : '\n' ∉ ' ' :: t := by simp [h]
  have hline : commentText t ++ ['\n'] ++ rest = '/' :: '/' :: (' ' :: t) ++ '\n' :: rest := by
    simp [commentText]
  rw [hline, tokens_comment hspace]
  simp

/-- A line feed at the end makes no difference. -/
theorem tokensFrom_concat_newline (t : Text) : ∀ mode, tokensFrom mode (t ++ ['\n'])
    = tokensFrom mode t := by
  induction t with
  | nil =>
    intro mode
    cases mode with
    | outside word => simp [tokensFrom, Mode.step, isBlankChar, wordTokens]
    | comment => rfl
    | quoted content => rfl
  | cons c t ih =>
    intro mode
    rw [List.cons_append, tokensFrom_cons, tokensFrom_cons, ih]

end Reads

/-- The token with its text changed. -/
def Token.change (f : Text → Text) : Token → Token
  | .quoted t => .quoted (f t)
  | token => token

/-- The line is read on its own, and what the change makes of it is read as its tokens changed. -/
def ReadsAlike (f : Text → Text) (line : Text) : Prop :=
  ∃ read, Reads (line ++ ['\n']) read ∧ Reads (f line ++ ['\n']) (read.map (Token.change f))

section Bodies

variable {f : Text → Text}

theorem reads_lines : ∀ {lines : List Text}, (∀ line ∈ lines, ReadsAlike f line) →
    ∃ read, Reads (lines.flatMap (· ++ ['\n'])) read
      ∧ Reads ((lines.map f).flatMap (· ++ ['\n'])) (read.map (Token.change f))
  | [], _ => ⟨[], reads_nil, reads_nil⟩
  | line :: lines, h => by
    obtain ⟨read, hline, hchanged⟩ := h line List.mem_cons_self
    obtain ⟨more, hlines, hmore⟩ := reads_lines fun other hother =>
      h other (List.mem_cons_of_mem line hother)
    refine ⟨read ++ more, ?_, ?_⟩
    · rw [List.flatMap_cons]
      exact hline.append hlines
    · rw [List.map_cons, List.flatMap_cons, List.map_append]
      exact hchanged.append hmore

theorem tokens_bodyText {lines : List Text} {read : List Token}
    (h : Reads (lines.flatMap (· ++ ['\n'])) read) : tokens (bodyText lines) = some read := by
  by_cases hlines : lines = []
  · subst hlines
    exact h.tokens_eq
  · rw [← h.tokens_eq, ← join_newline_append hlines]
    exact (tokensFrom_concat_newline _ _).symm

/-- Lines that are read one by one are read as a body. -/
theorem tokens_bodyText_map {lines : List Text} (h : ∀ line ∈ lines, ReadsAlike f line) :
    ∃ read, tokens (bodyText lines) = some read
      ∧ tokens (bodyText (lines.map f)) = some (read.map (Token.change f)) := by
  obtain ⟨read, hread, hchanged⟩ := reads_lines h
  exact ⟨read, tokens_bodyText hread, tokens_bodyText hchanged⟩

end Bodies

mutual

/-- The texts of a node that are written in quotation marks, if no value is nested text. -/
def Node.quotedTexts : Node → List Text
  | .comment _ => []
  | .pair _ key value => [key, value]
  | .container name children => name :: quotedTexts children

/-- The texts of a forest that are written in quotation marks, if no value is nested text. -/
def quotedTexts : List Node → List Text
  | [] => []
  | node :: rest => node.quotedTexts ++ quotedTexts rest

end

mutual

/-- The comments of a node. -/
def Node.commentTexts : Node → List Text
  | .comment content => [content]
  | .pair .. => []
  | .container _ children => commentTexts children

/-- The comments of a forest. -/
def commentTexts : List Node → List Text
  | [] => []
  | node :: rest => node.commentTexts ++ commentTexts rest

end

/-- A change that keeps quotes and leaves blanks, braces and slashes alone. -/
structure KeepsMarks (fixed : Char → Bool) (f : Text → Text) : Prop extends
    KeepsQuotes fixed f where
  opening : fixed '{'
  closing : fixed '}'
  slash : fixed '/'
  blank : ∀ c, isBlankChar c → fixed c

section Lines

variable {fixed : Char → Bool} {f : Text → Text} (h : KeepsMarks fixed f)

include h

theorem KeepsMarks.not_endsWithBackslash {t : Text} (ht : ¬ EndsWithBackslash (f t)) :
    ¬ EndsWithBackslash t := by
  intro hend
  obtain ⟨init, rfl⟩ := List.getLast?_eq_some_iff.1 hend
  rw [h.append h.backslash, h.nil] at ht
  simp [EndsWithBackslash] at ht

theorem KeepsMarks.newline_not_mem {t : Text} (ht : '\n' ∉ f t) : '\n' ∉ t := by
  intro hmem
  obtain ⟨s, rest, rfl⟩ := List.append_of_mem hmem
  rw [h.append (h.blank '\n' rfl)] at ht
  simp at ht

theorem KeepsMarks.openText (name : Text) : f (openText name) = KeyValues.openText (f name) := by
  rw [KeyValues.openText, h.quote_append, h.cons (h.blank ' ' rfl), h.cons h.opening, h.nil]
  rfl

theorem KeepsMarks.closeText : f closeText = KeyValues.closeText := by
  rw [KeyValues.closeText, h.cons h.closing, h.nil]

theorem KeepsMarks.commentText (content : Text) :
    f (commentText content) = KeyValues.commentText (f content) := by
  rw [KeyValues.commentText, h.cons h.slash, h.cons h.slash, h.cons (h.blank ' ' rfl)]
  rfl

theorem KeepsMarks.quotedPair (key value : Text) :
    f (quote key ++ ' ' :: quote value) = quote (f key) ++ ' ' :: quote (f value) := by
  have hvalue := h.quote_append value []
  rw [List.append_nil, h.nil, List.append_nil] at hvalue
  rw [h.quote_append, h.cons (h.blank ' ' rfl), hvalue]

variable {unit : Text} (hunit : unit.isBlank) (depth : Int)

include hunit

/-- Indentation is neither changed nor read. -/
theorem KeepsMarks.readsAlike_indented {t : Text} {read : List Token}
    (ht : Reads (t ++ ['\n']) read) (hchanged : Reads (f t ++ ['\n']) (read.map (Token.change f))) :
    ReadsAlike f (indentation unit depth ++ t) := by
  have hblank := isBlank_indentation hunit depth
  have hfixed : ∀ c ∈ indentation unit depth, fixed c := fun c hc =>
    h.blank c (List.all_eq_true.1 hblank c hc)
  refine ⟨read, ?_, ?_⟩
  · rw [List.append_assoc]
    exact (reads_blanks hblank).append ht
  · rw [h.append_left hfixed, List.append_assoc]
    exact (reads_blanks hblank).append hchanged

theorem KeepsMarks.readsAlike_comment {content : Text} (hcontent : '\n' ∉ f content) :
    ReadsAlike f (indentation unit depth ++ KeyValues.commentText content) := by
  refine h.readsAlike_indented hunit depth (reads_comment (h.newline_not_mem hcontent)) ?_
  rw [h.commentText]
  exact reads_comment hcontent

theorem KeepsMarks.readsAlike_pair {key value : Text} (hvalue : isNestedText value = false)
    (hkey : ¬ EndsWithBackslash (f key)) (hend : ¬ EndsWithBackslash (f value)) :
    ReadsAlike f (indentation unit depth ++ pairText key value) := by
  have hreads : ∀ {k v : Text}, ¬ EndsWithBackslash k → ¬ EndsWithBackslash v →
      Reads ((quote k ++ ' ' :: quote v) ++ ['\n']) [.quoted k, .quoted v] := by
    intro k v hk hv
    have hline : (quote k ++ ' ' :: quote v) ++ ['\n']
        = quote k ++ ([' '] ++ (quote v ++ ['\n'])) := by
      simp
    rw [hline]
    exact (reads_quote hk).append
      ((reads_blanks rfl).append ((reads_quote hv).append (reads_blanks rfl)))
  have hpair : pairText key value = quote key ++ ' ' :: quote value := by simp [pairText, hvalue]
  rw [hpair]
  refine h.readsAlike_indented hunit depth
    (hreads (h.not_endsWithBackslash hkey) (h.not_endsWithBackslash hend)) ?_
  rw [h.quotedPair]
  exact hreads hkey hend

theorem KeepsMarks.readsAlike_open {name : Text} (hname : ¬ EndsWithBackslash (f name)) :
    ReadsAlike f (indentation unit depth ++ KeyValues.openText name) := by
  have hreads : ∀ {n : Text}, ¬ EndsWithBackslash n →
      Reads (KeyValues.openText n ++ ['\n']) [.quoted n, .opening] := by
    intro n hn
    have hline : KeyValues.openText n ++ ['\n'] = quote n ++ ([' '] ++ (['{'] ++ ['\n'])) := by
      simp [KeyValues.openText]
    rw [hline]
    exact (reads_quote hn).append
      ((reads_blanks rfl).append (reads_opening.append (reads_blanks rfl)))
  refine h.readsAlike_indented hunit depth (hreads (h.not_endsWithBackslash hname)) ?_
  rw [h.openText]
  exact hreads hname

theorem KeepsMarks.readsAlike_close :
    ReadsAlike f (indentation unit depth ++ KeyValues.closeText) := by
  have hreads : Reads (KeyValues.closeText ++ ['\n']) [.closing] :=
    reads_closing.append (reads_blanks (s := ['\n']) rfl)
  refine h.readsAlike_indented hunit depth hreads ?_
  rw [h.closeText]
  exact hreads

end Lines

mutual

theorem Node.readsAlike_lines {fixed : Char → Bool} {f : Text → Text} (h : KeepsMarks fixed f)
    {unit : Text} (hunit : unit.isBlank) (depth : Int) : ∀ {node : Node}, node.Quoted →
      (∀ t ∈ node.quotedTexts, ¬ EndsWithBackslash (f t)) →
      (∀ t ∈ node.commentTexts, '\n' ∉ f t) →
      ∀ line ∈ node.lines unit depth, ReadsAlike f line
  | .comment content, _, _, hcomments => by
    rw [Node.lines, List.forall_mem_singleton]
    exact h.readsAlike_comment hunit depth (hcomments content List.mem_cons_self)
  | .pair _ key value, hvalue, hclosed, _ => by
    rw [Node.lines, List.forall_mem_singleton]
    exact h.readsAlike_pair hunit depth hvalue (hclosed key (by simp [Node.quotedTexts]))
      (hclosed value (by simp [Node.quotedTexts]))
  | .container name children, hquoted, hclosed, hcomments => by
    have hchildren := readsAlike_linesOf h hunit (depth + 1) hquoted
      (fun t ht => hclosed t (List.mem_cons_of_mem name ht)) hcomments
    intro line hline
    rw [Node.lines, List.mem_append, List.mem_cons, List.mem_singleton] at hline
    rcases hline with (rfl | hline) | rfl
    · exact h.readsAlike_open hunit depth (hclosed name List.mem_cons_self)
    · exact hchildren line hline
    · exact h.readsAlike_close hunit depth

/-- The lines of a forest are read alike, if no changed token ends with a backslash and no changed
comment has a line feed in it. -/
theorem readsAlike_linesOf {fixed : Char → Bool} {f : Text → Text} (h : KeepsMarks fixed f)
    {unit : Text} (hunit : unit.isBlank) (depth : Int) : ∀ {nodes : List Node}, Quoted nodes →
      (∀ t ∈ quotedTexts nodes, ¬ EndsWithBackslash (f t)) →
      (∀ t ∈ commentTexts nodes, '\n' ∉ f t) →
      ∀ line ∈ linesOf unit depth nodes, ReadsAlike f line
  | [], _, _, _ => by simp [linesOf]
  | node :: rest, hquoted, hclosed, hcomments => by
    have hnode := Node.readsAlike_lines h hunit depth hquoted.1
      (fun t ht => hclosed t (List.mem_append_left _ ht))
      (fun t ht => hcomments t (List.mem_append_left _ ht))
    have hrest := readsAlike_linesOf h hunit depth hquoted.2
      (fun t ht => hclosed t (List.mem_append_right _ ht))
      (fun t ht => hcomments t (List.mem_append_right _ ht))
    intro line hline
    rw [linesOf, List.mem_append] at hline
    exact hline.elim (hnode line) (hrest line)

end

end KeyValues

end MarkedSheet
