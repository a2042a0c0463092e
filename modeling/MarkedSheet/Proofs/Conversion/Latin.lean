import MarkedSheet.Proofs.Conversion.Sheets
import MarkedSheet.Proofs.Emission.Independence
import MarkedSheet.Proofs.Emission.WellNested
import MarkedSheet.Proofs.KeyValues.Reading
import MarkedSheet.Proofs.Pinyin.Dictionary

/-!
# Bodies in Latin letters

A body is transliterated line by line after its tokens are quoted. What is read from it afterwards
are the braces that were there before and each quoted token transliterated
(`transliterated_body_read`), if the aliases bring in no quotation mark, no backslash at the end of
a token and no line feed into a comment. Any of these breaks the body (`aliases_break_reading`).
-/

namespace MarkedSheet

open KeyValues (Token tokens EndsWithBackslash Quoted bodyText withoutEmpty quotedTexts
  commentTexts)

/-- The token with its text transliterated. -/
def Pinyin.Transliterator.convertToken (transliterator : Transliterator) (lexicon : Lexicon) :
    Token → Except ExcessSyllables Token
  | .quoted t => (transliterator.convert lexicon t).map .quoted
  | token => .ok token

namespace Sheet

open Logged

section Tokens

variable {transliterator : Pinyin.Transliterator} {lexicon : Pinyin.Lexicon} {f : Text → Text}

/-- A blank is no Chinese character. -/
theorem isHan_of_isBlankChar {c : Char} (h : isBlankChar c) : Pinyin.isHan c = false := by
  simp only [isBlankChar, Bool.or_eq_true, Bool.and_eq_true, decide_eq_true_eq] at h
  simp only [Pinyin.isHan, Bool.and_eq_false_iff, decide_eq_false_iff_not]
  omega

theorem keepsMarks_convert (h : Text.ActsBetween (fun c => !Pinyin.isHan c) f)
    (hmem : ∀ t, ∀ d ∈ f t, d ∈ t ∨ (∃ entry ∈ transliterator.aliases, d ∈ entry.2)
      ∨ Pinyin.isLatin d ∨ d = '_')
    (hmarks : ∀ entry ∈ transliterator.aliases, '"' ∉ entry.2) :
    KeyValues.KeepsMarks (fun c => !Pinyin.isHan c) f where
  toActsBetween := h
  quote := rfl
  backslash := rfl
  run := by
    intro t ht hmark
    rcases hmem t _ hmark with hmark | ⟨entry, hentry, hmark⟩ | hmark | hmark
    · exact absurd (ht _ hmark) (by decide)
    · exact hmarks entry hentry hmark
    · simp [Pinyin.isLatin] at hmark
    · simp at hmark
  opening := rfl
  closing := rfl
  slash := rfl
  blank c hc := by simp [isHan_of_isBlankChar hc]

theorem mapM_convertToken (hf : ∀ t, transliterator.convert lexicon t = .ok (f t)) :
    ∀ read : List Token, read.mapM (transliterator.convertToken lexicon)
      = .ok (read.map (Token.change f))
  | [] => rfl
  | token :: rest => by
    have htoken : transliterator.convertToken lexicon token = .ok (token.change f) := by
      cases token <;> simp [Pinyin.Transliterator.convertToken, Token.change, hf, Except.map]
    rw [List.mapM_cons, htoken, mapM_convertToken hf rest]
    rfl

theorem mapM_convert (hf : ∀ t, transliterator.convert lexicon t = .ok (f t)) (lines : List Text) :
    lines.mapM (transliterator.convert lexicon) = .ok (lines.map f) := by
  rw [funext hf]
  exact List.mapM_pure

end Tokens

section Bodies

variable {lexicon : Pinyin.Lexicon} {o : Options} {s : Sheet} {titles notes : Row}
  {rows : List Row} {f : Text → Text}

/-- Latin letters change the lines of a sheet and nothing else of what is written for it. -/
theorem convert_latin (hf : ∀ t, (transliterator o).convert lexicon t = .ok (f t))
    (htitles : s.titleRow = .ok titles) (hrows : s.dataRows = .ok rows)
    (hnotes : s.noteRow = .ok notes) {output : Output}
    (houtput : (convert lexicon { o with transliterate := false } s).result = .ok (some output))
    (hgeneral : output.simple = false) :
    ∃ lines, ((page o s (.ofTitles titles) rows notes).document o.indent 1).result = .ok lines
      ∧ output.text = KeyValues.document s.source output.sheetName output.rootName lines
      ∧ (convert lexicon { o with transliterate := true } s).result = .ok (some { output with
        text := KeyValues.document s.source output.sheetName output.rootName (lines.map f) }) := by
  rcases convert_cases lexicon o s with h | ⟨name, titles', rows', notes', ht, hr, hn, h⟩
  · exact absurd houtput ((h o.autoSimple false).2 output)
  obtain rfl : titles = titles' := Except.ok.inj (htitles.symm.trans ht)
  obtain rfl : rows = rows' := Except.ok.inj (hrows.symm.trans hr)
  obtain rfl : notes = notes' := Except.ok.inj (hnotes.symm.trans hn)
  generalize page o s (.ofTitles titles) rows notes = sheetPage at h ⊢
  have hmade := map_some_eq_ok.1 ((h o.autoSimple false).2.symm.trans houtput)
  obtain ⟨⟨bodyLines, root, found⟩, lines, hbody, hlines, rfl⟩ := (outputOf_result ..).1 hmade
  have hobject : ∀ latin, bodyOf (styled o o.autoSimple latin) name sheetPage
      = objectBody o name sheetPage := fun _ => if_neg (by simpa using hgeneral)
  obtain rfl : bodyLines = lines := Except.ok.inj hlines
  refine ⟨bodyLines, objectBody_lines _ _ _ (hobject false ▸ hbody), rfl, ?_⟩
  refine (h o.autoSimple true).2.trans (map_some_eq_ok.2 ((outputOf_result ..).2 ?_))
  refine ⟨⟨bodyLines, root, found⟩, bodyLines.map f, ?_, ?_, rfl⟩
  · rw [hobject true, ← hobject false]
    exact hbody
  · exact lift_result_eq_ok.2 (mapM_convert hf bodyLines)

end Bodies

/-- What is read from the body of a sheet in Latin letters are the braces of the body before and its
quoted tokens transliterated. -/
theorem transliterated_body_read {lexicon : Pinyin.Lexicon} (hlexicon : lexicon.IsPlain)
    {o : Options} (haliases : Pinyin.HanAliases o.aliases)
    (hmarks : ∀ entry ∈ o.aliases, '"' ∉ entry.2) (hindent : o.indent.isBlank) {s : Sheet}
    {titles notes : Row} {rows : List Row} (htitles : s.titleRow = .ok titles)
    (hrows : s.dataRows = .ok rows) (hnotes : s.noteRow = .ok notes)
    (hcells : ∀ row ∈ rows, ∀ cell ∈ row, ['{'].isPrefixOf (Cell.trimmed cell) = false)
    {ws : List Warning} {nodes : List KeyValues.Node}
    (hnodes : (page o s (.ofTitles titles) rows notes).documentNodes = ⟨ws, .ok nodes⟩)
    (hquoted : ∀ t ∈ quotedTexts (withoutEmpty nodes), ∀ t',
      (transliterator o).convert lexicon t = .ok t' → ¬ EndsWithBackslash t')
    (hcomments : ∀ t ∈ commentTexts (withoutEmpty nodes), ∀ t',
      (transliterator o).convert lexicon t = .ok t' → '\n' ∉ t')
    {output : Output}
    (houtput : (convert lexicon { o with transliterate := false } s).result = .ok (some output))
    (hgeneral : output.simple = false) :
    ∃ lines latin read latinRead,
      ((page o s (.ofTitles titles) rows notes).document o.indent 1).result = .ok lines
      ∧ lines.mapM ((transliterator o).convert lexicon) = .ok latin
      ∧ output.text = KeyValues.document s.source output.sheetName output.rootName lines
      ∧ (convert lexicon { o with transliterate := true } s).result = .ok (some { output with
        text := KeyValues.document s.source output.sheetName output.rootName latin })
      ∧ tokens (bodyText lines) = some read
      ∧ tokens (bodyText latin) = some latinRead
      ∧ read.mapM ((transliterator o).convertToken lexicon) = .ok latinRead := by
  obtain ⟨f, hf, hbetween, hmem⟩ := Pinyin.exists_convert hlexicon (transliterator o) haliases
  have hkeeps := keepsMarks_convert hbetween hmem hmarks
  obtain ⟨lines, hlines, htext, hlatin⟩ :=
    convert_latin hf htitles hrows hnotes houtput hgeneral
  have hquotedNodes : Quoted nodes := by
    obtain ⟨ws', nodes', hnodes', h⟩ :=
      ((page o s (.ofTitles titles) rows notes).forestLaw_quoted hcells).documentNodes.eq
    rw [hnodes] at hnodes'
    cases hnodes'
    exact h
  have halike : ∀ line ∈ lines, KeyValues.ReadsAlike f line := by
    have hdocument := Page.document_eq hnodes o.indent 1
    rw [hdocument] at hlines
    cases hlines
    exact fun line hline => KeyValues.readsAlike_linesOf hkeeps hindent 1
      (KeyValues.quoted_withoutEmpty hquotedNodes) (fun t ht => hquoted t ht (f t) (hf t))
      (fun t ht => hcomments t ht (f t) (hf t)) line
      (KeyValues.mem_collapse_linesOf hindent 1 hline)
  obtain ⟨read, hread, hlatinRead⟩ := KeyValues.tokens_bodyText_map halike
  exact ⟨lines, lines.map f, read, read.map (Token.change f), hlines, mapM_convert hf lines, htext,
    hlatin, hread, hlatinRead, mapM_convertToken hf read⟩

/-- An object with a name and two values. -/
def fireSheet : Sheet where
  name := ['s']
  rows := [[], ["#name", "id", "x", "y"].map fun t => some t.toList,
    ["火", "h", "火", "2"].map fun t => some t.toList]
  source := []
  headerOffset := 0

/-- Options with an alias for fire. -/
def fireOptions (exchange indent : Text) : Options :=
  { bareOptions with aliases := [(['火'], exchange)], indent := indent }

/-- A lexicon that knows one character. -/
def fireLexicon : Pinyin.Lexicon :=
  .byPhrases ⟨[], [('火', "huǒ".toList)]⟩

theorem fireLexicon_isPlain : fireLexicon.IsPlain :=
  Pinyin.Dictionary.isPlain ⟨by decide, by decide, by decide⟩

/-- What is read from the text that is written, if there is one. -/
def readBack (x : Logged (Option Output)) : Option (List Token) :=
  x.result.toOption.join.bind fun output => tokens output.text

/-- No quoted token ends with a backslash or has a line feed in it. -/
def areSound (read : List Token) : Bool :=
  read.all fun
    | .quoted t => !(EndsWithBackslash t || t.contains '\n')
    | _ => true

/-- The braces among tokens. -/
def braces (read : List Token) : List Token :=
  read.filter fun token => token = .opening || token = .closing

/-- What an alias stands for, and an indentation. -/
def breakingChoices : List (Text × Text) :=
  [(['"'], ['\t']), (['\\'], ['\t']), (['\n', '{'], ['\t']), (['{'], ['火'])]

/-- An alias with a quotation mark, one that ends with a backslash, one that brings a line feed into
a comment and one that brings a brace into the indentation: each changes the braces of a sheet whose
tokens are sound. -/
theorem aliases_break_reading :
    (∀ row ∈ fireSheet.rows, ∀ cell ∈ row, ['{'].isPrefixOf (Cell.trimmed cell) = false)
      ∧ fireLexicon.IsPlain
      ∧ ∀ choice ∈ breakingChoices,
        Pinyin.HanAliases (fireOptions choice.1 choice.2).aliases
        ∧ (readBack (convert fireLexicon
            { fireOptions choice.1 choice.2 with transliterate := false } fireSheet)).any areSound
        ∧ (readBack (convert fireLexicon
            { fireOptions choice.1 choice.2 with transliterate := false } fireSheet)).map braces
          ≠ (readBack (convert fireLexicon
            { fireOptions choice.1 choice.2 with transliterate := true } fireSheet)).map braces :=
  ⟨by decide, fireLexicon_isPlain, by decide +kernel⟩

/-- An alias with marks of the format in it. -/
def markedOptions : Options :=
  fireOptions ['{', '\\', '/'] ['\t']

/-- The page of the sheet. -/
def firePage : Page :=
  page markedOptions fireSheet (.ofTitles (["#name", "id", "x", "y"].map fun t => some t.toList))
    [["火", "h", "火", "2"].map fun t => some t.toList] [none, none, none, none]

/-- The forest of the sheet. -/
def fireNodes : List KeyValues.Node :=
  [.comment ['火'], .container ['h'] [.pair ⟨0, 2⟩ ['x'] ['火'], .pair ⟨0, 3⟩ ['y'] ['2']]]

theorem firePage_documentNodes : firePage.documentNodes = ⟨[], .ok fireNodes⟩ := by
  have houtline : outline firePage.schema.kinds 2 4 = [.plain 2, .plain 3] :=
    Laid.outline_eq (.plain (by decide) rfl (.plain (by decide) rfl (.done (by decide))))
  have hgroups : firePage.documentNodes
      = Reported.collect (firePage.objectNodes 1) [⟨some ['h'], 0, 1⟩] := rfl
  have hwidth : firePage.schema.width = 4 := rfl
  rw [hgroups]
  simp only [Reported.collect, Page.objectNodes, hwidth, Page.blockNodes, houtline]
  rfl

theorem ok_of_toOption {ε α : Type} {x : Except ε α} {a : α} (h : x.toOption = some a) :
    x = .ok a := by
  cases x with
  | error e => cases h
  | ok b => exact congrArg Except.ok (Option.some.inj h)

/-- The lines of the sheet. -/
def fireLines : List Text :=
  ["\t// 火", "\t\"h\" \x7b", "\t\t\"x\" \"火\"", "\t\t\"y\" \"2\"", "\t\x7d"].map String.toList

/-- Between quotation marks and in comments the marks of the format do no harm. -/
theorem fireSheet_read :
    fireLexicon.IsPlain ∧ Pinyin.HanAliases markedOptions.aliases
      ∧ (∀ entry ∈ markedOptions.aliases, '"' ∉ entry.2)
      ∧ ∃ latin, fireLines.mapM ((transliterator markedOptions).convert fireLexicon) = .ok latin
        ∧ tokens (bodyText latin) = some [.quoted ['h'], .opening, .quoted ['x'],
          .quoted ['{', '\\', '/'], .quoted ['y'], .quoted ['2'], .closing] := by
  have haliases : Pinyin.HanAliases markedOptions.aliases := by decide
  have hmarks : ∀ entry ∈ markedOptions.aliases, '"' ∉ entry.2 := by decide
  have hconverted : ∀ t ∈ [['火'], ['h'], ['x'], ['火'], ['y'], ['2']], ∀ t',
      (transliterator markedOptions).convert fireLexicon t = .ok t' →
        ¬ EndsWithBackslash t' ∧ '\n' ∉ t' := by
    have hall : ∀ t ∈ [['火'], ['h'], ['x'], ['火'], ['y'], ['2']],
        ∀ t' ∈ ((transliterator markedOptions).convert fireLexicon t).toOption,
          ¬ EndsWithBackslash t' ∧ '\n' ∉ t' := by decide +kernel
    intro t ht t' h
    exact hall t ht t' (by rw [h]; rfl)
  obtain ⟨output, houtput, hgeneral⟩ : ∃ output,
      (convert fireLexicon { markedOptions with transliterate := false } fireSheet).result
        = .ok (some output) ∧ output.simple = false := by
    have hany : (convert fireLexicon { markedOptions with transliterate := false }
      fireSheet).result.toOption.join.any (fun output => !output.simple) = true := by decide +kernel
    obtain ⟨output, hoption, hsimple⟩ := (Option.any_eq_true _ _).1 hany
    exact ⟨output, ok_of_toOption (Option.join_eq_some_iff.1 hoption), by simpa using hsimple⟩
  obtain ⟨lines, latin, read, latinRead, hlines, hlatin, -, -, hread, hlatinRead, hmap⟩ :=
    transliterated_body_read fireLexicon_isPlain haliases hmarks (by decide) (s := fireSheet) rfl
      rfl rfl (by decide) firePage_documentNodes
      (fun t ht t' h => (hconverted t (List.mem_cons_of_mem _ ht) t' h).1)
      (fun t ht t' h => (hconverted t (List.mem_singleton.1 ht ▸ List.mem_cons_self) t' h).2)
      houtput hgeneral
  have hdocument := Page.document_eq firePage_documentNodes markedOptions.indent 1
  obtain rfl : lines = fireLines := by
    have hcollapse : KeyValues.collapse (KeyValues.linesOf markedOptions.indent 1 fireNodes)
        = fireLines := by decide +kernel
    exact (Except.ok.inj (hlines.symm.trans (congrArg Reported.result hdocument))).trans hcollapse
  obtain rfl : [.quoted ['h'], .opening, .quoted ['x'], .quoted ['火'], .quoted ['y'],
      .quoted ['2'], .closing] = read := by
    have : tokens (bodyText fireLines) = some [.quoted ['h'], .opening, .quoted ['x'],
        .quoted ['火'], .quoted ['y'], .quoted ['2'], .closing] := by decide +kernel
    exact Option.some.inj (this.symm.trans hread)
  have hmapped : ([.quoted ['h'], .opening, .quoted ['x'], .quoted ['火'], .quoted ['y'],
      .quoted ['2'], .closing].mapM
        ((transliterator markedOptions).convertToken fireLexicon)).toOption
      = some [.quoted ['h'], .opening, .quoted ['x'], .quoted ['{', '\\', '/'], .quoted ['y'],
        .quoted ['2'], .closing] := by decide +kernel
  refine ⟨fireLexicon_isPlain, haliases, hmarks, latin, hlatin, ?_⟩
  rw [hlatinRead, ← Except.ok.inj ((ok_of_toOption hmapped).symm.trans hmap)]

end Sheet

end MarkedSheet
