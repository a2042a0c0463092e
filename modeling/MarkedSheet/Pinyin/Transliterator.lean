import MarkedSheet.Pinyin.Lexicon

/-!
# Transliteration

Aliases are exchanged first, the longest first; then every run of Chinese characters becomes its
syllables, joined by low lines and with the letter v for the rounded u. All other characters stay.
-/

namespace MarkedSheet

namespace Pinyin

/-- A character of the unified ideographs that are transliterated. -/
def isHan (c : Char) : Bool :=
  0x4E00 ≤ c.toNat && c.toNat ≤ 0x9FA5

/-- Chinese characters occur in the text. -/
def containsHan (t : Text) : Bool :=
  t.any isHan

/-- The letter v for the rounded u. -/
def plainVowel (c : Char) : Char :=
  if c = 'ü' then 'v' else c

/-- A run of Chinese characters in Latin letters. -/
def romanizeRun (lexicon : Lexicon) (run : Text) : Except ExcessSyllables Text :=
  if run.isEmpty then .ok []
  else (lexicon.syllables run).map fun syllables => (Text.join ['_'] syllables).map plainVowel

/-- The text in Latin letters, after a run of Chinese characters that came before it. -/
def romanizeFrom (lexicon : Lexicon) (run : Text) : Text → Except ExcessSyllables Text
  | [] => romanizeRun lexicon run
  | c :: rest =>
    if isHan c then romanizeFrom lexicon (run ++ [c]) rest
    else do
      let first ← romanizeRun lexicon run
      let others ← romanizeFrom lexicon [] rest
      return first ++ c :: others

/-- The text with its runs of Chinese characters in Latin letters. -/
def romanize (lexicon : Lexicon) (t : Text) : Except ExcessSyllables Text :=
  romanizeFrom lexicon [] t

/-- Transliterates texts by aliases and a lexicon. -/
structure Transliterator where
  aliases : Mapping Text Text
  deriving DecidableEq, Repr

namespace Transliterator

/-- The aliases, longer ones first; those of one length stay in their order. -/
def ordered (transliterator : Transliterator) : Mapping Text Text :=
  transliterator.aliases.mergeSort fun a b => b.1.length ≤ a.1.length

/-- The text with every alias exchanged, one alias after another. -/
def exchange (transliterator : Transliterator) (t : Text) : Text :=
  transliterator.ordered.foldl (fun t (old, new) => Text.replaceAll old new t) t

/-- The text transliterated. -/
def convert (transliterator : Transliterator) (lexicon : Lexicon) (t : Text) :
    Except ExcessSyllables Text :=
  if t.isEmpty then .ok [] else romanize lexicon (transliterator.exchange t)

end Transliterator

end Pinyin

end MarkedSheet
