import MarkedSheet.Text.Digit

/-!
# Tones

A syllable tells its tone by a mark on a vowel or by a number. Without its tone it has the bare
vowels, where the rounded u is written as a v, and no digits.
-/

namespace MarkedSheet

namespace Pinyin

/-- A letter with the letters that are it with a tone mark. -/
def markedLetters : List (Char × List Char) := [
  ('a', ['ā', 'á', 'ǎ', 'à']), ('e', ['ē', 'é', 'ě', 'è']), ('o', ['ō', 'ó', 'ǒ', 'ò']),
  ('i', ['ī', 'í', 'ǐ', 'ì']), ('u', ['ū', 'ú', 'ǔ', 'ù']), ('v', ['ü', 'ǖ', 'ǘ', 'ǚ', 'ǜ']),
  ('n', ['ń', 'ň', 'ǹ']), ('m', ['ḿ']), ('ê', ['ế', 'ề'])]

/-- The letter without its tone mark. -/
def bareLetter (c : Char) : Char :=
  match markedLetters.find? fun (_, marked) => marked.contains c with
  | some (bare, _) => bare
  | none => c

/-- The mark that follows the letter is a tone mark of its own: a macron or a grave on m, a macron
or a caron on ê. -/
def isToneAfter (letter mark : Char) : Bool :=
  (letter = 'm' && (mark = '\u0304' || mark = '\u0300'))
    || (letter = 'ê' && (mark = '\u0304' || mark = '\u030C'))

/-- The text without the tone marks that are characters of their own. -/
def dropFollowingMarks : Text → Text
  | letter :: mark :: rest =>
    if isToneAfter letter mark then letter :: dropFollowingMarks rest
    else letter :: dropFollowingMarks (mark :: rest)
  | t => t

/-- The syllable without its tone. -/
def withoutTone (syllable : Text) : Text :=
  (dropFollowingMarks (syllable.map bareLetter)).filter fun c => !isDigitChar c

end Pinyin

end MarkedSheet
