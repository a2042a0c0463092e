import MarkedSheet.Pinyin.Dictionary

/-!
# Lexicons

How Chinese is read is not for this program to say: a lexicon has a dictionary, to which readings
can be added, and a way to read runs of Chinese characters by any dictionary. What other parts need
of a lexicon are properties of what its runs are read as. The program itself reads by phrases
(`Lexicon.byPhrases`).
-/

namespace MarkedSheet

namespace Pinyin

/-- A dictionary, and how runs of Chinese characters are read. -/
structure Lexicon where
  dictionary : Dictionary
  /-- The syllables of a run by a dictionary, without tones. -/
  read (d : Dictionary) (run : Text) : Except ExcessSyllables (List Text)

namespace Lexicon

/-- The lexicon that reads by the phrases of its dictionary. -/
def byPhrases (d : Dictionary) : Lexicon where
  dictionary := d
  read := Dictionary.read

/-- Adds readings one after another. -/
def addAll (lexicon : Lexicon) (readings : Mapping Text Text) : Lexicon :=
  { lexicon with dictionary := lexicon.dictionary.addAll readings }

/-- The syllables of a run of Chinese characters, without tones. -/
def syllables (lexicon : Lexicon) (run : Text) : Except ExcessSyllables (List Text) :=
  lexicon.read lexicon.dictionary run

end Lexicon

end Pinyin

end MarkedSheet
