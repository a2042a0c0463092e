import MarkedSheet.Mapping
import MarkedSheet.Pinyin.Tone
import MarkedSheet.Text.Blank

/-!
# Dictionaries

A dictionary has the readings of single characters and the syllables of phrases. What is added takes
the place of what was there before. A run of characters can be read by cutting it into phrases from
left to right: at each place the characters are read on as long as some phrase begins with them, and
the longest phrase passed is taken; `flatten_segments` says that nothing is lost.
-/

namespace MarkedSheet

namespace Pinyin

/-- What is known of the pronunciation of Chinese. -/
structure Dictionary where
  /-- Phrases with their syllables. -/
  phrases : Mapping Text (List Text)
  /-- Characters with their readings, separated by commas. -/
  readings : Mapping Char Text
  deriving DecidableEq, Repr

/-- A phrase has more syllables than characters. -/
structure ExcessSyllables where
  phrase : Text
  deriving DecidableEq, Repr

/-- The description of the error. -/
def ExcessSyllables.message (_ : ExcessSyllables) : String :=
  "string index out of range"

namespace Dictionary

/-- Adds the reading of a single character or of a phrase. -/
def add (d : Dictionary) (word reading : Text) : Dictionary :=
  match word with
  | [c] => { d with readings := d.readings.set c (Text.join [','] reading.words) }
  | _ => { d with phrases := d.phrases.set word reading.words }

/-- Adds readings one after another. -/
def addAll (d : Dictionary) (readings : Mapping Text Text) : Dictionary :=
  readings.foldl (fun d (word, reading) => d.add word reading) d

/-- The syllables of a phrase. -/
def phrase? (d : Dictionary) (word : Text) : Option (List Text) :=
  d.phrases.get? word

/-- Some phrase begins with the text. -/
def beginsPhrase (d : Dictionary) (t : Text) : Bool :=
  d.phrases.any fun (word, _) => t.isPrefixOf word

/-- The first reading of a character; a character without one reads as itself. -/
def reading (d : Dictionary) (c : Char) : Text :=
  match d.readings.get? c with
  | some readings => readings.takeWhile (· != ',')
  | none => [c]

/-- The end of the longest phrase found while phrases begin with the characters read. -/
structure Found where
  /-- How many characters the phrase has after the first, if one was found. -/
  after? : Option Nat
  /-- Phrases begin with the whole text. -/
  toEnd : Bool
  deriving DecidableEq, Repr

/-- Reads on after the characters `read`. -/
def find (d : Dictionary) (read : Text) (best : Option Nat) : Text → Found
  | [] => ⟨best, true⟩
  | c :: rest =>
    let word := read ++ [c]
    if d.beginsPhrase word then
      find d word (if (d.phrase? word).isSome then some read.length else best) rest
    else ⟨best, false⟩

/-- A text cut into phrases and single characters. Where phrases begin with all that is left, but
none is passed, the rest is cut into single characters. -/
def segments (d : Dictionary) : Text → List Text
  | [] => []
  | c :: rest =>
    match d.find [] none (c :: rest) with
    | ⟨some n, _⟩ => (c :: rest.take n) :: segments d (rest.drop n)
    | ⟨none, false⟩ => [c] :: segments d rest
    | ⟨none, true⟩ => [c] :: rest.map fun c => [c]
termination_by t => t.length

/-- The syllables of a segment, without tones. -/
def pronounce (d : Dictionary) (segment : Text) : Except ExcessSyllables (List Text) :=
  match d.phrase? segment with
  | some syllables =>
    if segment.length < syllables.length then .error ⟨segment⟩
    else .ok (syllables.map withoutTone)
  | none => .ok (segment.map fun c => withoutTone (d.reading c))

/-- The syllables of a run of characters, without tones. -/
def read (d : Dictionary) (run : Text) : Except ExcessSyllables (List Text) :=
  ((d.segments run).mapM d.pronounce).map List.flatten

theorem flatten_singles (t : Text) : (t.map fun c => [c]).flatten = t := by
  induction t <;> simp_all

theorem flatten_segments (d : Dictionary) (t : Text) : (d.segments t).flatten = t := by
  fun_induction segments d t with
  | case1 => rfl
  | case2 c rest n _ _ ih => simp [ih]
  | case3 c rest _ ih => simp [ih]
  | case4 c rest _ => simp [flatten_singles]

end Dictionary

end Pinyin

end MarkedSheet
