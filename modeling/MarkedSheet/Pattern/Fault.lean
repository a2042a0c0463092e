import MarkedSheet.Pattern.Basic
import MarkedSheet.Text.Literal
import MarkedSheet.Text.Position

/-!
# Faults of patterns

What is wrong with a text that should be a pattern, and where, as far as there is one place for it.
Most faults make the text invalid. Of the others, two are of numbers that the program has no room
for and are not told.
-/

namespace MarkedSheet

/-- What is wrong with a text that should be a pattern. -/
inductive PatternFault
  | groupUnended
  | commentUnended
  | setUnended
  | nothingToRepeat
  | repeatedTwice
  | unbalancedClose
  | backslashAtEnd
  | leastAboveMost
  | rangeReversed (first last : Text)
  | badEscape (escape : Text)
  | incompleteEscape (escape : Text)
  | octalTooLarge (escape : Text)
  /-- No name of a character follows. -/
  | braceMissing
  | unknownCharacter (name : Text)
  /-- The name of a character or of a group is empty. -/
  | nameMissing (ofCharacter : Bool)
  | nameUnended (closing : Char)
  | badName (name : Text)
  | unknownName (name : Text)
  | nameTaken (name : Text) (n before : Nat)
  /-- A group is asked for inside itself. -/
  | groupOpen
  /-- A group is asked for that is looked for behind as well. -/
  | groupBehind
  | unknownGroup (n : Nat)
  | groupZero
  | tooManyBranches
  | unknownExtension (extension : Text)
  | extensionMissing
  | localeFlag
  | typesTogether
  | unknownFlag
  | flagUnended
  | flagMissing
  | flagsUnended
  | wholeFlagSet
  | wholeFlagUnset
  | typeUnset
  | flagTwice
  | flagNotAtStart
  | behindTooFar
  /-- What is looked for behind may be longer or shorter. -/
  | behindNotFixed
  /-- A repetition where there are none. -/
  | repeatedTemplate (mode : RepeatMode)
  | asciiAndUnicode
  /-- A number has too many digits. -/
  | tooManyDigits (n : Nat)
  /-- A number of repetitions is beyond all limits. -/
  | tooManyRepetitions
  /-- The number of a character is beyond all limits. -/
  | codeTooLarge
  deriving DecidableEq, Repr

/-- How a repetition is called. -/
def RepeatMode.label : RepeatMode → String
  | greedy => "MAX_REPEAT"
  | lazy => "MIN_REPEAT"
  | possessive => "POSSESSIVE_REPEAT"

namespace PatternFault

/-- The description of a fault. -/
def message : PatternFault → String
  | groupUnended => "missing ), unterminated subpattern"
  | commentUnended => "missing ), unterminated comment"
  | setUnended => "unterminated character set"
  | nothingToRepeat => "nothing to repeat"
  | repeatedTwice => "multiple repeat"
  | unbalancedClose => "unbalanced parenthesis"
  | backslashAtEnd => "bad escape (end of pattern)"
  | leastAboveMost => "min repeat greater than max repeat"
  | rangeReversed first last =>
    s!"bad character range {String.ofList first}-{String.ofList last}"
  | badEscape escape => s!"bad escape {String.ofList escape}"
  | incompleteEscape escape => s!"incomplete escape {String.ofList escape}"
  | octalTooLarge escape =>
    s!"octal escape value {String.ofList escape} outside of range 0-0o377"
  | braceMissing => "missing \x7b"
  | unknownCharacter name => s!"undefined character name {String.ofList name.literal}"
  | nameMissing ofCharacter =>
    if ofCharacter then "missing character name" else "missing group name"
  | nameUnended closing => s!"missing {closing}, unterminated name"
  | badName name => s!"bad character in group name {String.ofList name.literal}"
  | unknownName name => s!"unknown group name {String.ofList name.literal}"
  | nameTaken name n before =>
    s!"redefinition of group name {String.ofList name.literal} as group {n}; was group {before}"
  | groupOpen => "cannot refer to an open group"
  | groupBehind => "cannot refer to group defined in the same lookbehind subpattern"
  | unknownGroup n => s!"invalid group reference {n}"
  | groupZero => "bad group number"
  | tooManyBranches => "conditional backref with more than two branches"
  | unknownExtension extension => s!"unknown extension ?{String.ofList extension}"
  | extensionMissing => "unexpected end of pattern"
  | localeFlag => "bad inline flags: cannot use 'L' flag with a str pattern"
  | typesTogether => "bad inline flags: flags 'a', 'u' and 'L' are incompatible"
  | unknownFlag => "unknown flag"
  | flagUnended => "missing -, : or )"
  | flagMissing => "missing flag"
  | flagsUnended => "missing :"
  | wholeFlagSet => "bad inline flags: cannot turn on global flag"
  | wholeFlagUnset => "bad inline flags: cannot turn off global flag"
  | typeUnset => "bad inline flags: cannot turn off flags 'a', 'u' and 'L'"
  | flagTwice => "bad inline flags: flag turned on and off"
  | flagNotAtStart => "global flags not at the start of the expression"
  | behindTooFar => "looks too much behind"
  | behindNotFixed => "look-behind requires fixed-width pattern"
  | repeatedTemplate mode => s!"internal: unsupported template operator {mode.label}"
  | asciiAndUnicode => "ASCII and UNICODE flags are incompatible"
  | tooManyDigits n =>
    s!"Exceeds the limit (4300 digits) for integer string conversion: value has {n} digits; "
      ++ "use sys.set_int_max_str_digits() to increase the limit"
  | tooManyRepetitions => "the repetition number is too large"
  | codeTooLarge => "Python int too large to convert to C int"

/-- The fault makes the text invalid as a pattern. -/
def isInvalid : PatternFault → Bool
  | asciiAndUnicode | tooManyDigits _ | tooManyRepetitions | codeTooLarge => false
  | _ => true

/-- The command line tells the fault. -/
def isReported : PatternFault → Bool
  | tooManyRepetitions | codeTooLarge => false
  | _ => true

end PatternFault

/-- A fault and the place of it. -/
structure PatternError where
  fault : PatternFault
  place? : Option Nat
  deriving DecidableEq, Repr

/-- The description of an error in a pattern with the given text. The line is told where there are
several. -/
def PatternError.message (e : PatternError) (source : Text) : String :=
  match e.place? with
  | none => e.fault.message
  | some place =>
    let described := s!"{e.fault.message} at position {place}"
    if source.contains '\n' then
      let (line, column) := source.lineColumn place
      described ++ s!" (line {line}, column {column})"
    else described

end MarkedSheet
