import MarkedSheet.Mapping
import MarkedSheet.Text.Alphanumeric
import MarkedSheet.Text.Blank
import MarkedSheet.Text.Case
import MarkedSheet.Text.Digit

/-!
# Patterns of names

A pattern says which pieces of a text it covers. Its smallest parts cover one character, or nothing
at a certain place; they are put in sequence, offered as alternatives, repeated, and looked for
ahead or behind. Of the ways in which a pattern can cover pieces the first is taken with which all
that comes after it goes on (`cover`): the first alternative before the second, and one round more
or one round less first, as a repetition says. What a group has covered can be asked for again.
-/

namespace MarkedSheet

/-- How a pattern is read, and how it covers. -/
inductive PatternFlag
  /-- Classes of characters and word ends know the letters and digits of ASCII alone. -/
  | ascii
  /-- Letters count as equal to their other case. -/
  | ignoreCase
  /-- Letters are those of the language that is set. -/
  | locale
  /-- The edges of lines count as edges of the text. -/
  | manyLines
  /-- A point covers line feeds as well. -/
  | dotAll
  /-- There are no repetitions. -/
  | template
  /-- Classes of characters and word ends know the letters and digits of every script. -/
  | unicode
  /-- White space in a pattern means nothing, and a number sign begins a comment. -/
  | verbose
  deriving DecidableEq, Repr

/-- A class of characters with a name. -/
inductive CharKind
  | digit
  | blank
  | word
  deriving DecidableEq, Repr

/-- A member of a set of characters. -/
inductive CharRange
  /-- The code points from `first` to `last`. -/
  | span (first last : Nat)
  /-- The characters of a class, or all others. -/
  | kind (k : CharKind) (others : Bool)
  deriving DecidableEq, Repr

/-- A place between two characters. -/
inductive Edge
  /-- Before the first character. -/
  | veryFirst
  /-- Before the first character, or of a line. -/
  | first
  /-- After the last character, or before a line feed that is the last, or after that of a line. -/
  | last
  /-- After the last character. -/
  | veryLast
  /-- Between a word character and one that is not, or, `inside`, between two of the same sort. The
  ends of a text count as no word characters; an empty text has no such places. -/
  | word (inside : Bool)
  deriving DecidableEq, Repr

/-- How a repetition takes its part. -/
inductive RepeatMode
  /-- As often as it fits. -/
  | greedy
  /-- As seldom as it fits. -/
  | lazy
  /-- As often as possible, whatever follows, and every round once and for all. -/
  | possessive
  deriving DecidableEq, Repr

/-- How many characters a pattern covers. -/
structure Width where
  least : Nat
  most : Nat
  deriving DecidableEq, Repr

/-- A pattern. -/
inductive Pattern
  /-- Covers nothing. -/
  | nothing
  /-- Covers one character of the set, or one that is not in it. -/
  | one (others : Bool) (set : List CharRange)
  /-- Covers one character. -/
  | any
  /-- Covers nothing, at a certain place. -/
  | edge (e : Edge)
  /-- One pattern after another. -/
  | sequence (first second : Pattern)
  /-- One of two patterns. -/
  | either (a b : Pattern)
  /-- A pattern with more and with fewer flags. -/
  | flagged (set unset : List PatternFlag) (p : Pattern)
  /-- A pattern whose piece can be asked for by a number. -/
  | group (n : Nat) (p : Pattern)
  /-- A pattern that covers once and for all. -/
  | atomic (p : Pattern)
  /-- Covers nothing where the pattern covers a piece that begins there, or, with a width, one of
  this width that ends there; or where it does not. -/
  | look (behind? : Option Width) (negative : Bool) (p : Pattern)
  /-- The piece of a group once more. -/
  | again (n : Nat)
  /-- One pattern if a group has a piece, another if not. -/
  | choice (n : Nat) (yes no : Pattern)
  /-- A pattern at least `least` times, and at most `most?` times. -/
  | repeated (p : Pattern) (least : Nat) (most? : Option Nat) (mode : RepeatMode)
  deriving DecidableEq, Repr

/-- The flags when some are set and others are taken away. A flag that says which letters there are
takes the place of the others that do. -/
def PatternFlag.change (flags set unset : List PatternFlag) : List PatternFlag :=
  let types := [ascii, locale, unicode]
  let kept := if set.any types.contains then flags.filter (!types.contains ·) else flags
  (kept ++ set).filter (!unset.contains ·)

namespace CharKind

/-- The character is in the class, of all characters or of those of ASCII. -/
def holds (isAscii : Bool) (c : Char) : CharKind → Bool
  | digit => if isAscii then c.isDigit else isDigitChar c
  | blank => if isAscii then c = ' ' || (9 ≤ c.toNat && c.toNat ≤ 13) else isBlankChar c
  | word => if isAscii then c.isAlphanum || c = '_' else isWordChar c

end CharKind

namespace Pattern

/-- Lower-case letters that count as equal though they are no cases of each other. -/
def alikeLetters : List (List Nat) := [
  [105, 305], [115, 383], [181, 956], [837, 953, 8126], [912, 8147], [944, 8163], [946, 976],
  [949, 1013], [952, 977], [954, 1008], [960, 982], [961, 1009], [962, 963], [966, 981],
  [1074, 7296], [1076, 7297], [1086, 7298], [1089, 7299], [1090, 7300, 7301], [1098, 7302],
  [1123, 7303], [7304, 42571], [7777, 7835], [64261, 64262]]

/-- The lower case of a character, or that of ASCII alone. -/
def lowerCase (isAscii : Bool) (c : Char) : Char :=
  if isAscii then c.toLower else lowerChar c

/-- The code points whose lower case is `n`. -/
def upperCases (isAscii : Bool) (n : Nat) : List Nat :=
  if isAscii then if 97 ≤ n && n ≤ 122 then [n - 32] else []
  else caseRows.filterMap fun row =>
    let m := ((n : Int) - row.shift).toNat
    if row.first ≤ m && m ≤ row.last && (m - row.first) % row.step = 0 then some m else none

/-- The code points that count as equal to a character where case is ignored. -/
def caseVariants (isAscii : Bool) (c : Char) : List Nat :=
  let lower := (lowerCase isAscii c).toNat
  let alike := if isAscii then [lower]
    else ((alikeLetters.find? (·.contains lower)).getD [lower])
  alike.flatMap fun n => n :: upperCases isAscii n

/-- The character is in the set. -/
def inSet (flags : List PatternFlag) (set : List CharRange) (c : Char) : Bool :=
  let isAscii := flags.contains .ascii
  let points := if flags.contains .ignoreCase then caseVariants isAscii c else [c.toNat]
  set.any fun
    | .span first last => points.any fun n => first ≤ n && n ≤ last
    | .kind k others => k.holds isAscii c != others

/-- The piece stands here once more, perhaps in another case where case is ignored. -/
def readsAlike (flags : List PatternFlag) (here piece : Text) : Bool :=
  let alike (a b : Char) := if flags.contains .ignoreCase then
      lowerCase (flags.contains .ascii) a = lowerCase (flags.contains .ascii) b
    else a = b
  here.length = piece.length && (here.zip piece).all fun (a, b) => alike a b

/-- The place is of this sort. -/
def atEdge (flags : List PatternFlag) (t : Text) (i : Nat) : Edge → Bool
  | .veryFirst => i = 0
  | .first => i = 0 || (flags.contains .manyLines && t[i - 1]? = some '\n')
  | .last => i = t.length || (t[i]? = some '\n' && (i + 1 = t.length || flags.contains .manyLines))
  | .veryLast => i = t.length
  | .word inside =>
    let wordAt (i : Nat) := (t[i]?).any fun c => CharKind.word.holds (flags.contains .ascii) c
    !t.isEmpty && ((0 < i && wordAt (i - 1)) != wordAt i) != inside

/-- Where a pattern has come to in a text, and where groups have begun and ended. -/
structure Spot where
  place : Nat
  begun : Mapping Nat Nat := []
  ended : Mapping Nat Nat := []
  deriving DecidableEq, Repr

/-- What comes after a pattern: where it goes on to, if it can. -/
abbrev Next := Spot → Option Spot

namespace Spot

/-- The piece that a group has covered. -/
def piece? (s : Spot) (t : Text) (n : Nat) : Option Text := do
  let first ← s.begun.get? n
  let last ← s.ended.get? n
  if first ≤ last then some ((t.drop first).take (last - first)) else none

end Spot

/-- The first of two ways that goes on. -/
def orNext (first second : Next) : Next := fun s =>
  match first s with
  | some s => some s
  | none => second s

/-- Exactly `n` rounds. -/
def times (round : Spot → Next → Option Spot) : Nat → Next → Next
  | 0, next => next
  | n + 1, next => fun s => round s (times round n next)

/-- At most `n` more rounds. No further round is made after one that has not moved. -/
def moreTimes (round : Spot → Next → Option Spot) (isLazy : Bool) (next : Next) :
    Nat → Option Nat → Next
  | 0, _ => next
  | n + 1, before? =>
    let further : Next := fun s =>
      if before? = some s.place then none
      else round s (moreTimes round isLazy next n (some s.place))
    if isLazy then orNext next further else orNext further next

/-- As many rounds as there are, each once and for all, but at most `n`. -/
def allTimes (round : Spot → Next → Option Spot) : Nat → Spot → Spot
  | 0, s => s
  | n + 1, s => match round s some with
    | some s' => if s'.place = s.place then s' else allTimes round n s'
    | none => s

/-- Exactly `n` rounds, each once and for all. -/
def settledTimes (round : Spot → Next → Option Spot) : Nat → Next
  | 0, s => some s
  | n + 1, s => (round s some).bind (settledTimes round n)

/-- Goes on after a piece that begins at the place, if the pattern covers one with which what comes
next goes on. Of the rounds beyond those that are needed all but the last move, so more of them than
the text has characters, and two, are not asked for. -/
def cover (t : Text) : List PatternFlag → Pattern → Spot → Next → Option Spot
  | _, nothing, s, next => next s
  | flags, one others set, s, next =>
    match t[s.place]? with
    | some c => if inSet flags set c != others then next { s with place := s.place + 1 } else none
    | none => none
  | flags, any, s, next =>
    match t[s.place]? with
    | some c =>
      if c != '\n' || flags.contains .dotAll then next { s with place := s.place + 1 } else none
    | none => none
  | flags, edge e, s, next => if atEdge flags t s.place e then next s else none
  | flags, sequence first second, s, next =>
    cover t flags first s fun s => cover t flags second s next
  | flags, either a b, s, next =>
    orNext (fun s => cover t flags a s next) (fun s => cover t flags b s next) s
  | flags, flagged set unset p, s, next => cover t (PatternFlag.change flags set unset) p s next
  | flags, group n p, s, next =>
    cover t flags p { s with begun := s.begun.set n s.place } fun s =>
      next { s with ended := s.ended.set n s.place }
  | flags, atomic p, s, next => (cover t flags p s some).bind next
  | flags, look behind? negative p, s, next =>
    let found := match behind? with
      | none => cover t flags p s some
      | some width =>
        if s.place < width.least then none
        else cover t flags p { s with place := s.place - width.least } some
    match found with
    | some s' => if negative then none else next { s' with place := s.place }
    | none => if negative then next s else none
  | flags, again n, s, next =>
    match s.piece? t n with
    | some piece =>
      if readsAlike flags ((t.drop s.place).take piece.length) piece then
        next { s with place := s.place + piece.length }
      else none
    | none => none
  | flags, choice n yes no, s, next =>
    if (s.piece? t n).isSome then cover t flags yes s next else cover t flags no s next
  | flags, repeated p least most? mode, s, next =>
    let enough := t.length + 2
    let more := match most? with
      | none => enough
      | some most => min (most - least) enough
    match mode with
    | .greedy => times (cover t flags p) least (moreTimes (cover t flags p) false next more none) s
    | .lazy => times (cover t flags p) least (moreTimes (cover t flags p) true next more none) s
    | .possessive =>
      (settledTimes (cover t flags p) least s).bind fun s =>
        next (allTimes (cover t flags p) more s)

end Pattern

/-- A pattern that names are searched for, with flags. -/
structure NamePattern where
  pattern : Pattern
  flags : List PatternFlag
  deriving DecidableEq, Repr

/-- The pattern covers some piece of the text. -/
def NamePattern.occursIn (p : NamePattern) (t : Text) : Bool :=
  (List.range (t.length + 1)).any fun i => (p.pattern.cover t p.flags ⟨i, [], []⟩ some).isSome

end MarkedSheet
