import MarkedSheet.Number.Integer
import MarkedSheet.Pattern.Fault
import MarkedSheet.Text.Identifier

/-!
# Reading patterns

A pattern is read token by token: a token is a character, or a backslash with the character after
it. The reader keeps the groups that are still open, the innermost first, and what is known of those
that are closed. A backslash at the very end is noticed as soon as the token before it has been
taken, and comes before all other errors of that token (`Scan.fail`). What can be said of a pattern
only when it has been read as a whole is looked at in the end (`Pattern.fault?`).
-/

namespace MarkedSheet

namespace Pattern

/-- A token of a pattern. -/
inductive Token
  /-- A character. -/
  | plain (c : Char)
  /-- A character after a backslash. -/
  | escaped (c : Char)
  /-- A backslash at the end. -/
  | broken
  deriving DecidableEq, Repr

/-- A token and the place where it begins. -/
structure Placed where
  place : Nat
  token : Token
  deriving DecidableEq, Repr

/-- The text of a token. -/
def Token.text : Token → Text
  | plain c => [c]
  | escaped c => ['\\', c]
  | broken => ['\\']

/-- The tokens of a text that begins at a place. -/
def tokens : Nat → Text → List Placed
  | _, [] => []
  | i, ['\\'] => [⟨i, .broken⟩]
  | i, '\\' :: c :: rest => ⟨i, .escaped c⟩ :: tokens (i + 2) rest
  | i, c :: rest => ⟨i, .plain c⟩ :: tokens (i + 1) rest

/-- The tokens that are left, and the place where they end. -/
structure Source where
  rest : List Placed
  stop : Nat
  deriving DecidableEq, Repr

/-- A step of reading. -/
abbrev Scan := StateT Source (Except PatternError)

namespace Scan

/-- The place of the next token. -/
def place : Scan Nat := do
  let source ← get
  return match source.rest with
    | t :: _ => t.place
    | [] => source.stop

/-- The next token, which stays. -/
def peek : Scan (Option Token) := do
  return (← get).rest.head?.map (·.token)

/-- Fails, or rather for the backslash at the end, if nothing else is left. -/
def fail {α : Type} (fault : PatternFault) (place? : Option Nat) : Scan α := do
  match (← get).rest with
  | [⟨i, .broken⟩] => throw ⟨.backslashAtEnd, some i⟩
  | _ => throw ⟨fault, place?⟩

/-- Fails at the next token. -/
def failHere {α : Type} (fault : PatternFault) : Scan α := do
  fail fault (some (← place))

/-- Takes the next token. -/
def next : Scan (Option Placed) := do
  let source ← get
  match source.rest with
  | [] => return none
  | t :: rest =>
    if t.token = .broken then throw ⟨.backslashAtEnd, some t.place⟩
    set { source with rest }
    return some t

/-- Takes the next token if it is the character. -/
def accept (c : Char) : Scan Bool := do
  if (← peek) = some (.plain c) then
    let _ ← next
    return true
  else return false

/-- Takes at most `n` characters of a sort. -/
def takeChars (sort : Char → Bool) : Nat → Scan Text
  | 0 => return []
  | n + 1 => do
    match ← peek with
    | some (.plain c) =>
      if sort c then
        let _ ← next
        return c :: (← takeChars sort n)
      else return []
    | _ => return []

/-- The number of tokens that are left. -/
def remaining : Scan Nat := do
  return (← get).rest.length

/-- Takes at most `n` tokens up to the one that closes a name, and gives their text. -/
def takeName (closing : Char) : Nat → Scan (Text × Bool)
  | 0 => return ([], false)
  | n + 1 => do
    match ← next with
    | none => return ([], false)
    | some t =>
      if t.token = .plain closing then return ([], true)
      else
        let (name, closed) ← takeName closing n
        return (t.token.text ++ name, closed)

/-- The name of a group or a character, up to what closes it. -/
def readName (closing : Char) (ofCharacter : Bool) : Scan Text := do
  let start ← place
  let (name, closed) ← takeName closing ((← remaining) + 1)
  if closed then
    if name.isEmpty then fail (.nameMissing ofCharacter) (some start) else return name
  else if name.isEmpty then failHere (.nameMissing ofCharacter)
  else fail (.nameUnended closing) (some start)

end Scan

open Scan

/-- A group that is being read, or the whole pattern. -/
inductive Role
  | whole
  | flagged (set unset : List PatternFlag)
  | capture (n : Nat)
  | atomic
  /-- `outermost` tells that nothing around is looked for behind. -/
  | look (behind negative outermost : Bool)
  | choice (n : Nat)
  deriving DecidableEq, Repr

/-- What has been read of a group. -/
structure Frame where
  /-- The place of the opening parenthesis. -/
  place : Nat
  role : Role
  /-- White space means nothing. -/
  isVerbose : Bool
  /-- The alternatives before the one that is being read. -/
  earlier : Option Pattern := none
  /-- The parts of the alternative, the last first. -/
  parts : List Pattern := []
  deriving DecidableEq, Repr

/-- What has been read so far. -/
structure Reading where
  /-- The groups that are open, the innermost first. -/
  opened : List Frame := []
  /-- The innermost group or the whole pattern. -/
  current : Frame
  /-- The flags of the whole pattern. -/
  flags : List PatternFlag := []
  names : Mapping Text Nat := []
  /-- The widths of the groups by their numbers from one on, none of those that are open. -/
  widths : List (Option Width) := []
  /-- Where something is looked for behind, the number of the groups before it. -/
  behind? : Option Nat := none
  /-- The groups that are asked for by their numbers, with the places of these. -/
  asked : Mapping Nat Nat := []
  deriving DecidableEq, Repr

namespace Frame

/-- The parts of an alternative in sequence. -/
def alternative (frame : Frame) : Pattern :=
  match frame.parts with
  | [] => .nothing
  | last :: before => before.foldl (fun p part => .sequence part p) last

/-- All alternatives. -/
def pattern (frame : Frame) : Pattern :=
  match frame.earlier with
  | none => frame.alternative
  | some p => .either p frame.alternative

/-- The group with one more part. -/
def add (frame : Frame) (p : Pattern) : Frame :=
  { frame with parts := p :: frame.parts }

end Frame

/-- Numbers of repetitions have to lie below this. -/
def repetitionLimit : Nat := Nat.pow 2 32 - 1

/-- Numbers of groups have to lie below this. -/
def groupLimit : Nat := Nat.pow 2 30 - 1

/-- Widths are not told apart beyond this. -/
def widthLimit : Nat := Nat.pow 2 64

/-- Numbers are read up to so many digits. -/
def digitLimit : Nat := 4300

/-- How many characters a pattern covers, when groups cover as many as is said. -/
def width (widths : List (Option Width)) : Pattern → Width
  | nothing | edge _ | look .. => ⟨0, 0⟩
  | one .. | any => ⟨1, 1⟩
  | sequence first second =>
    let a := width widths first
    let b := width widths second
    ⟨min (a.least + b.least) widthLimit, min (a.most + b.most) widthLimit⟩
  | either a b | choice _ a b =>
    let a := width widths a
    let b := width widths b
    ⟨min a.least b.least, max a.most b.most⟩
  | flagged _ _ p | group _ p | atomic p => width widths p
  | again n => ((widths[n - 1]?).join).getD ⟨0, 0⟩
  | repeated p least most? _ =>
    let w := width widths p
    let most := match most? with
      | some most => w.most * most
      | none => if w.most = 0 then 0 else widthLimit
    ⟨min (w.least * least) widthLimit, min most widthLimit⟩

namespace Reading

/-- Adds a part to what is being read. -/
def add (r : Reading) (p : Pattern) : Reading :=
  { r with current := r.current.add p }

/-- Nothing has been read but flags. -/
def atStart (r : Reading) : Bool :=
  r.opened.isEmpty && r.current.earlier.isNone && r.current.parts.isEmpty

/-- Opens a group. -/
def openFrame (r : Reading) (place : Nat) (role : Role) (isVerbose : Bool) : Reading :=
  { r with opened := r.current :: r.opened, current := { place, role, isVerbose } }

/-- The group is closed. -/
def hasGroup (r : Reading) (n : Nat) : Bool :=
  n ≤ r.widths.length && ((r.widths[n - 1]?).join).isSome

/-- Fails where something is looked for behind and the group is open or belongs to it. -/
def checkBehind (r : Reading) (n : Nat) : Scan Unit := do
  match r.behind? with
  | none => return
  | some before =>
    if !r.hasGroup n then failHere .groupOpen
    if before < n then failHere .groupBehind

end Reading

section Escapes

/-- The class that a letter names after a backslash. -/
def kind? : Char → Option CharRange
  | 'd' => some (.kind .digit false)
  | 'D' => some (.kind .digit true)
  | 's' => some (.kind .blank false)
  | 'S' => some (.kind .blank true)
  | 'w' => some (.kind .word false)
  | 'W' => some (.kind .word true)
  | _ => none

/-- The place that a letter names after a backslash. -/
def edge? : Char → Option Edge
  | 'A' => some .veryFirst
  | 'Z' => some .veryLast
  | 'b' => some (.word false)
  | 'B' => some (.word true)
  | _ => none

/-- The control character that a letter names after a backslash. -/
def control? : Char → Option Nat
  | 'a' => some 7
  | 'b' => some 8
  | 'f' => some 12
  | 'n' => some 10
  | 'r' => some 13
  | 't' => some 9
  | 'v' => some 11
  | _ => none

/-- An octal digit. -/
def isOctal (c : Char) : Bool :=
  '0' ≤ c && c ≤ '7'

/-- The number that digits stand for in a base. -/
def inBase (base : Nat) (digits : Text) : Nat :=
  digits.foldl (fun n c => base * n + (hexValue? c).getD 0) 0

/-- The pattern that covers one character. -/
def ofCode (n : Nat) : Pattern :=
  .one false [.span n n]

variable (names : Text → Option Char) (place : Nat) (c : Char)

/-- The character with so many hexadecimal digits. -/
def readHex (digits : Nat) : Scan Nat := do
  let code ← takeChars (fun c => (hexValue? c).isSome) digits
  let escape := '\\' :: c :: code
  if code.length < digits then fail (.incompleteEscape escape) (some place)
  let n := inBase 16 code
  if Nat.pow 2 31 ≤ n then fail .codeTooLarge none
  if 0x110000 ≤ n then fail (.badEscape escape) (some place)
  return n

/-- The character with the name that follows. -/
def readNamed : Scan Nat := do
  if !(← accept '{') then failHere .braceMissing
  let name ← readName '}' true
  match names name with
  | some c => return c.toNat
  | none => fail (.unknownCharacter name) (some place)

/-- The character with an octal number. -/
def ofOctal (digits : Text) : Scan Nat := do
  if 0o400 ≤ inBase 8 digits then fail (.octalTooLarge ('\\' :: digits)) (some place)
  return inBase 8 digits

/-- The character that an escape stands for that is no class and no place; a letter or digit does
not stand for itself. -/
def readCode : Scan Nat :=
  if c = 'x' then readHex place c 2
  else if c = 'u' then readHex place c 4
  else if c = 'U' then readHex place c 8
  else if c = 'N' then readNamed names place
  else if c.isAlphanum then fail (.badEscape ['\\', c]) (some place)
  else return c.toNat

/-- A member of a set that begins with a backslash. -/
def readMember : Scan CharRange := do
  match control? c, kind? c with
  | some n, _ => return .span n n
  | none, some k => return k
  | none, none =>
    let n ← if isOctal c then do ofOctal place (c :: (← takeChars isOctal 2))
      else readCode names place c
    return .span n n

/-- The piece of a group once more. -/
def readAgain (r : Reading) (digits : Text) : Scan Pattern := do
  let n := inBase 10 digits
  if r.widths.length < n then fail (.unknownGroup n) (some (place + 1))
  if !r.hasGroup n then fail .groupOpen (some place)
  r.checkBehind n
  return .again n

/-- What begins with a backslash and a digit: a character with an octal number, which begins with a
zero or has three digits, or a group. -/
def readNumbered (r : Reading) : Scan Pattern := do
  if c = '0' then return ofCode (inBase 8 (← takeChars isOctal 2))
  let second ← takeChars Char.isDigit 1
  let third ← if isOctal c && !second.isEmpty && second.all isOctal then takeChars isOctal 1
    else pure []
  let digits := c :: second ++ third
  if third.isEmpty then readAgain place r digits else return ofCode (← ofOctal place digits)

/-- What begins with a backslash. -/
def readEscape (r : Reading) : Scan Pattern := do
  match edge? c, kind? c, control? c with
  | some e, _, _ => return .edge e
  | none, some k, _ => return .one false [k]
  | none, none, some n => return ofCode n
  | none, none, none =>
    if c.isDigit then readNumbered place c r else return ofCode (← readCode names place c)

end Escapes

section Sets

/-- The range between two members, which both have to be single characters in their order. -/
def range? : CharRange → CharRange → Option CharRange
  | .span a _, .span b _ => if a ≤ b then some (.span a b) else none
  | _, _ => none

variable (names : Text → Option Char) (start : Nat)

/-- The member that begins with a token. -/
def memberOf (t : Placed) : Scan CharRange :=
  match t.token with
  | .plain c => return .span c.toNat c.toNat
  | .escaped c => readMember names t.place c
  | .broken => failHere .backslashAtEnd

/-- The members of a set up to its closing bracket. The set began at `start`; the first member may
be a closing bracket. -/
def readMembers : Nat → List CharRange → Scan (List CharRange)
  | 0, _ => fail .setUnended (some start)
  | fuel + 1, set => do
    let some t ← next | fail .setUnended (some start)
    if t.token = .plain ']' && !set.isEmpty then return set
    let first ← memberOf names t
    if ← accept '-' then
      let some u ← next | fail .setUnended (some start)
      if u.token = .plain ']' then return set ++ [first, .span 45 45]
      let last ← memberOf names u
      match range? first last with
      | some range => readMembers fuel (set ++ [range])
      | none =>
        let length := t.token.text.length + 1 + u.token.text.length
        fail (.rangeReversed t.token.text u.token.text) (some ((← place) - length))
    else readMembers fuel (set ++ [first])

/-- A set. -/
def readSet : Scan Pattern := do
  let others ← accept '^'
  return .one others (← readMembers names start ((← remaining) + 1) [])

end Sets

section Repetitions

/-- A number in digits, none if there are none. -/
def numberOf? (digits : Text) : Scan (Option Nat) := do
  if digits.isEmpty then return none
  if digitLimit < digits.length then fail (.tooManyDigits digits.length) none
  let n := inBase 10 digits
  if repetitionLimit ≤ n then fail .tooManyRepetitions none
  return some n

/-- The digits between braces up to the closing one: of one number or of two with a comma between
them. Nothing is taken, and there are none, if something else stands there. -/
def readBounds : Scan (Option (Text × Text)) := do
  let source ← get
  if (← peek) = some (.plain '}') then return none
  let low ← takeChars Char.isDigit source.rest.length
  let high ← if ← accept ',' then takeChars Char.isDigit source.rest.length else pure low
  if ← accept '}' then return some (low, high)
  set source
  return none

/-- The mode that the token after a repetition tells. -/
def readMode : Scan RepeatMode := do
  if ← accept '?' then return .lazy
  if ← accept '+' then return .possessive
  return .greedy

/-- Repeats the last part. The repetition stands at `start`. -/
def repeatLast (r : Reading) (start least : Nat) (most? : Option Nat) : Scan Reading := do
  let part :: before := r.current.parts | fail .nothingToRepeat (some start)
  match part with
  | .edge _ => fail .nothingToRepeat (some start)
  | .repeated .. => fail .repeatedTwice (some start)
  | part =>
    let mode ← readMode
    return { r with
      current := { r.current with parts := .repeated part least most? mode :: before } }

/-- Repeats the last part as the numbers between braces say, if there are such. -/
def readBraces (r : Reading) (start : Nat) : Scan Reading := do
  match ← readBounds with
  | none => return r.add (ofCode 123)
  | some (low, high) =>
    let least := (← numberOf? low).getD 0
    let most? ← numberOf? high
    if most?.any (· < least) then fail .leastAboveMost (some (start + 1))
    repeatLast r start least most?

end Repetitions

section Flags

/-- The flag that a letter names. -/
def flag? : Char → Option PatternFlag
  | 'a' => some .ascii
  | 'i' => some .ignoreCase
  | 'L' => some .locale
  | 'm' => some .manyLines
  | 's' => some .dotAll
  | 't' => some .template
  | 'u' => some .unicode
  | 'x' => some .verbose
  | _ => none

/-- A flag that says which letters there are. -/
def isType : PatternFlag → Bool
  | .ascii | .locale | .unicode => true
  | _ => false

/-- The flag of a token. One that names none is a fault: an unknown letter, or something else. -/
def flagOf (fault : PatternFault) (t : Placed) : Scan PatternFlag :=
  match t.token with
  | .plain c => match flag? c with
    | some f => return f
    | none => fail (if isLetterChar c then .unknownFlag else fault) (some t.place)
  | _ => fail fault (some t.place)

/-- The flags that are set, and the character after them. -/
def readSetFlags : Nat → PatternFlag → List PatternFlag → Scan (List PatternFlag × Char)
  | 0, _, _ => failHere .flagUnended
  | fuel + 1, f, set => do
    if f = .locale then failHere .localeFlag
    let set := set ++ [f]
    if isType f && set.any fun g => isType g && g != f then failHere .typesTogether
    let some t ← next | failHere .flagUnended
    match t.token with
    | .plain ')' => return (set, ')')
    | .plain ':' => return (set, ':')
    | .plain '-' => return (set, '-')
    | _ => readSetFlags fuel (← flagOf .flagUnended t) set

/-- The flags that are taken away, up to a colon. -/
def readUnsetFlags : Nat → PatternFlag → List PatternFlag → Scan (List PatternFlag)
  | 0, _, _ => failHere .flagsUnended
  | fuel + 1, f, unset => do
    if isType f then failHere .typeUnset
    let unset := unset ++ [f]
    let some t ← next | failHere .flagsUnended
    if t.token = .plain ':' then return unset
    readUnsetFlags fuel (← flagOf .flagsUnended t) unset

/-- The flags after the character `c`: those of a group, or those of the whole pattern, which set
flags alone. -/
def readFlags (c : Char) : Scan (List PatternFlag × Option (List PatternFlag)) := do
  let fuel := (← remaining) + 1
  let (set, closing) ← match flag? c with
    | some f => readSetFlags fuel f []
    | none => pure ([], '-')
  if closing = ')' then return (set, none)
  if set.contains .template then fail .wholeFlagSet (some ((← place) - 1))
  let unset ← if closing = '-' then do
      let some t ← next | failHere .flagMissing
      readUnsetFlags fuel (← flagOf .flagMissing t) []
    else pure []
  if unset.contains .template then fail .wholeFlagUnset (some ((← place) - 1))
  if set.any unset.contains then fail .flagTwice (some ((← place) - 1))
  return (set, some unset)

end Flags

section Groups

variable (r : Reading) (start : Nat)

/-- Opens a group whose piece can be asked for, by its name as well if it has one. -/
def openCapture (name? : Option Text) : Scan Reading := do
  let n := r.widths.length + 1
  let names ← match name? with
    | none => pure r.names
    | some name => match r.names.get? name with
      | some before => fail (.nameTaken name n before) (some ((← place) - name.length - 1))
      | none => pure (r.names.set name n)
  return { r.openFrame start (.capture n) r.current.isVerbose with
    names, widths := r.widths ++ [none] }

/-- The name of a group, up to what closes it. -/
def readGroupName (closing : Char) : Scan Text := do
  let begins ← place
  let name ← readName closing false
  if !name.isName then fail (.badName name) (some begins)
  return name

/-- A group that is named, or asked for by its name. -/
def openNamed (mark : Nat) : Scan Reading := do
  if ← accept '<' then openCapture r start (some (← readGroupName '>'))
  else if ← accept '=' then
    let begins ← place
    let name ← readGroupName ')'
    match r.names.get? name with
    | none => fail (.unknownName name) (some begins)
    | some n =>
      if !r.hasGroup n then fail .groupOpen (some begins)
      r.checkBehind n
      return r.add (.again n)
  else
    let some t ← next | failHere .extensionMissing
    fail (.unknownExtension ('P' :: t.token.text)) (some mark)

/-- Drops a comment. -/
def dropComment : Nat → Scan Unit
  | 0 => return
  | n + 1 => do
    let some t ← next | fail .commentUnended (some start)
    if t.token = .plain ')' then return else dropComment n

/-- Opens what is looked for ahead or behind. -/
def openLook (behind negative : Bool) : Reading :=
  let opened := r.openFrame start (.look behind negative r.behind?.isNone) r.current.isVerbose
  if behind && r.behind?.isNone then { opened with behind? := some r.widths.length } else opened

/-- Opens what is looked for behind. -/
def openBehind (mark : Nat) : Scan Reading := do
  let some t ← next | failHere .extensionMissing
  match t.token with
  | .plain '=' => return openLook r start true false
  | .plain '!' => return openLook r start true true
  | token => fail (.unknownExtension ('<' :: token.text)) (some mark)

/-- The number of a group as it is written, with spaces, a sign and low lines. -/
def groupNumber? (name : Text) : Option Nat :=
  if digitLimit < (name.filter isDigitChar).length then none
  else match readInt? name with
    | some i => if i < 0 then none else some i.toNat
    | none => none

/-- Opens two branches, of which one is taken if a group has a piece. -/
def openChoice : Scan Reading := do
  let begins ← place
  let name ← readName ')' false
  let (n, asked) ← if name.isName then
      match r.names.get? name with
      | some n => pure (n, r.asked)
      | none => fail (.unknownName name) (some begins)
    else match groupNumber? name with
      | none => fail (.badName name) (some begins)
      | some 0 => fail .groupZero (some begins)
      | some n =>
        if groupLimit ≤ n then fail (.unknownGroup n) (some begins)
        else pure (n, if (r.asked.get? n).isSome then r.asked else r.asked ++ [(n, begins)])
  r.checkBehind n
  return { r.openFrame start (.choice n) r.current.isVerbose with asked }

/-- Opens a group with flags, or sets those of the whole pattern. -/
def openFlagged (c : Char) : Scan Reading := do
  match ← readFlags c with
  | (set, none) =>
    if !r.atStart then fail .flagNotAtStart (some start)
    let flags := r.flags ++ set
    return { r with flags, current.isVerbose := flags.contains .verbose }
  | (set, some unset) =>
    let isVerbose := (r.current.isVerbose || set.contains .verbose) && !unset.contains .verbose
    return r.openFrame start (.flagged set unset) isVerbose

/-- Opens what a question mark after a parenthesis tells. -/
def openExtension : Scan Reading := do
  let mark := start + 1
  let some t ← next | failHere .extensionMissing
  match t.token with
  | .plain 'P' => openNamed r start mark
  | .plain ':' => return r.openFrame start (.flagged [] []) r.current.isVerbose
  | .plain '#' => do
    dropComment start ((← remaining) + 1)
    return r
  | .plain '=' => return openLook r start false false
  | .plain '!' => return openLook r start false true
  | .plain '<' => openBehind r start mark
  | .plain '(' => openChoice r start
  | .plain '>' => return r.openFrame start .atomic r.current.isVerbose
  | .plain c =>
    if (flag? c).isSome || c = '-' then openFlagged r start c
    else fail (.unknownExtension [c]) (some mark)
  | token => fail (.unknownExtension token.text) (some mark)

/-- Opens a group. -/
def openGroup : Scan Reading := do
  if ← accept '?' then openExtension r start else openCapture r start none

/-- The group as a part of what is around it. -/
def Frame.close (frame : Frame) (widths : List (Option Width)) : Pattern :=
  match frame.role with
  | .whole => frame.pattern
  | .flagged set unset => .flagged set unset frame.pattern
  | .capture n => .group n frame.pattern
  | .atomic => .atomic frame.pattern
  | .look behind negative _ =>
    .look (if behind then some (frame.pattern.width widths) else none) negative frame.pattern
  | .choice n => match frame.earlier with
    | none => .choice n frame.alternative .nothing
    | some yes => .choice n yes frame.alternative

/-- Closes the innermost group, or fails if there is none. -/
def closeGroup : Scan Reading :=
  match r.opened with
  | [] =>
    if r.flags.contains .ascii && r.flags.contains .unicode then fail .asciiAndUnicode none
    else failHere .unbalancedClose
  | outer :: opened => do
    let _ ← next
    let frame := r.current
    let widths := match frame.role with
      | .capture n => r.widths.set (n - 1) (some (frame.pattern.width r.widths))
      | _ => r.widths
    let behind? := match frame.role with
      | .look true _ true => none
      | _ => r.behind?
    return { r with opened, current := outer.add (frame.close widths), widths, behind? }

/-- Begins another alternative. A choice has two branches at most. -/
def nextAlternative : Scan Reading := do
  let frame := r.current
  match frame.role, frame.earlier with
  | .choice _, some _ => failHere .tooManyBranches
  | _, _ => do
    let _ ← next
    return { r with current := { frame with earlier := some frame.pattern, parts := [] } }

end Groups

/-- White space that means nothing where a pattern is verbose. -/
def isVerboseSpace (c : Char) : Bool :=
  c = ' ' || (9 ≤ c.toNat && c.toNat ≤ 13)

/-- Drops the rest of a line. -/
def dropLine : Nat → Scan Unit
  | 0 => return
  | n + 1 => do
    match ← next with
    | none => return
    | some t => if t.token = .plain '\n' then return else dropLine n

variable (names : Text → Option Char)

/-- Reads what begins with a plain character. -/
def readPlain (r : Reading) (place : Nat) (c : Char) : Scan Reading :=
  match c with
  | '(' => openGroup r place
  | '[' => return r.add (← readSet names place)
  | '.' => return r.add .any
  | '^' => return r.add (.edge .first)
  | '$' => return r.add (.edge .last)
  | '?' => repeatLast r place 0 (some 1)
  | '*' => repeatLast r place 0 none
  | '+' => repeatLast r place 1 none
  | '{' => readBraces r place
  | c => return r.add (ofCode c.toNat)

/-- Reads on by one token or more. -/
def readPart (r : Reading) (t : Placed) : Scan Reading :=
  match t.token with
  | .plain c => do
    if r.current.isVerbose && isVerboseSpace c then return r
    else if r.current.isVerbose && c = '#' then do
      dropLine ((← remaining) + 1)
      return r
    else readPlain names r t.place c
  | .escaped c => return r.add (← readEscape names t.place c r)
  | .broken => failHere .backslashAtEnd

/-- Reads at most `fuel` parts. -/
def readParts : Nat → Reading → Scan Reading
  | 0, r => return r
  | fuel + 1, r => do
    match ← peek with
    | none => return r
    | some (.plain ')') => readParts fuel (← closeGroup r)
    | some (.plain '|') => readParts fuel (← nextAlternative r)
    | some _ => match ← next with
      | none => return r
      | some t => readParts fuel (← readPart names r t)

/-- What is wrong with a pattern as a whole: a repetition where there are none, or something of no
fixed width that is looked for behind. -/
def fault? (isTemplate : Bool) : Pattern → Option PatternFault
  | nothing | one .. | any | edge _ | again _ => none
  | sequence a b | either a b | choice _ a b => (fault? isTemplate a).or (fault? isTemplate b)
  | flagged _ _ p | group _ p | atomic p => fault? isTemplate p
  | look behind? _ p => match behind? with
    | none => fault? isTemplate p
    | some w =>
      if Nat.pow 2 32 ≤ w.least then some .behindTooFar
      else if w.least != w.most then some .behindNotFixed
      else fault? isTemplate p
  | repeated p _ _ mode => if isTemplate then some (.repeatedTemplate mode) else fault? isTemplate p

/-- Reads a whole pattern. -/
def readWhole : Scan NamePattern := do
  let r ← readParts names ((← remaining) + 1) { current := ⟨0, .whole, false, none, []⟩ }
  if !r.opened.isEmpty then fail .groupUnended (some r.current.place)
  if r.flags.contains .ascii && r.flags.contains .unicode then fail .asciiAndUnicode none
  match r.asked.find? fun (n, _) => r.widths.length < n with
  | some (n, place) => fail (.unknownGroup n) (some place)
  | none => match r.current.pattern.fault? (r.flags.contains .template) with
    | some fault => fail fault none
    | none => return ⟨r.current.pattern, r.flags⟩

end Pattern

/-- Reads a pattern, in which characters may be written by their names. -/
def NamePattern.ofText? (names : Text → Option Char) (source : Text) :
    Except PatternError NamePattern :=
  (Pattern.readWhole names).run' ⟨Pattern.tokens 0 source, source.length⟩

end MarkedSheet
