import MarkedSheet.Options.Value
import MarkedSheet.Text.Position

/-!
# JSON

An options file is written in JSON. The reader goes through the text from left to right with its
place in it, and stops at the first error, which it tells with its place. Of several members with
one name the last counts. Besides the numbers of JSON, the names of the doubles that are no finite
numbers are read.
-/

namespace MarkedSheet

/-- What is wrong with a text that should be JSON. -/
inductive JsonFault
  | byteOrderMark
  | value
  | propertyName
  | colon
  | comma
  | extraData
  | textUnended
  | controlCharacter
  | unknownEscape
  | unicodeEscape
  deriving DecidableEq, Repr

/-- The description of a fault. -/
def JsonFault.message : JsonFault → String
  | .byteOrderMark => "Unexpected UTF-8 BOM (decode using utf-8-sig)"
  | .value => "Expecting value"
  | .propertyName => "Expecting property name enclosed in double quotes"
  | .colon => "Expecting ':' delimiter"
  | .comma => "Expecting ',' delimiter"
  | .extraData => "Extra data"
  | .textUnended => "Unterminated string starting at"
  | .controlCharacter => "Invalid control character at"
  | .unknownEscape => "Invalid \\escape"
  | .unicodeEscape => "Invalid \\uXXXX escape"

/-- A fault and the place of it. -/
structure JsonError where
  fault : JsonFault
  position : Nat
  deriving DecidableEq, Repr

/-- The description of an error in a text. -/
def JsonError.message (e : JsonError) (source : Text) : String :=
  let (line, column) := source.lineColumn e.position
  s!"{e.fault.message}: line {line} column {column} (char {e.position})"

namespace Json

/-- A place in a text and what comes after it. -/
structure Cursor where
  position : Nat
  rest : Text
  deriving DecidableEq, Repr

/-- White space between the parts of a JSON text. -/
def isSpace (c : Char) : Bool :=
  c = ' ' || c = '\t' || c = '\n' || c = '\r'

namespace Cursor

/-- The place `n` characters on. -/
def advance (cursor : Cursor) (n : Nat) : Cursor :=
  ⟨cursor.position + n, cursor.rest.drop n⟩

/-- The place after white space. -/
def skipSpace (cursor : Cursor) : Cursor :=
  cursor.advance (cursor.rest.takeWhile isSpace).length

/-- An error at the place. -/
def fail {α : Type} (cursor : Cursor) (fault : JsonFault) : Except JsonError α :=
  .error ⟨fault, cursor.position⟩

/-- The character at the place. -/
def head? (cursor : Cursor) : Option Char :=
  cursor.rest.head?

end Cursor

/-- The character that a letter stands for after a backslash. -/
def escapedChar? : Char → Option Char
  | '"' => some '"'
  | '\\' => some '\\'
  | '/' => some '/'
  | 'b' => some '\x08'
  | 'f' => some '\x0C'
  | 'n' => some '\n'
  | 'r' => some '\r'
  | 't' => some '\t'
  | _ => none

/-- The number that exactly four hexadecimal digits stand for. -/
def fourDigits? (digits : Text) : Option Nat :=
  if digits.length = 4 then
    digits.foldlM (fun value c => (hexValue? c).map (16 * value + ·)) 0
  else none

/-- The escape of a second half after the escape of a first half, with a character after it: the
place of its four digits. -/
def secondHalf? : Text → Option Text
  | '\\' :: 'u' :: rest => if 4 < rest.length then some (rest.take 4) else none
  | _ => none

/-- A code point above `U+FFFF` is written as two halves. -/
def joinHalves (first second : Nat) : Nat :=
  0x10000 + (first - 0xD800) * 0x400 + (second - 0xDC00)

/-- A first half of two. -/
def isFirstHalf (n : Nat) : Bool :=
  0xD800 ≤ n && n ≤ 0xDBFF

/-- A second half of two. -/
def isSecondHalf (n : Nat) : Bool :=
  0xDC00 ≤ n && n ≤ 0xDFFF

/-- The character that a numbered escape stands for, and how many characters the escape has after
its letter. The letter stands at `position`, before `rest`. -/
def numberedEscape (position : Nat) (rest : Text) : Except JsonError (Char × Nat) :=
  if rest.length ≤ 4 then .error ⟨.unicodeEscape, position⟩
  else match fourDigits? (rest.take 4) with
    | none => .error ⟨.unicodeEscape, position⟩
    | some n =>
      if isFirstHalf n then
        match secondHalf? (rest.drop 4) with
        | none => .ok (Char.ofNat n, 4)
        | some digits => match fourDigits? digits with
          | none => .error ⟨.unicodeEscape, position + 6⟩
          | some m =>
            if isSecondHalf m then .ok (Char.ofNat (joinHalves n m), 10)
            else .ok (Char.ofNat n, 4)
      else .ok (Char.ofNat n, 4)

/-- The rest of a text in quotation marks that began at `start`; `skip` characters of it belong to
an escape that has been read. -/
def readText (start : Nat) : Nat → Nat → Text → Except JsonError (Text × Cursor)
  | _, _, [] => .error ⟨.textUnended, start⟩
  | position, skip + 1, _ :: rest => readText start (position + 1) skip rest
  | position, 0, c :: rest =>
    if c = '"' then .ok ([], ⟨position + 1, rest⟩)
    else if c = '\\' then
      match rest with
      | [] => .error ⟨.textUnended, start⟩
      | letter :: after =>
        if letter = 'u' then do
          let (c, width) ← numberedEscape (position + 1) after
          let (t, cursor) ← readText start (position + 1) (width + 1) rest
          return (c :: t, cursor)
        else match escapedChar? letter with
          | none => .error ⟨.unknownEscape, position⟩
          | some c => do
            let (t, cursor) ← readText start (position + 1) 1 rest
            return (c :: t, cursor)
    else if c.toNat < 0x20 then .error ⟨.controlCharacter, position⟩
    else do
      let (t, cursor) ← readText start (position + 1) 0 rest
      return (c :: t, cursor)

/-- The digits of the whole part of a number: a zero alone, or digits that start with another. -/
def wholeDigits (t : Text) : Text :=
  match t with
  | '0' :: _ => ['0']
  | _ => t.takeWhile Char.isDigit

/-- The fraction of a number with its point, empty if no digit follows the point. -/
def fractionPart : Text → Text
  | '.' :: rest =>
    let digits := rest.takeWhile Char.isDigit
    if digits.isEmpty then [] else '.' :: digits
  | _ => []

/-- A sign at the front of a text. -/
def signPart : Text → Text
  | c :: _ => if c = '-' || c = '+' then [c] else []
  | [] => []

/-- The exponent of a number with its letter, empty if it has no digits. -/
def exponentPart : Text → Text
  | c :: rest =>
    if c = 'e' || c = 'E' then
      let sign := signPart rest
      let digits := (rest.drop sign.length).takeWhile Char.isDigit
      if digits.isEmpty then [] else c :: sign ++ digits
    else []
  | [] => []

/-- Reads a number. -/
def readNumber (cursor : Cursor) : Except JsonError (Value × Cursor) :=
  let minus := cursor.rest.take (if cursor.head? = some '-' then 1 else 0)
  let rest := cursor.rest.drop minus.length
  let whole := wholeDigits rest
  if whole.isEmpty then cursor.fail .value
  else
    let rest := rest.drop whole.length
    let fraction := fractionPart rest
    let exponent := exponentPart (rest.drop fraction.length)
    let digits := minus ++ whole ++ fraction ++ exponent
    let after := cursor.advance digits.length
    if fraction.isEmpty && exponent.isEmpty then
      let n := digitsValue whole
      .ok (.whole (if minus.isEmpty then n else -(n : Int)), after)
    else .ok (.real ((Double.ofText? digits).getD .nan), after)

/-- The values that are written as words. -/
def words : List (Text × Value) := [
  ("null".toList, .null), ("true".toList, .truth true), ("false".toList, .truth false),
  ("NaN".toList, .real .nan), ("Infinity".toList, .real (.signed false .infinite)),
  ("-Infinity".toList, .real (.signed true .infinite))]

/-- Reads a word or a number. -/
def readScalar (cursor : Cursor) : Except JsonError (Value × Cursor) :=
  match words.find? fun (word, _) => word.isPrefixOf cursor.rest with
  | some (word, value) => .ok (value, cursor.advance word.length)
  | none => readNumber cursor

mutual

/-- Reads a value; nothing in it is nested more deeply than the fuel. -/
def readValue : Nat → Cursor → Except JsonError (Value × Cursor)
  | 0, cursor => cursor.fail .value
  | fuel + 1, cursor =>
    match cursor.head? with
    | some '"' => do
      let (t, cursor) ← readText cursor.position (cursor.position + 1) 0 (cursor.rest.drop 1)
      return (.text t, cursor)
    | some '[' =>
      let inner := (cursor.advance 1).skipSpace
      if inner.head? = some ']' then .ok (.list [], inner.advance 1)
      else do
        let (items, cursor) ← readItems fuel inner
        return (.list items, cursor)
    | some '{' =>
      let inner := (cursor.advance 1).skipSpace
      if inner.head? = some '}' then .ok (.object [], inner.advance 1)
      else do
        let (members, cursor) ← readMembers fuel inner
        return (.object (Mapping.ofList members), cursor)
    | _ => readScalar cursor

/-- Reads the items of a list and the bracket that closes it. -/
def readItems : Nat → Cursor → Except JsonError (List Value × Cursor)
  | 0, cursor => cursor.fail .value
  | fuel + 1, cursor => do
    let (item, cursor) ← readValue fuel cursor
    let cursor := cursor.skipSpace
    match cursor.head? with
    | some ']' => return ([item], cursor.advance 1)
    | some ',' =>
      let (items, cursor) ← readItems fuel (cursor.advance 1).skipSpace
      return (item :: items, cursor)
    | _ => cursor.fail .comma

/-- Reads the members of an object and the brace that closes it. -/
def readMembers : Nat → Cursor → Except JsonError (List (Text × Value) × Cursor)
  | 0, cursor => cursor.fail .value
  | fuel + 1, cursor =>
    if cursor.head? = some '"' then do
      let (name, cursor) ← readText cursor.position (cursor.position + 1) 0 (cursor.rest.drop 1)
      let cursor := cursor.skipSpace
      if cursor.head? != some ':' then cursor.fail .colon
      else
        let (value, cursor) ← readValue fuel (cursor.advance 1).skipSpace
        let cursor := cursor.skipSpace
        match cursor.head? with
        | some '}' => return ([(name, value)], cursor.advance 1)
        | some ',' =>
          let (members, cursor) ← readMembers fuel (cursor.advance 1).skipSpace
          return ((name, value) :: members, cursor)
        | _ => cursor.fail .comma
    else cursor.fail .propertyName

end

end Json

open Json in
/-- Reads a JSON text. Of any two steps into a value one takes a character, so the fuel suffices. -/
def Value.ofJson? (source : Text) : Except JsonError Value :=
  if source.head? = some '\uFEFF' then .error ⟨.byteOrderMark, 0⟩
  else do
    let (value, cursor) ← readValue (2 * source.length + 2) (Cursor.skipSpace ⟨0, source⟩)
    let cursor := cursor.skipSpace
    if cursor.rest.isEmpty then return value else cursor.fail .extraData

end MarkedSheet
