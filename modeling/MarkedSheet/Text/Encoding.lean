import MarkedSheet.Text.Literal

/-!
# UTF-8

Octets are read as the characters they encode. Where they are not well formed, the error says which
octets are at fault: an octet that can start no character, a sequence that an octet breaks off, or
one that the end of the data breaks off.
-/

namespace MarkedSheet

/-- Why octets are not well-formed UTF-8. -/
inductive EncodingFault
  /-- The octet starts no character. -/
  | start
  /-- The octets that came so far are not continued by the next. -/
  | continuation
  /-- The data end within a character. -/
  | ended
  deriving DecidableEq, Repr

/-- Octets at fault: where they begin and which they are. -/
structure EncodingError where
  fault : EncodingFault
  position : Nat
  octets : List UInt8
  deriving DecidableEq, Repr

/-- The description of a fault. -/
def EncodingFault.message : EncodingFault → String
  | .start => "invalid start byte"
  | .continuation => "invalid continuation byte"
  | .ended => "unexpected end of data"

/-- The description of an error. -/
def EncodingError.message (e : EncodingError) : String :=
  match e.octets with
  | [octet] =>
    let digits := String.ofList (hexText 2 octet.toNat)
    s!"'utf-8' codec can't decode byte 0x{digits} in position {e.position}: {e.fault.message}"
  | _ =>
    let last := e.position + e.octets.length - 1
    s!"'utf-8' codec can't decode bytes in position {e.position}-{last}: {e.fault.message}"

namespace Encoding

/-- How many octets continue a character that starts with this octet, with the least and the
greatest first of them. -/
def tails? (octet : UInt8) : Option (Nat × UInt8 × UInt8) :=
  if octet < 0x80 then some (0, 0x80, 0xBF)
  else if octet < 0xC2 then none
  else if octet < 0xE0 then some (1, 0x80, 0xBF)
  else if octet = 0xE0 then some (2, 0xA0, 0xBF)
  else if octet = 0xED then some (2, 0x80, 0x9F)
  else if octet < 0xF0 then some (2, 0x80, 0xBF)
  else if octet = 0xF0 then some (3, 0x90, 0xBF)
  else if octet < 0xF4 then some (3, 0x80, 0xBF)
  else if octet = 0xF4 then some (3, 0x80, 0x8F)
  else none

/-- Reads `count` octets that continue a character, of which the first lies between `low` and
`high`, onto the code point read so far. A fault says how many octets were good. -/
def readTails : Nat → UInt8 → UInt8 → Nat → Nat → List UInt8 →
    Except (EncodingFault × Nat) (Nat × List UInt8)
  | 0, _, _, _, code, rest => .ok (code, rest)
  | _ + 1, _, _, good, _, [] => .error (.ended, good)
  | count + 1, low, high, good, code, octet :: rest =>
    if low ≤ octet && octet ≤ high then
      readTails count 0x80 0xBF (good + 1) (code * 64 + (octet.toNat - 0x80)) rest
    else .error (.continuation, good)

/-- The part of the first octet that belongs to the code point. -/
def leadValue (count : Nat) (octet : UInt8) : Nat :=
  match count with
  | 0 => octet.toNat
  | 1 => octet.toNat - 0xC0
  | 2 => octet.toNat - 0xE0
  | _ => octet.toNat - 0xF0

/-- Reads one character, and says how many octets it took. -/
def readChar (octet : UInt8) (rest : List UInt8) :
    Except (EncodingFault × Nat) (Char × Nat × List UInt8) :=
  match tails? octet with
  | none => .error (.start, 1)
  | some (count, low, high) =>
    match readTails count low high 1 (leadValue count octet) rest with
    | .ok (code, rest) => .ok (Char.ofNat code, count + 1, rest)
    | .error fault => .error fault

/-- Reads characters from a position on, at most as many as there are octets. -/
def decodeFrom : Nat → Nat → List UInt8 → Except EncodingError Text
  | _, _, [] => .ok []
  | 0, _, _ :: _ => .ok []
  | fuel + 1, position, octet :: rest =>
    match readChar octet rest with
    | .error (fault, good) => .error ⟨fault, position, (octet :: rest).take good⟩
    | .ok (c, width, after) =>
      match decodeFrom fuel (position + width) after with
      | .ok t => .ok (c :: t)
      | .error e => .error e

/-- The characters that octets encode. -/
def decode (octets : List UInt8) : Except EncodingError Text :=
  decodeFrom octets.length 0 octets

/-- The number of octets that encode a text. -/
def size (t : Text) : Nat :=
  t.foldr (fun c octets => c.utf8Size + octets) 0

/-- The mark that may stand at the front of an encoded text. -/
def byteOrderMark : Char := '\uFEFF'

/-- The text without a byte order mark at its front. -/
def dropMark : Text → Text
  | [] => []
  | c :: rest => if c = byteOrderMark then rest else c :: rest

end Encoding

end MarkedSheet
