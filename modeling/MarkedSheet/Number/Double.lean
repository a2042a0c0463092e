import MarkedSheet.Number.Rounding
import MarkedSheet.Text.Blank

/-!
# Doubles

The binary floating-point numbers with 53 significant bits, as exact values `m * 2 ^ q`. `nearest`
gives the one nearest to a quotient, a tie going to the even `m`, and everything at or beyond
`2 ^ 1024 - 2 ^ 970` is infinite. A decimal text is read as the double nearest to it.
-/

namespace MarkedSheet

/-- A double without its sign. -/
inductive Magnitude
  /-- The number `m * 2 ^ q`. -/
  | finite (m : Nat) (q : Int)
  /-- Larger than every finite number. -/
  | infinite
  deriving DecidableEq, Repr

/-- A double. -/
inductive Double
  /-- Not a number. -/
  | nan
  /-- A number with its sign; zero has two. -/
  | signed (negative : Bool) (magnitude : Magnitude)
  deriving DecidableEq, Repr

namespace Magnitude

/-- The two factors that a power of two puts on the numerator and on the denominator. -/
def powerFactors (k : Int) : Nat × Nat :=
  (Nat.pow 2 k.toNat, Nat.pow 2 (-k).toNat)

/-- The exponent of the greatest power of two that is at most `num / den`. -/
def floorLog2 (num den : Nat) : Int :=
  let e : Int := (Nat.log2 num : Int) - Nat.log2 den
  let (up, down) := powerFactors e
  if den * up ≤ num * down then e else e - 1

/-- The double nearest to `num / den`. -/
def nearest (num den : Nat) : Magnitude :=
  if num = 0 then .finite 0 (-1074)
  else
    let q := max (floorLog2 num den - 52) (-1074)
    if 971 < q then .infinite
    else
      let (up, down) := powerFactors q
      let m := roundDiv (num * down) (den * up)
      if m < Nat.pow 2 53 then .finite m q
      else if q = 971 then .infinite
      else .finite (Nat.pow 2 52) (q + 1)

/-- The finite number as a quotient. -/
def quotient (m : Nat) (q : Int) : Nat × Nat :=
  let (up, down) := powerFactors q
  (m * up, down)

/-- The double is a whole number. -/
def isInteger : Magnitude → Bool
  | .finite m q => let (num, den) := quotient m q; num % den = 0
  | .infinite => false

/-- The whole part of a finite double, zero of an infinite one. -/
def wholePart : Magnitude → Nat
  | .finite m q => let (num, den) := quotient m q; num / den
  | .infinite => 0

/-- The double times ten thousand, rounded to a whole number. -/
def tenThousandths : Magnitude → Nat
  | .finite m q => let (num, den) := quotient m q; roundDiv (num * 10000) den
  | .infinite => 0

/-- The double with exactly four decimal places. -/
def fourPlaces : Magnitude → Text
  | .infinite => "inf".toList
  | x =>
    let n := x.tenThousandths
    Text.ofNat (n / 10000) ++ '.' :: (Text.ofNat (n % 10000)).leftpad 4 '0'

end Magnitude

/-- A decimal number as it is written: `digits * 10 ^ exponent` with a sign. -/
structure Decimal where
  negative : Bool
  digits : Nat
  exponent : Int
  deriving DecidableEq, Repr

namespace Decimal

/-- The nearest double, without its sign. Numbers whose first digit stands far from the point are
settled by its place. -/
def magnitude (d : Decimal) : Magnitude :=
  let place : Int := (Text.ofNat d.digits).length + d.exponent
  if d.digits = 0 then .finite 0 (-1074)
  else if 400 < place then .infinite
  else if place < -400 then .finite 0 (-1074)
  else .nearest (d.digits * Nat.pow 10 d.exponent.toNat) (Nat.pow 10 (-d.exponent).toNat)

/-- The nearest double. -/
def toDouble (d : Decimal) : Double :=
  .signed d.negative d.magnitude

/-- A sign, if the text starts with one, and the rest. -/
def takeSign : Text → Bool × Text
  | '-' :: rest => (true, rest)
  | '+' :: rest => (false, rest)
  | t => (false, t)

/-- The exponent that ends a decimal text: nothing, or a letter e and a whole number. -/
def exponentOf? : Text → Option Int
  | [] => some 0
  | c :: rest =>
    if c = 'e' || c = 'E' then
      let (negative, digits) := takeSign rest
      if digits.isEmpty || !digits.all isDigitChar then none
      else some (if negative then -(digitsValue digits : Int) else digitsValue digits)
    else none

/-- Reads digits with an optional fraction and an optional exponent, after an optional sign. -/
def ofText? (t : Text) : Option Decimal :=
  let (negative, t) := takeSign t
  let whole := t.takeWhile isDigitChar
  let t := t.dropWhile isDigitChar
  let (fraction, t) := match t with
    | '.' :: rest => (rest.takeWhile isDigitChar, rest.dropWhile isDigitChar)
    | _ => ([], t)
  if whole.isEmpty && fraction.isEmpty then none
  else (exponentOf? t).map fun e =>
    ⟨negative, digitsValue (whole ++ fraction), e - fraction.length⟩

end Decimal

/-- The double nearest to a decimal text; the texts `inf` and `nan` name the doubles that are no
numbers of digits. -/
def Double.ofText? (t : Text) : Option Double :=
  let (negative, bare) := Decimal.takeSign t
  if bare = "nan".toList then some .nan
  else if bare = "inf".toList then some (.signed negative .infinite)
  else (Decimal.ofText? t).map Decimal.toDouble

end MarkedSheet
