import MarkedSheet.Number.Double

/-!
# Shortest decimal text of a double

Of the decimal numbers that are read as a given double, `shortest?` gives one with the fewest
digits, and of those the nearest. For each count of digits only the two neighbours of the double on
that decimal grid need a look: if any point of the grid is read as the double, so is one of them.
-/

namespace MarkedSheet

namespace Magnitude

/-- How many decimal digits a number has. -/
def digitCount (n : Nat) : Nat :=
  (Text.ofNat n).length

/-- The exponent of the greatest power of ten that is at most `num / den`. -/
def floorLog10 (num den : Nat) : Int :=
  if den ≤ num then (digitCount (num / den) : Int) - 1
  else -(digitCount ((den + num - 1) / num - 1) : Int)

/-- The double nearest to `d * 10 ^ k`. -/
def ofGrid (d : Nat) (k : Int) : Magnitude :=
  .nearest (d * Nat.pow 10 k.toNat) (Nat.pow 10 (-k).toNat)

/-- The point `d * 10 ^ k` of a decimal grid next to `num / den` that is read as `x`, the nearer of
two, the even of two equally near. -/
def onGrid? (x : Magnitude) (num den : Nat) (k : Int) : Option Nat :=
  let num' := num * Nat.pow 10 (-k).toNat
  let den' := den * Nat.pow 10 k.toNat
  let low := num' / den'
  let lowReads := ofGrid low k = x
  let highReads := ofGrid (low + 1) k = x
  if lowReads && highReads then some (roundDiv num' den')
  else if lowReads then some low
  else if highReads then some (low + 1)
  else none

/-- Digits and exponent of the shortest decimal that is read as a finite double. -/
def shortest? (m : Nat) (q : Int) : Option (Nat × Int) :=
  let (num, den) := quotient m q
  let top := floorLog10 num den
  (List.range 17).findSome? fun (extra : Nat) =>
    let k := top - extra
    (onGrid? (.finite m q) num den k).map fun d => (d, k)

/-- A text of digits without the zeros it ends with. -/
def stripZeros (t : Text) : Text :=
  (t.reverse.dropWhile (· = '0')).reverse

/-- The decimal `0.digits * 10 ^ point` in writing: with a plain point where that stands between
three zeros after it and sixteen digits before it, else with an exponent of at least two digits. -/
def decimalText (digits : Text) (point : Int) : Text :=
  if point < -3 || 16 < point then
    let e := point - 1
    let fraction := digits.drop 1
    digits.take 1 ++ (if fraction.isEmpty then [] else '.' :: fraction)
      ++ 'e' :: (if e < 0 then '-' else '+') :: (Text.ofNat e.natAbs).leftpad 2 '0'
  else if point ≤ 0 then "0.".toList ++ List.replicate (-point).toNat '0' ++ digits
  else
    let whole := (digits.take point.toNat).rightpad point.toNat '0'
    let fraction := digits.drop point.toNat
    whole ++ '.' :: (if fraction.isEmpty then ['0'] else fraction)

/-- The shortest text that is read as the double. Seventeen digits always suffice. -/
def text : Magnitude → Text
  | .infinite => "inf".toList
  | .finite 0 _ => "0.0".toList
  | .finite m q =>
    match shortest? m q with
    | none => []
    | some (d, k) =>
      let digits := Text.ofNat d
      decimalText (stripZeros digits) (digits.length + k)

end Magnitude

end MarkedSheet
