import MarkedSheet.Number.Double

/-!
# Numerals

A numeral is an optional sign and digits of any script, then possibly a point and more digits. It is
read as the nearest double; whether it counts as a whole number is asked of that double.
-/

namespace MarkedSheet

/-- A numeral: its sign and the digits before and after the point. -/
structure Numeral where
  negative : Bool
  whole : Text
  fraction : Text
  deriving DecidableEq, Repr

namespace Numeral

/-- Reads a text as a numeral. -/
def ofText? (t : Text) : Option Numeral :=
  let (negative, t) := Decimal.takeSign t
  let whole := t.takeWhile isDigitChar
  if whole.isEmpty then none
  else match t.dropWhile isDigitChar with
    | [] => some ⟨negative, whole, []⟩
    | c :: rest => if c = '.' && rest.all isDigitChar then some ⟨negative, whole, rest⟩ else none

/-- The double nearest to the numeral, without its sign. -/
def magnitude (n : Numeral) : Magnitude :=
  .nearest (digitsValue (n.whole ++ n.fraction)) (Nat.pow 10 n.fraction.length)

/-- The numeral with exactly four decimal places. -/
def fourPlaces (n : Numeral) : Text :=
  (if n.negative then ['-'] else []) ++ n.magnitude.fourPlaces

end Numeral

end MarkedSheet
