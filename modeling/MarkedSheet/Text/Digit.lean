import MarkedSheet.Text.Basic

/-!
# Decimal digits

The decimal digits of every script (general category Nd of Unicode 14). They come in runs of ten,
so the table has the zero of each run. `digitsValue` reads a run of digits in base ten.
-/

namespace MarkedSheet

/-- The code points of the digits zero. -/
def digitZeros : List Nat := [
  48, 1632, 1776, 1984, 2406, 2534, 2662, 2790, 2918, 3046, 3174, 3302, 3430, 3558, 3664, 3792,
  3872, 4160, 4240, 6112, 6160, 6470, 6608, 6784, 6800, 6992, 7088, 7232, 7248, 42528, 43216,
  43264, 43472, 43504, 43600, 44016, 65296, 66720, 68912, 69734, 69872, 69942, 70096, 70384,
  70736, 70864, 71248, 71360, 71472, 71904, 72016, 72784, 73040, 73120, 92768, 92864, 93008,
  120782, 120792, 120802, 120812, 120822, 123200, 123632, 125264, 130032]

/-- The value of a decimal digit of any script. -/
def digitValue? (c : Char) : Option Nat :=
  let n := c.toNat
  digitZeros.findSome? fun base => if base ≤ n && n < base + 10 then some (n - base) else none

/-- A decimal digit of some script. -/
def isDigitChar (c : Char) : Bool :=
  (digitValue? c).isSome

/-- The number that digits stand for in base ten; a character that is no digit counts as zero. -/
def digitsValue (t : Text) : Nat :=
  t.foldl (fun value c => 10 * value + (digitValue? c).getD 0) 0

/-- The value of a hexadecimal digit. -/
def hexValue? (c : Char) : Option Nat :=
  if '0' ≤ c ∧ c ≤ '9' then some (c.toNat - 48)
  else if 'a' ≤ c ∧ c ≤ 'f' then some (c.toNat - 87)
  else if 'A' ≤ c ∧ c ≤ 'F' then some (c.toNat - 55)
  else none

@[simp] theorem digitsValue_nil : digitsValue [] = 0 := rfl

theorem digitsValue_concat (t : Text) (c : Char) :
    digitsValue (t ++ [c]) = 10 * digitsValue t + (digitValue? c).getD 0 := by
  simp [digitsValue]

end MarkedSheet
