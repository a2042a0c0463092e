import MarkedSheet.Number.Double

/-!
# Whole numbers in writing

A whole number is an optional sign and digits of any script, with white space around them and single
low lines between digits.
-/

namespace MarkedSheet

/-- White space around a whole number: the blanks but for the information separators. -/
def isNumberSpace (c : Char) : Bool :=
  isBlankChar c && !(28 ≤ c.toNat && c.toNat ≤ 31)

/-- Digits, single low lines between them left out. The flag tells that a digit stands before. -/
def joinDigits? : Bool → Text → Option Text
  | after, [] => if after then some [] else none
  | after, c :: rest =>
    if isDigitChar c then (joinDigits? true rest).map (c :: ·)
    else if c = '_' && after && !rest.isEmpty then joinDigits? false rest
    else none

/-- Reads a whole number. -/
def readInt? (t : Text) : Option Int :=
  let t := ((t.dropWhile isNumberSpace).reverse.dropWhile isNumberSpace).reverse
  let (negative, digits) := Decimal.takeSign t
  (joinDigits? false digits).map fun digits =>
    if negative then -(digitsValue digits : Int) else digitsValue digits

end MarkedSheet
