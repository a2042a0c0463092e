import MarkedSheet.Text.Case
import MarkedSheet.Text.Digit

/-!
# Names of sheets

No two sheets of a workbook have names that differ in case alone. A sheet that would take a name
gets the next number after it.
-/

namespace MarkedSheet

namespace SheetName

/-- The texts differ in case alone. -/
def alike (a b : Text) : Bool :=
  a.map lowerChar == b.map lowerChar

/-- The numbers that stand after a name in a text. After an occurrence the search goes on behind its
number and a comma. -/
def numbersAfter (name : Text) : Nat → Text → List Nat
  | _, [] => []
  | skip + 1, _ :: rest => numbersAfter name skip rest
  | 0, c :: rest =>
    if alike ((c :: rest).take name.length) name then
      let digits := ((c :: rest).drop name.length).takeWhile isDigitChar
      let after := (c :: rest).drop (name.length + digits.length)
      let comma := if after.head? = some ',' then 1 else 0
      let others := numbersAfter name (name.length + digits.length + comma - 1) rest
      if digits.isEmpty then others else digitsValue digits :: others
    else numbersAfter name 0 rest

/-- The name for a new sheet beside others. -/
def free (taken : List Text) (name : Text) : Text :=
  if taken.any (alike name) then
    let numbers := numbersAfter name 0 (Text.join [','] taken)
    name ++ Text.ofNat (numbers.foldl max 0 + 1)
  else name

/-- The names of sheets that are added one after another. -/
def distinct (names : List Text) : List Text :=
  names.foldl (fun taken name => taken ++ [free taken name]) []

end SheetName

end MarkedSheet
