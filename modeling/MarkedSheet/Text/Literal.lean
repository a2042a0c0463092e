import MarkedSheet.Text.Printable

/-!
# Texts in quotation marks

How a message shows a text: between apostrophes, or between quotation marks when it has apostrophes
and no quotation mark, with escapes for the mark, the backslash and whatever cannot be seen.
-/

namespace MarkedSheet

/-- The hexadecimal digits of a number, filled up with zeros to a width. -/
def hexText (width n : Nat) : Text :=
  (Nat.toDigits 16 n).leftpad width '0'

namespace Text

/-- The mark a text is shown between. -/
def quotationMark (t : Text) : Char :=
  if t.contains '\'' && !t.contains '"' then '"' else '\''

/-- The numbered escape of a character, with as many digits as it needs. -/
def numberedEscape (c : Char) : Text :=
  let n := c.toNat
  if n ≤ 0xFF then '\\' :: 'x' :: hexText 2 n
  else if n ≤ 0xFFFF then '\\' :: 'u' :: hexText 4 n
  else '\\' :: 'U' :: hexText 8 n

/-- One character of a shown text; `keeps` says which characters beyond ASCII stay as they are. -/
def literalChar (mark : Char) (keeps : Char → Bool) (c : Char) : Text :=
  if c = mark || c = '\\' then ['\\', c]
  else if c = '\t' then ['\\', 't']
  else if c = '\n' then ['\\', 'n']
  else if c = '\r' then ['\\', 'r']
  else if c.toNat < 128 then
    if c.toNat < 32 || c.toNat = 127 then numberedEscape c else [c]
  else if keeps c then [c]
  else numberedEscape c

/-- The text as a message shows it, with the characters beyond ASCII that `keeps` allows. -/
def literalWith (keeps : Char → Bool) (t : Text) : Text :=
  let mark := quotationMark t
  mark :: t.flatMap (literalChar mark keeps) ++ [mark]

/-- The text as a message shows it. -/
def literal (t : Text) : Text :=
  literalWith isPrintable t

/-- The text as a message shows it in ASCII. -/
def asciiLiteral (t : Text) : Text :=
  literalWith (fun _ => false) t

end Text

end MarkedSheet
