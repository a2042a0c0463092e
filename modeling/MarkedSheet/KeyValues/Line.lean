import MarkedSheet.KeyValues.Quote
import MarkedSheet.Text.Blank

/-!
# Lines of a key-value file

A line is indented by its depth and holds a comment, a pair, the name of a container with the brace
that opens it, or the brace that closes it.
-/

namespace MarkedSheet

namespace KeyValues

/-- The indentation at a depth; none below zero. An empty unit stands for a tab. -/
def indentation (unit : Text) (depth : Int) : Text :=
  (List.replicate depth.toNat (if unit.isEmpty then ['\t'] else unit)).flatten

/-- A value that is nested text already: it starts with a brace. -/
def isNestedText (value : Text) : Bool :=
  ['{'].isPrefixOf value.trimStart

/-- A pair in writing. Nested text is not quoted. -/
def pairText (key value : Text) : Text :=
  quote key ++ ' ' :: if isNestedText value then value.trim else quote value

/-- What opens a container. -/
def openText (name : Text) : Text :=
  quote name ++ [' ', '{']

/-- What closes a container. -/
def closeText : Text := ['}']

/-- A comment in writing. -/
def commentText (content : Text) : Text :=
  '/' :: '/' :: ' ' :: content

section Lines

variable (unit : Text) (depth : Int)

/-- The line of a comment. -/
def commentLine (content : Text) : Text :=
  indentation unit depth ++ commentText content

/-- The line of a pair. -/
def pairLine (key value : Text) : Text :=
  indentation unit depth ++ pairText key value

/-- The line that opens a container. -/
def openLine (name : Text) : Text :=
  indentation unit depth ++ openText name

/-- The line that closes a container. -/
def closeLine : Text :=
  indentation unit depth ++ closeText

end Lines

end KeyValues

end MarkedSheet
