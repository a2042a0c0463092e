import MarkedSheet.Text.Basic

/-!
# Comma-separated records

A record is a line of fields with commas between them. A field that starts with a quotation mark
goes on to the mark that closes it; commas and line ends inside belong to it, and a doubled mark
stands for one. What follows the closing mark up to the next comma is added as it stands. A line
ends with a line feed, a carriage return or both.
-/

namespace MarkedSheet

namespace Csv

/-- A record. -/
structure Record where
  /-- The fields, at least one. -/
  fields : List Text
  /-- Some field starts with a quotation mark. -/
  quoted : Bool
  deriving DecidableEq, Repr

namespace Record

/-- The line has no character. -/
def isVacant (r : Record) : Bool :=
  !r.quoted && r.fields == [[]]

/-- The line has nothing but spaces and tabulators. -/
def isBlank (r : Record) : Bool :=
  !r.quoted && match r.fields with
    | [field] => field.all fun c => c = ' ' || c = '\t'
    | _ => false

/-- The number of fields; a line without a character has none. -/
def size (r : Record) : Nat :=
  if r.isVacant then 0 else r.fields.length

end Record

/-- Where the reader stands. -/
inductive Place
  /-- At the start of a line. -/
  | lineStart
  /-- After a carriage return, to which a line feed may belong. -/
  | afterReturn
  /-- At the start of a field that is not the first. -/
  | fieldStart
  /-- Inside a field without marks, or after its closing mark. -/
  | bare
  /-- Between quotation marks. -/
  | quoted
  /-- After a quotation mark between quotation marks. -/
  | mark
  deriving DecidableEq, Repr

/-- What is read from a place on. -/
structure Rest where
  /-- A record is being read, or begins here. -/
  started : Bool
  /-- The rest of the field. -/
  field : Text
  /-- The other fields of the record. -/
  fields : List Text
  /-- A field that starts with a mark begins in the rest of the record. -/
  quoted : Bool
  /-- The records after it. -/
  records : List Record
  /-- The data end between quotation marks. -/
  unended : Bool
  deriving DecidableEq, Repr

namespace Rest

/-- One more character at the front of the field. -/
def push (c : Char) (rest : Rest) : Rest :=
  { rest with started := true, field := c :: rest.field }

/-- The field ends in front. -/
def nextField (rest : Rest) : Rest :=
  { rest with started := true, field := [], fields := rest.field :: rest.fields }

/-- All records from the place on. -/
def all (rest : Rest) : List Record :=
  if rest.started then ⟨rest.field :: rest.fields, rest.quoted⟩ :: rest.records else rest.records

/-- The record ends in front. -/
def nextRecord (rest : Rest) : Rest :=
  ⟨true, [], [], false, rest.all, rest.unended⟩

/-- A field between quotation marks begins in front. -/
def openQuoted (rest : Rest) : Rest :=
  { rest with started := true, quoted := true }

/-- Nothing is left. -/
def nothing (place : Place) : Rest :=
  ⟨!(place = .lineStart || place = .afterReturn), [], [], false, [], place = .quoted⟩

end Rest

/-- A quotation mark opens a field here. -/
def Place.opens : Place → Bool
  | lineStart | afterReturn | fieldStart => true
  | _ => false

/-- Reads on from a place. -/
def scan : Place → Text → Rest
  | place, [] => .nothing place
  | .quoted, c :: rest => if c = '"' then scan .mark rest else (scan .quoted rest).push c
  | place, c :: rest =>
    if place = .mark && c = '"' then (scan .quoted rest).push c
    else if place = .afterReturn && c = '\n' then scan .lineStart rest
    else if place.opens && c = '"' then (scan .quoted rest).openQuoted
    else if c = ',' then (scan .fieldStart rest).nextField
    else if c = '\n' then (scan .lineStart rest).nextRecord
    else if c = '\r' then (scan .afterReturn rest).nextRecord
    else (scan .bare rest).push c

/-- The records of a text. -/
def records (t : Text) : List Record :=
  (scan .lineStart t).all

/-- The text ends between quotation marks. -/
def isUnended (t : Text) : Bool :=
  (scan .lineStart t).unended

end Csv

end MarkedSheet
