import MarkedSheet.Csv.Reader

/-!
# Writing comma-separated records

A field is written between quotation marks if it has a comma, a mark or a line end in it, and marks
inside are doubled. A record of a single empty field is written as two marks, so that its line is
not empty. `scan_quoted` says that what stands between marks is read back.
-/

namespace MarkedSheet

namespace Csv

/-- The field has to be written between quotation marks. -/
def needsMarks (field : Text) : Bool :=
  field.any fun c => c = ',' || c = '"' || c = '\r' || c = '\n'

/-- The text with its quotation marks doubled. -/
def doubleMarks (field : Text) : Text :=
  field.flatMap fun c => if c = '"' then ['"', '"'] else [c]

/-- A field as it is written. -/
def writeField (field : Text) : Text :=
  if needsMarks field then '"' :: doubleMarks field ++ ['"'] else field

/-- A record as it is written, with the end of its line. -/
def writeRecord (fields : List Text) : Text :=
  (if fields = [[]] then ['"', '"'] else Text.join [','] (fields.map writeField)) ++ ['\r', '\n']

/-- Records as they are written. -/
def write (records : List (List Text)) : Text :=
  records.flatMap writeRecord

theorem scan_quoted (field rest : Text) :
    scan .quoted (doubleMarks field ++ '"' :: rest)
      = field.foldr Rest.push (scan .mark rest) := by
  induction field with
  | nil => simp [doubleMarks, scan]
  | cons c field ih =>
    by_cases h : c = '"'
    · subst h
      simpa [doubleMarks, scan] using congrArg (Rest.push '"') ih
    · simpa [doubleMarks, scan, h] using congrArg (Rest.push c) ih

end Csv

end MarkedSheet
