import MarkedSheet.Csv.Writer

/-!
# Records that are written are read back

A field as it is written is read back up to the comma or the line end after it, whatever is in the
field (`scan_writeField`), so a list of records that each have a field is read back from its writing
(`records_write`). No record read back is a line without a character, because a single empty field
is written as two marks.
-/

namespace MarkedSheet

namespace Csv

variable {place : Place} {rest : Text}

theorem scan_comma (h : place ≠ .quoted) :
    scan place (',' :: rest) = (scan .fieldStart rest).nextField := by
  cases place <;> simp_all [scan, Place.opens]

theorem scan_return (h : place ≠ .quoted) :
    scan place ('\r' :: rest) = (scan .afterReturn rest).nextRecord := by
  cases place <;> simp_all [scan, Place.opens]

theorem scan_mark (h : place.opens) :
    scan place ('"' :: rest) = (scan .quoted rest).openQuoted := by
  cases place <;> simp_all [scan, Place.opens]

theorem scan_char (h : place ≠ .quoted) {c : Char} (hc : needsMarks [c] = false) :
    scan place (c :: rest) = (scan .bare rest).push c := by
  cases place <;> simp_all [scan, needsMarks]

theorem ne_quoted_of_opens (h : place.opens) : place ≠ .quoted := by
  rintro rfl
  cases h

/-- What comes after a field begins with the end of that field: it reads the same from every place
in the field that is not between marks. -/
def Closes (tail : Text) (after : Rest) : Prop :=
  after.started = true ∧ after.field = [] ∧ ∀ place ≠ .quoted, scan place tail = after

theorem closes_comma (rest : Text) : Closes (',' :: rest) (scan .fieldStart rest).nextField :=
  ⟨rfl, rfl, fun _ h => scan_comma h⟩

theorem closes_line (rest : Text) :
    Closes ('\r' :: '\n' :: rest) (scan .lineStart rest).nextRecord :=
  ⟨rfl, rfl, fun _ h => scan_return h⟩

theorem foldr_push (field : Text) {after : Rest} (h : after.started = true) :
    field.foldr Rest.push after = { after with field := field ++ after.field } := by
  induction field with
  | nil => rfl
  | cons c field ih => simp [ih, Rest.push, h]

theorem scan_bareField {tail : Text} {after : Rest} (hclosed : Closes tail after) :
    ∀ {field : Text} {place : Place}, place ≠ .quoted → needsMarks field = false →
      scan place (field ++ tail) = field.foldr Rest.push after
  | [], place, hplace, _ => hclosed.2.2 place hplace
  | c :: field, place, hplace, hmarks => by
    simp only [needsMarks, List.any_cons, Bool.or_eq_false_iff] at hmarks
    rw [List.cons_append, scan_char hplace (by simpa [needsMarks] using hmarks.1),
      scan_bareField hclosed (by simp) hmarks.2]
    rfl

theorem scan_writeField (hplace : place.opens) (field : Text) {tail : Text} {after : Rest}
    (hclosed : Closes tail after) : scan place (writeField field ++ tail)
      = { after with field := field, quoted := needsMarks field || after.quoted } := by
  obtain ⟨hstarted, hfield, htail⟩ := hclosed
  unfold writeField
  split
  next hmarks =>
    rw [List.append_assoc, List.cons_append, List.singleton_append, scan_mark hplace, scan_quoted,
      htail .mark (by simp), foldr_push field hstarted, hfield, hmarks]
    simp [Rest.openQuoted, hstarted]
  next hmarks =>
    rw [Bool.not_eq_true] at hmarks
    rw [scan_bareField ⟨hstarted, hfield, htail⟩ (ne_quoted_of_opens hplace) hmarks,
      foldr_push field hstarted, hfield, hmarks]
    simp

theorem scan_writeFields (rest : Text) : ∀ (field : Text) (fields : List Text) {place : Place},
    place.opens → scan place (Text.join [','] ((field :: fields).map writeField)
        ++ '\r' :: '\n' :: rest)
      = ⟨true, field, fields, (field :: fields).any needsMarks, (scan .lineStart rest).all,
        (scan .lineStart rest).unended⟩
  | field, [], place, hplace => by
    rw [List.map_singleton, Text.join_singleton, scan_writeField hplace field (closes_line rest)]
    simp [Rest.nextRecord]
  | field, next :: fields, place, hplace => by
    have ih : scan .fieldStart _ = _ := scan_writeFields rest next fields rfl
    rw [List.map_cons] at ih
    simp only [List.map_cons, Text.join, List.append_assoc, List.cons_append, List.nil_append]
    rw [scan_writeField hplace field (closes_comma _), ih]
    simp [Rest.nextField]

/-- Some field of the record is written between marks. -/
def isMarked (fields : List Text) : Bool :=
  fields = [[]] || fields.any needsMarks

theorem records_writeRecord {fields : List Text} (h : fields ≠ []) (rest : Text) :
    records (writeRecord fields ++ rest) = ⟨fields, isMarked fields⟩ :: records rest := by
  unfold records writeRecord isMarked
  rw [List.append_assoc]
  by_cases hempty : fields = [[]]
  · rw [if_pos hempty]
    have hmark : scan .mark ('\r' :: '\n' :: rest) = (scan .lineStart rest).nextRecord :=
      (closes_line rest).2.2 .mark (by simp)
    have hread : scan .lineStart ('"' :: '"' :: '\r' :: '\n' :: rest)
        = ((scan .lineStart rest).nextRecord).openQuoted := by
      rw [scan_mark rfl, ← hmark]
      rfl
    simp only [List.cons_append, List.nil_append]
    rw [hread, hempty]
    rfl
  · obtain ⟨field, fields, rfl⟩ := List.exists_cons_of_ne_nil h
    simp only [if_neg hempty, List.cons_append, List.nil_append]
    rw [scan_writeFields rest field fields rfl]
    simp [Rest.all, hempty]

/-- What is written is read back, record by record. -/
theorem records_write {lists : List (List Text)} (h : ∀ fields ∈ lists, fields ≠ []) :
    records (write lists) = lists.map fun fields => ⟨fields, isMarked fields⟩ := by
  induction lists with
  | nil => rfl
  | cons fields lists ih =>
    rw [write, List.flatMap_cons, records_writeRecord (h fields List.mem_cons_self)]
    exact congrArg _ (ih fun other hother => h other (List.mem_cons_of_mem _ hother))

theorem isVacant_written (fields : List Text) :
    (⟨fields, isMarked fields⟩ : Record).isVacant = false := by
  by_cases h : fields = [[]] <;> simp [Record.isVacant, isMarked, h]

end Csv

end MarkedSheet
