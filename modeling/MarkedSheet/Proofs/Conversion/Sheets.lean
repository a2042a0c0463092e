import MarkedSheet.Conversion.Output

/-!
# How a sheet is converted

Whether a sheet is converted at all is decided before its data rows are written, and neither the
choice of the flat list nor that of Latin letters has a part in it (`convert_cases`). What is
written for a sheet that is no flat list are the lines of its objects (`outputOf_result`), and only
such a sheet gives localization entries (`outputOf_entries`).
-/

namespace MarkedSheet

namespace Logged

variable {α β ε : Type}

theorem entries_bind {x : Logged α} {f : α → Logged β} (h : ∀ a, (f a).entries = []) :
    (x >>= f).entries = x.entries := by
  obtain ⟨printed, entries, result⟩ := x
  cases result with
  | error e => rfl
  | ok a => rw [bind_ok, h a, List.append_nil]

theorem result_bind (x : Logged α) (f : α → Logged β) :
    (x >>= f).result = x.result >>= fun a => (f a).result := by
  obtain ⟨printed, entries, result⟩ := x
  cases result <;> rfl

theorem result_bind_eq_ok {x : Logged α} {f : α → Logged β} {b : β} :
    (x >>= f).result = .ok b ↔ ∃ a, x.result = .ok a ∧ (f a).result = .ok b := by
  obtain ⟨printed, entries, result⟩ := x
  cases result with
  | error e => simp
  | ok a => simp

theorem map_some_eq_ok {x : Except ε α} {a : α} : x.map some = .ok (some a) ↔ x = .ok a := by
  cases x with
  | error e => simp [Except.map]
  | ok b => simp [Except.map]

@[simp] theorem lift_ok (cause : ε → ConversionError) (a : α) :
    lift cause (.ok a) = ⟨[], [], .ok a⟩ := rfl

@[simp] theorem lift_error (cause : ε → ConversionError) (e : ε) :
    (lift cause (.error e) : Logged α) = ⟨[], [], .error (cause e)⟩ := rfl

theorem lift_result_eq_ok {cause : ε → ConversionError} {x : Except ε α} {a : α} :
    (lift cause x).result = .ok a ↔ x = .ok a := by
  cases x with
  | error e => simp
  | ok b => simp

theorem lift_entries (cause : ε → ConversionError) (x : Except ε α) :
    (lift cause x).entries = [] := by
  cases x <;> rfl

end Logged

namespace Sheet

open Logged

/-- The options with a choice for sheets of two columns and one for Latin letters. -/
abbrev styled (o : Options) (simple latin : Bool) : Options :=
  { o with autoSimple := simple, transliterate := latin }

/-- Options that ask for little. -/
def bareOptions : Options where
  ignored := ⟨.one false [.span 35 35], []⟩
  verbose := false
  transliterate := false
  aliases := []
  readings := []
  indent := ['\t']
  autoSimple := false
  headerOffset := 0
  extension := ".txt".toList
  emptyToken := []
  noteComments := false
  inferRootName := false
  locPath := []
  locLanguage := []
  locTemplate := Localization.usualTemplate

/-- Nothing is written, and nothing was found. -/
def LeavesOut (x : Logged (Option Output)) : Prop :=
  x.entries = [] ∧ ∀ output, x.result ≠ .ok (some output)

theorem leavesOut_skip (o : Options) (name : Text) (reason : String) :
    LeavesOut (skip o name reason) :=
  ⟨rfl, fun _ h => (by cases h)⟩

theorem leavesOut_error (printed : List Text) (e : ConversionError) :
    LeavesOut ⟨printed, [], .error e⟩ :=
  ⟨rfl, fun _ h => (by cases h)⟩

variable (lexicon : Pinyin.Lexicon) (o : Options) (s : Sheet)

theorem writtenName_entries (name : Text) : (writtenName lexicon o name).entries = [] := by
  unfold writtenName
  split
  · rw [entries_bind fun _ => rfl]
    exact lift_entries _ _
  · rfl

theorem convertNamed_cases (name : Text) :
    (∀ simple latin, LeavesOut (convertNamed lexicon (styled o simple latin) s name))
    ∨ ∃ titles rows notes,
      s.titleRow = .ok titles ∧ s.dataRows = .ok rows ∧ s.noteRow = .ok notes
      ∧ ∀ simple latin, convertNamed lexicon (styled o simple latin) s name
        = (outputOf lexicon (styled o simple latin) s name titles
          (page o s (.ofTitles titles) rows notes) >>= fun output => return some output) := by
  by_cases hempty : s.rows.isEmpty
  · exact .inl fun _ _ => by
      rw [convertNamed, if_pos hempty]
      exact leavesOut_skip ..
  by_cases hheader : !s.hasHeaderRows
  · exact .inl fun _ _ => by
      rw [convertNamed, if_neg hempty, if_pos hheader]
      exact leavesOut_skip ..
  have hnamed : ∀ o', convertNamed lexicon o' s name
      = (lift .range s.dataRows >>= fun rows =>
        if rows.isEmpty then skip o' name "no data rows"
        else do
          let titles ← lift .range s.titleRow
          let notes ← lift .range s.noteRow
          let output ← outputOf lexicon o' s name titles (page o' s (.ofTitles titles) rows notes)
          return some output) := fun o' => by
    rw [convertNamed, if_neg hempty, if_neg hheader]
  simp only [hnamed]
  cases hrows : s.dataRows with
  | error e => exact .inl fun _ _ => leavesOut_error ..
  | ok rows =>
    by_cases hnone : rows.isEmpty
    · exact .inl fun _ _ => by
        simp only [lift_ok, bind_ok, hnone, if_true, List.nil_append]
        exact leavesOut_skip ..
    cases htitles : s.titleRow with
    | error e =>
      exact .inl fun _ _ => by
        simp only [lift_ok, lift_error, bind_ok, bind_error, hnone, List.nil_append]
        exact leavesOut_error ..
    | ok titles =>
      cases hnotes : s.noteRow with
      | error e =>
        exact .inl fun _ _ => by
          simp only [lift_ok, lift_error, bind_ok, bind_error, hnone, List.nil_append]
          exact leavesOut_error ..
      | ok notes =>
        refine .inr ⟨titles, rows, notes, rfl, rfl, rfl, fun simple latin => ?_⟩
        simp only [lift_ok, bind_ok, hnone, List.nil_append]
        rfl

/-- A sheet is left out, or it comes to what is written for its data rows, whatever the choice for
sheets of two columns and for Latin letters. -/
theorem convert_cases :
    (∀ simple latin, LeavesOut (convert lexicon (styled o simple latin) s))
    ∨ ∃ name titles rows notes,
      s.titleRow = .ok titles ∧ s.dataRows = .ok rows ∧ s.noteRow = .ok notes
      ∧ ∀ simple latin,
        (convert lexicon (styled o simple latin) s).entries
          = (outputOf lexicon (styled o simple latin) s name titles
            (page o s (.ofTitles titles) rows notes)).entries
        ∧ (convert lexicon (styled o simple latin) s).result
          = (outputOf lexicon (styled o simple latin) s name titles
            (page o s (.ofTitles titles) rows notes)).result.map some := by
  by_cases hignored : o.ignores s.name
  · exact .inl fun _ _ => by
      rw [convert, if_pos (by exact hignored)]
      exact leavesOut_skip ..
  have hconvert : ∀ simple latin, convert lexicon (styled o simple latin) s
      = (writtenName lexicon o s.name >>= fun name =>
        convertNamed lexicon (styled o simple latin) s name) := fun _ _ => by
    rw [convert, if_neg (by exact hignored)]
    rfl
  simp only [hconvert]
  have hentries := writtenName_entries lexicon o s.name
  generalize writtenName lexicon o s.name = written at hentries
  obtain ⟨printed, entries, result⟩ := written
  obtain rfl : entries = [] := hentries
  cases result with
  | error e => exact .inl fun _ _ => leavesOut_error ..
  | ok name =>
    simp only [bind_ok, List.nil_append]
    rcases convertNamed_cases lexicon o s name with h | ⟨titles, rows, notes, ht, hr, hn, h⟩
    · exact .inl h
    · refine .inr ⟨name, titles, rows, notes, ht, hr, hn, fun simple latin => ?_⟩
      rw [h]
      refine ⟨entries_bind fun _ => rfl, ?_⟩
      rw [result_bind]
      rfl

section Bodies

variable (name : Text) (page : Page)

theorem warn_eq (ws : List Warning) :
    Logged.warn name ws = ⟨ws.map (warningLine name), [], .ok ()⟩ :=
  rfl

theorem flatBody_entries : (flatBody o name page).entries = [] := by
  unfold flatBody
  rw [entries_bind fun _ => rfl]
  exact lift_entries _ _

theorem harvested_entries :
    (harvested o name page).entries = (Localization.harvest page o.locTemplate).entries := by
  simp only [harvested, warn_eq, note, bind_ok, List.nil_append]
  cases (Localization.harvest page o.locTemplate).fault with
  | some e => exact List.append_nil _
  | none => exact List.append_nil _

/-- A harvest without a fault tells its warnings and, if that is wanted, how much it has found. -/
theorem harvested_eq {entries : List Localization.Entry} {warnings : List Warning}
    (h : Localization.harvest page o.locTemplate = ⟨entries, warnings, none⟩) :
    harvested o name page = ⟨warnings.map (warningLine name) ++
      (if o.verbose && entries.length != 0 then
        [sheetLine name (Text.ofNat entries.length ++ " localization entries".toList)] else []),
      entries, .ok warnings⟩ := by
  simp only [harvested, h, warn_eq, note, print, bind_ok, pure_eq, List.nil_append, List.append_nil]

theorem objectBody_entries :
    (objectBody o name page).entries = (Localization.harvest page o.locTemplate).entries := by
  unfold objectBody
  rw [entries_bind fun found => ?_]
  · exact harvested_entries o name page
  · simp only [warn_eq, bind_ok, List.nil_append]
    rw [entries_bind fun _ => rfl]
    exact lift_entries _ _

theorem writtenLines_entries (lines : List Text) : (writtenLines lexicon o lines).entries = [] := by
  unfold writtenLines
  split
  · exact lift_entries _ _
  · rfl

/-- The lines of a sheet inside its root block. -/
def bodyOf (o : Options) (name : Text) (page : Page) : Logged Body :=
  if o.autoSimple && page.schema.isSimple then flatBody o name page else objectBody o name page

theorem outputOf_eq (titles : Row) : outputOf lexicon o s name titles page
    = Logged.warn name (titleWarnings titles) >>= fun _ => bodyOf o name page >>= fun body =>
      writtenLines lexicon o body.lines >>= fun lines => pure {
        sheetName := name
        fileName := name ++ o.extension
        rootName := body.rootName
        text := KeyValues.document s.source name body.rootName lines
        simple := o.autoSimple && page.schema.isSimple
        warnings := titleWarnings titles ++ body.warnings } := by
  unfold outputOf bodyOf
  generalize (o.autoSimple && page.schema.isSimple) = simple
  cases simple <;> rfl

/-- A flat list gives no localization entries, and all other sheets give what is harvested. -/
theorem outputOf_entries (titles : Row) :
    (outputOf lexicon o s name titles page).entries
      = if o.autoSimple && page.schema.isSimple then []
        else (Localization.harvest page o.locTemplate).entries := by
  rw [outputOf_eq, warn_eq, bind_ok, List.nil_append]
  rw [entries_bind fun body => ?_]
  · unfold bodyOf
    split
    · exact flatBody_entries o name page
    · exact objectBody_entries o name page
  · rw [entries_bind fun _ => rfl]
    exact writtenLines_entries lexicon o body.lines

/-- The lines of the objects are those of the document of the page. -/
theorem objectBody_lines {body : Body} (h : (objectBody o name page).result = .ok body) :
    (page.document o.indent 1).result = .ok body.lines := by
  unfold objectBody at h
  obtain ⟨found, -, h⟩ := result_bind_eq_ok.1 h
  obtain ⟨-, -, h⟩ := result_bind_eq_ok.1 h
  obtain ⟨lines, hlines, h⟩ := result_bind_eq_ok.1 h
  cases h
  exact lift_result_eq_ok.1 hlines

theorem outputOf_result {titles : Row} {output : Output} :
    (outputOf lexicon o s name titles page).result = .ok output
      ↔ ∃ body lines, (bodyOf o name page).result = .ok body
        ∧ (writtenLines lexicon o body.lines).result = .ok lines
        ∧ output = {
          sheetName := name
          fileName := name ++ o.extension
          rootName := body.rootName
          text := KeyValues.document s.source name body.rootName lines
          simple := o.autoSimple && page.schema.isSimple
          warnings := titleWarnings titles ++ body.warnings } := by
  rw [outputOf_eq, warn_eq, bind_ok]
  constructor
  · intro h
    obtain ⟨body, hbody, h⟩ := result_bind_eq_ok.1 h
    obtain ⟨lines, hlines, h⟩ := result_bind_eq_ok.1 h
    cases h
    exact ⟨body, lines, hbody, hlines, rfl⟩
  · rintro ⟨body, lines, hbody, hlines, rfl⟩
    exact result_bind_eq_ok.2 ⟨body, hbody, result_bind_eq_ok.2 ⟨lines, hlines, rfl⟩⟩

end Bodies

end Sheet

end MarkedSheet
