import MarkedSheet.Proofs.Conversion.TableFile
import MarkedSheet.Proofs.Localization.Again

/-!
# Merging into a file again

A merge into a table file either writes the table or fails, and when it has failed, it fails again
in the same way (`mergeTable_cases`). After a merge that has written the table, another merge of the
same entries reads what was written: it leaves everything as it is if each entry has a key, and adds
to the file if one has none (`Work.mergeTable_again`).
-/

namespace MarkedSheet

open MarkedSheet.Localization

namespace FileTree

variable {tree made : FileTree} {location : Location}

/-- Making the folder that something is in makes no folder in its place. -/
theorem isFolder_of_makeFolder_dropLast (h : tree.makeFolder location.dropLast = .ok made)
    (hfolder : made.isFolder location) : tree.isFolder location := by
  rcases makeFolder_eq_ok h with ⟨-, rfl⟩ | ⟨-, -, -, -, rfl⟩
  · exact hfolder
  · simp only [isFolder, Bool.or_eq_true, List.isEmpty_iff, List.contains_eq_mem,
      decide_eq_true_eq, List.mem_append, List.mem_filter] at hfolder ⊢
    rcases hfolder with hnil | hthere | ⟨hnew, -⟩
    · exact .inl hnil
    · exact .inr hthere
    · obtain ⟨n, hn, htake⟩ := List.mem_map.1 hnew
      have hlength := congrArg List.length htake
      have hlt := List.mem_range.1 hn
      simp only [List.length_take, List.length_dropLast] at hlength hlt
      omega

theorem file?_makeFolder (h : tree.makeFolder location = .ok made) (other : Location) :
    made.file? other = tree.file? other := by
  rw [file?, file?, files_makeFolder h]

/-- Whether a file can be written in a folder that is there does not depend on what is written. -/
theorem writeFile_cases (tree : FileTree) (location : Location) :
    tree.Takes location ∨ tree.isFolder location
        ∧ (∀ t, tree.writeFile location t = .error (.isFolder (tree.fullPath location)))
      ∨ tree.isFolder location = false
        ∧ ∀ t, tree.writeFile location t = .error (.tooLong (tree.fullPath location)) := by
  cases hfolder : tree.isFolder location with
  | true => exact .inr (.inl ⟨rfl, fun t => by rw [writeFile, if_pos hfolder]⟩)
  | false =>
    cases hlong : tree.isLong location || tree.hasLongName location with
    | true =>
      exact .inr (.inr ⟨rfl, fun t => by
        rw [writeFile, if_neg (by simp [hfolder]), if_pos hlong]⟩)
    | false =>
      rw [Bool.or_eq_false_iff] at hlong
      exact .inl ⟨hfolder, hlong.1, hlong.2⟩

/-- What is not there, is seen not to be there, or its path is too long. -/
theorem presence_of_not_has (h : tree.has location = false) : tree.presence location = .ok false
    ∨ tree.presence location = .error (.tooLong (tree.fullPath location)) := by
  rw [presence, if_neg (by simp [h])]
  split
  · exact .inr rfl
  · exact .inl rfl

end FileTree

namespace Work

section Again

variable {α : Type} {x : Work α} {p : Progress}

/-- Taking the step once more has the same result and changes nothing more. -/
def Repeats (x : Work α) (p : Progress) : Prop :=
  x.start (x.start p).2 = x.start p

/-- The step fails, and fails again in the same way. -/
def FailsAgain (x : Work α) (p : Progress) : Prop :=
  ∃ e q, x.start p = (.error e, q) ∧ x.start q = (.error e, q)

theorem failsAgain_of_unchanged {e : Failure} (h : x.start p = (.error e, p)) : x.FailsAgain p :=
  ⟨e, p, h, h⟩

theorem FailsAgain.repeats (h : x.FailsAgain p) : x.Repeats p := by
  obtain ⟨e, q, hp, hq⟩ := h
  rw [Repeats, hp]
  exact hq

end Again

section Start

variable {p : Progress} {path : Path} {location : Location} {t : Text}

theorem start_changeTree_error {change : FileTree → Except FileError FileTree} {e : FileError}
    (h : change p.tree = .error e) : (changeTree change).start p = (.error (.file e), p) := by
  rw [changeTree, start_bind, start_get]
  simp only [h]
  rfl

theorem start_writeFile_error {e : FileError}
    (h : p.tree.makeFolder location.dropLast = .error e) :
    (writeFile location t).start p = (.error (.file e), p) := by
  rw [writeFile, start_bind, start_changeTree_error h]

/-- The folder around the file stays where the file cannot be written. -/
theorem start_writeFile_made {made : FileTree} {e : FileError}
    (hmade : p.tree.makeFolder location.dropLast = .ok made)
    (hwrite : made.writeFile location t = .error e) :
    (writeFile location t).start p = (.error (.file e), { p with tree := made }) := by
  rw [writeFile, start_bind, start_changeTree hmade]
  exact start_changeTree_error (p := { p with tree := made }) hwrite

/-- What reading the table comes to; it changes nothing. -/
theorem start_readTable_eq (location : Location) (p : Progress) : (readTable location).start p
    = match p.tree.presence location, p.tree.file? location with
      | .error e, _ => (.error (.file e), p)
      | .ok false, _ => (.ok (.ofText []), p)
      | .ok true, none => (.error (.file (.isFolder (p.tree.fullPath location))), p)
      | .ok true, some content =>
        ((content.decodeTable.map Table.ofText).mapError .encoding, p) := by
  rw [readTable, start_bind]
  rcases hthere : p.tree.presence location with e | _ | _
  · rw [start_isThere, hthere]
    rfl
  · rw [start_isThere_of_ok hthere]
    rfl
  · rw [start_isThere_of_ok hthere]
    simp only [if_true]
    rw [start_bind, start_get]
    simp only
    cases p.tree.file? location with
    | none => rfl
    | some content =>
      simp only
      rw [start_bind, start_lift]
      cases content.decodeTable <;> rfl

theorem start_mergeTable_of_error {language : Text} {entries : List Entry} {e : Failure}
    (hlocate : p.tree.locate path = .ok location)
    (hread : (readTable location).start p = (.error e, p)) :
    (mergeTable path language entries).start p = (.error e, p) := by
  rw [mergeTable, start_bind, start_locate_of_ok hlocate]
  simp only
  rw [start_bind, hread]

end Start

section Cases

variable {p : Progress} {path : Path} {location : Location} {language t : Text}
  {entries : List Entry}

/-- Where the file cannot be written, the folder around it is made but once. -/
theorem failsAgain_of_made {made : FileTree} {e : FileError}
    (hlocate : p.tree.locate path = .ok location)
    (hread : (readTable location).start p = (.ok (.ofText t), p))
    (hmade : p.tree.makeFolder location.dropLast = .ok made)
    (hwrite : ∀ t, made.writeFile location t = .error e)
    (hagain : (readTable location).start { p with tree := made }
        = (.ok (.ofText t), { p with tree := made })
      ∨ (readTable location).start { p with tree := made }
        = (.error (.file e), { p with tree := made })) :
    (mergeTable path language entries).FailsAgain p := by
  have hlocateMade : made.locate path = .ok location := by
    rw [← hlocate, ← FileTree.toGround_makeFolder hmade]
  have hthere : made.makeFolder location.dropLast = .ok made :=
    FileTree.makeFolder_of_isFolder (FileTree.isFolder_makeFolder hmade (.inr rfl))
  refine ⟨.file e, { p with tree := made },
    start_mergeTable_of_read hlocate hread (start_writeFile_made hmade (hwrite _)), ?_⟩
  rcases hagain with hread' | hread'
  · exact start_mergeTable_of_read (p := { p with tree := made }) hlocateMade hread'
      (start_writeFile_made (p := { p with tree := made }) hthere (hwrite _))
  · exact start_mergeTable_of_error (p := { p with tree := made }) hlocateMade hread'

/-- The table can be read, and then a file is what is there, if anything is; or reading it fails. -/
theorem readTable_cases (location : Location) (p : Progress) :
    (∃ t, (readTable location).start p = (.ok (.ofText t), p)
      ∧ tableText (p.tree.file? location) = .ok t
      ∧ (p.tree.has location → (p.tree.file? location).isSome))
    ∨ ∃ e, (readTable location).start p = (.error e, p) := by
  have heq := start_readTable_eq location p
  cases hpresence : p.tree.presence location with
  | error e =>
    rw [hpresence] at heq
    exact .inr ⟨_, heq⟩
  | ok there =>
    have hhas := FileTree.has_of_presence hpresence
    rw [hpresence] at heq
    cases there with
    | false =>
      have hfile : p.tree.file? location = none := by
        rw [FileTree.has, Bool.or_eq_false_iff] at hhas
        simpa using hhas.2
      rw [hfile, hhas]
      exact .inl ⟨[], heq, rfl, fun h => by cases h⟩
    | true =>
      cases hfile : p.tree.file? location with
      | none =>
        rw [hfile] at heq
        exact .inr ⟨_, heq⟩
      | some content =>
        rw [hfile] at heq
        simp only at heq
        cases hdecode : content.decodeTable with
        | error e =>
          rw [hdecode] at heq
          exact .inr ⟨_, heq⟩
        | ok t =>
          rw [hdecode] at heq
          exact .inl ⟨t, heq, hdecode, fun _ => rfl⟩

/-- Once the folder is made, a file that was there is read again; where none was, none has come. -/
theorem start_readTable_made {made : FileTree}
    (hmade : p.tree.makeFolder location.dropLast = .ok made)
    (hfile : tableText (p.tree.file? location) = .ok t)
    (hthere : p.tree.has location → (p.tree.file? location).isSome) :
    (readTable location).start { p with tree := made }
        = (.ok (.ofText t), { p with tree := made })
      ∨ made.isFolder location = false ∧ (readTable location).start { p with tree := made }
        = (.error (.file (.tooLong (made.fullPath location))), { p with tree := made }) := by
  have hsame := FileTree.file?_makeFolder hmade location
  rw [start_readTable_eq]
  simp only [hsame]
  cases hcontent : p.tree.file? location with
  | some content =>
    have hhas : made.has location := by simp [FileTree.has, hsame, hcontent]
    have hpresence : made.presence location = .ok true := if_pos hhas
    rw [hcontent] at hfile
    simp only [hpresence, show content.decodeTable = .ok t from hfile]
    exact .inl rfl
  | none =>
    rw [hcontent] at hfile hthere
    obtain rfl : [] = t := Except.ok.inj hfile
    have hfree : made.isFolder location = false := by
      by_contra hfolder
      refine absurd (hthere ?_) (by simp)
      rw [Bool.not_eq_false] at hfolder
      simp [FileTree.has, FileTree.isFolder_of_makeFolder_dropLast hmade hfolder]
    have hhas : made.has location = false := by simp [FileTree.has, hsame, hcontent, hfree]
    rcases FileTree.presence_of_not_has hhas with hpresence | hpresence
    · rw [hpresence]
      exact .inl rfl
    · rw [hpresence]
      exact .inr ⟨hfree, rfl⟩

/-- Once the table is read, a merge writes it, or fails and fails again in the same way. -/
theorem mergeTable_cases_of_read (hlocate : p.tree.locate path = .ok location)
    (hread : (readTable location).start p = (.ok (.ofText t), p))
    (hfile : tableText (p.tree.file? location) = .ok t)
    (hthere : p.tree.has location → (p.tree.file? location).isSome) :
    p.tree.Admits location ∨ (mergeTable path language entries).FailsAgain p := by
  cases hmade : p.tree.makeFolder location.dropLast with
  | error e =>
    exact .inr (failsAgain_of_unchanged
      (start_mergeTable_of_read hlocate hread (start_writeFile_error hmade)))
  | ok made =>
    have hagain := start_readTable_made hmade hfile hthere
    rcases made.writeFile_cases location with htakes | ⟨hfolder, hwrite⟩ | ⟨hfree, hwrite⟩
    · exact .inl ⟨made, hmade, htakes⟩
    · refine .inr (failsAgain_of_made hlocate hread hmade hwrite ?_)
      rcases hagain with hagain | ⟨hfree, -⟩
      · exact .inl hagain
      · rw [hfolder] at hfree
        cases hfree
    · exact .inr (failsAgain_of_made hlocate hread hmade hwrite (hagain.imp_right (·.2)))

/-- A merge can read the table and write it, or it fails, and fails again in the same way. -/
theorem mergeTable_cases (p : Progress) (path : Path) (language : Text) (entries : List Entry) :
    (∃ location t, p.tree.locate path = .ok location ∧ p.tree.Admits location
      ∧ tableText (p.tree.file? location) = .ok t)
    ∨ (mergeTable path language entries).FailsAgain p := by
  cases hlocate : p.tree.locate path with
  | error e =>
    refine .inr (failsAgain_of_unchanged (e := .file e) ?_)
    rw [mergeTable, start_bind, start_locate, hlocate]
    rfl
  | ok location =>
    rcases readTable_cases location p with ⟨t, hread, hfile, hthere⟩ | ⟨e, hread⟩
    · exact (mergeTable_cases_of_read hlocate hread hfile hthere).imp_left fun hplace =>
        ⟨location, t, rfl, hplace, hfile⟩
    · exact .inr (failsAgain_of_unchanged (start_mergeTable_of_error hlocate hread))

end Cases

section Twice

/-- The progress after a text is written into a file whose folder has been made. -/
def written (p : Progress) (location : Location) (made : FileTree) (t : Text) : Progress :=
  { p with tree := { made with files := made.files.set location (.text t) } }

variable {p : Progress} {path : Path} {location : Location} {made : FileTree} {language t : Text}

theorem file?_written : (written p location made t).tree.file? location = some (.text t) := by
  rw [written, FileTree.file?, Mapping.get?_set, if_pos rfl]

/-- A merge into a table that was written into the file. -/
theorem start_mergeTable_written (hlocate : p.tree.locate path = .ok location)
    (hmade : p.tree.makeFolder location.dropLast = .ok made) (htakes : made.Takes location)
    (hunmarked : Encoding.dropMark t = t) (language : Text) (entries : List Entry) :
    (mergeTable path language entries).start (written p location made t)
      = (.ok location,
          written p location made ((Table.ofText t).merge language entries).text) := by
  have hlocateMade : (written p location made t).tree.locate path = .ok location := by
    rw [← hlocate, ← FileTree.toGround_makeFolder hmade]
    rfl
  have hfolder : made.isFolder location.dropLast :=
    FileTree.isFolder_makeFolder hmade (.inr rfl)
  have hthere : (written p location made t).tree.makeFolder location.dropLast
      = .ok (written p location made t).tree := FileTree.makeFolder_of_isFolder hfolder
  have hread : tableText ((written p location made t).tree.file? location) = .ok t := by
    rw [file?_written]
    exact congrArg Except.ok hunmarked
  rw [start_mergeTable_text hlocateMade hthere ⟨htakes.free, htakes.short, htakes.names⟩ hread]
  simp only [written, Mapping.set_set]

/-- Merging entries into a table file that can be read and written succeeds. Merging the same
entries once more has the same result and changes nothing at all if each of them has a key, also
where the first merge has failed; if one has none, then after a merge that has succeeded the file
is changed again. -/
theorem mergeTable_again (entries : List Entry) (hlanguage : language ≠ keyColumn)
    (hunmarked : ∀ location t, p.tree.locate path = .ok location →
      tableText (p.tree.file? location) = .ok t →
      ∀ column ∈ (Grid.ofText t).columns.head?, column.head? ≠ some Encoding.byteOrderMark) :
    (∀ location, p.tree.locate path = .ok location → p.tree.Admits location →
        (∃ t, tableText (p.tree.file? location) = .ok t) →
        ((mergeTable path language entries).start p).1 = .ok location)
      ∧ ((∀ e ∈ entries, e.key ≠ []) → (mergeTable path language entries).Repeats p)
      ∧ ∀ location, ((mergeTable path language entries).start p).1 = .ok location →
        (∃ e ∈ entries, e.key = []) →
        ((mergeTable path language entries).start
            ((mergeTable path language entries).start p).2).2.tree.file? location
          ≠ ((mergeTable path language entries).start p).2.tree.file? location := by
  refine ⟨?_, ?_⟩
  · rintro location hlocate ⟨made, hmade, htakes⟩ ⟨t, hread⟩
    rw [start_mergeTable_text hlocate hmade htakes hread]
  rcases mergeTable_cases p path language entries with
    ⟨location, t, hlocate, ⟨made, hmade, htakes⟩, hread⟩ | hfails
  · -- The second merge reads what the first one has written.
    have hwritten : (mergeTable path language entries).start p = (.ok location,
        written p location made ((Table.ofText t).merge language entries).text) :=
      start_mergeTable_text hlocate hmade htakes hread language entries
    have hagain := start_mergeTable_written hlocate hmade htakes
      (dropMark_text_merge hlanguage entries (hunmarked location t hlocate hread)) language entries
    rw [Repeats, hwritten]
    simp only
    rw [hagain]
    refine ⟨fun hkeys => by rw [text_merge_again hlanguage hkeys], ?_⟩
    rintro _ ⟨⟩ ⟨e, he, hkey⟩ heq
    rw [file?_written, file?_written, Option.some.injEq, Content.text.injEq,
      text_merge_again_iff hlanguage] at heq
    exact heq e he hkey
  · refine ⟨fun _ => hfails.repeats, fun location hok => ?_⟩
    obtain ⟨e, q, hp, -⟩ := hfails
    rw [hp] at hok
    cases hok

/-- A text without a key beside one with a key. -/
def addonKeyless : List Entry := [⟨[], "x".toList⟩, ⟨"b".toList, "y".toList⟩]

theorem addon_again : "German".toList ≠ keyColumn
    ∧ (∀ location t, addon.tree.locate addonPath = .ok location →
      tableText (addon.tree.file? location) = .ok t →
      ∀ column ∈ (Grid.ofText t).columns.head?, column.head? ≠ some Encoding.byteOrderMark)
    ∧ (mergeTable addonPath "German".toList addonFirst).Repeats addon
    ∧ ((mergeTable addonPath "German".toList addonKeyless).start addon).1 = .ok addonPlace
    ∧ ((mergeTable addonPath "German".toList addonKeyless).start
          ((mergeTable addonPath "German".toList addonKeyless).start addon).2).2.tree.file?
          addonPlace
        ≠ ((mergeTable addonPath "German".toList addonKeyless).start addon).2.tree.file?
          addonPlace := by
  have hlanguage : "German".toList ≠ keyColumn := by decide
  have hunmarked : ∀ location t, addon.tree.locate addonPath = .ok location →
      tableText (addon.tree.file? location) = .ok t →
      ∀ column ∈ (Grid.ofText t).columns.head?, column.head? ≠ some Encoding.byteOrderMark := by
    intro location t hlocate ht
    obtain rfl : addonPlace = location := Except.ok.inj hlocate
    obtain rfl : addonText = t := Except.ok.inj ht
    decide
  obtain ⟨-, hrepeats, -⟩ := mergeTable_again addonFirst hlanguage hunmarked
  obtain ⟨hok, -, hchanged⟩ := mergeTable_again addonKeyless hlanguage hunmarked
  have hwritten := hok addonPlace rfl ⟨addon.tree, rfl, rfl, by decide, by decide⟩ ⟨addonText, rfl⟩
  exact ⟨hlanguage, hunmarked, hrepeats (by decide), hwritten,
    hchanged addonPlace hwritten ⟨_, List.mem_cons_self, rfl⟩⟩

/-- A column that is titled with the marker alone has texts without a key. -/
example : singleKey Kind.locMarker "hero".toList = [] := by decide

end Twice

end Work

end MarkedSheet
