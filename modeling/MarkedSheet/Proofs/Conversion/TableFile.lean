import MarkedSheet.Proofs.Conversion.Steps
import MarkedSheet.Proofs.Localization.Grid

/-!
# The table in its file

Where a file can be written and what is there can be read, entries are merged into the grid of the
file and no other file is changed (`start_mergeTable`). The grid that is written is read back, so
two merges leave what one merge of all entries leaves (`Work.mergeTable_exact`).
-/

namespace MarkedSheet

open MarkedSheet.Localization

namespace FileTree

variable {tree made : FileTree} {location other : Location} {t : Text}

/-- A file can be written at the location, in a folder that is there: no folder is in its place, and
no name is too long. -/
structure Takes (tree : FileTree) (location : Location) : Prop where
  free : tree.isFolder location = false
  short : tree.isLong location = false
  names : tree.hasLongName location = false

/-- A file can be written at the location: the folder it is in is there or can be made, and nothing
hinders the file in it. -/
def Admits (tree : FileTree) (location : Location) : Prop :=
  ∃ made, tree.makeFolder location.dropLast = .ok made ∧ made.Takes location

theorem writeFile_of_takes (h : tree.Takes location) (t : Text) :
    tree.writeFile location t = .ok { tree with files := tree.files.set location (.text t) } := by
  rw [writeFile, h.free, h.short, h.names]
  rfl

theorem makeFolder_of_isFolder (h : tree.isFolder location) :
    tree.makeFolder location = .ok tree :=
  if_pos h

theorem mem_pathTo (h : location ≠ []) : location ∈ pathTo location := by
  have hlength := List.length_pos_iff.2 h
  refine List.mem_map.2 ⟨location.length - 1, List.mem_range.2 (by omega), ?_⟩
  rw [Nat.sub_add_cancel hlength, List.take_length]

theorem hasLongName_of_mem_pathTo (h : tree.hasLongName location = false)
    (hother : other ∈ pathTo location) : tree.hasLongName other = false := by
  obtain ⟨n, -, rfl⟩ := List.mem_map.1 hother
  unfold hasLongName at h ⊢
  rw [List.any_eq_false] at h ⊢
  exact fun name hname => h name (List.mem_of_mem_take hname)

/-- Where no name is too long, it is seen whether something is there. -/
theorem presence_of_short (hlong : tree.isLong location = false)
    (hnames : tree.hasLongName location = false) :
    tree.presence location = .ok (tree.has location) := by
  unfold presence
  split
  next h => rw [h]
  next h =>
    rw [if_neg, eq_false_of_ne_true h]
    rw [hlong, Bool.false_or, Option.any_eq_true]
    rintro ⟨other, hother, hname⟩
    rw [hasLongName_of_mem_pathTo hnames (List.mem_of_find?_eq_some hother)] at hname
    cases hname

/-- Folders that are there stay when a folder is made. -/
theorem isFolder_makeFolder (h : tree.makeFolder location = .ok made)
    (hother : tree.isFolder other ∨ other = location) : made.isFolder other := by
  rcases makeFolder_eq_ok h with ⟨hthere, rfl⟩ | ⟨hthere, -, -, -, rfl⟩
  · rcases hother with hother | rfl
    · exact hother
    · exact hthere
  · rcases hother with hother | rfl
    · simp only [isFolder, Bool.or_eq_true, List.contains_eq_mem, decide_eq_true_eq] at hother ⊢
      exact hother.imp_right (List.mem_append_left _)
    · have hne : other ≠ [] := by
        rintro rfl
        cases hthere
      simp only [isFolder, Bool.or_eq_true, List.contains_eq_mem, decide_eq_true_eq]
      refine .inr (List.mem_append_right _ (List.mem_filter.2 ⟨mem_pathTo hne, ?_⟩))
      simpa [isFolder] using hthere

end FileTree

/-- The text of a table in a file; no file stands for an empty one. -/
def tableText : Option Content → Except EncodingError Text
  | none => .ok []
  | some content => content.decodeTable

namespace Work

section Start

variable {p : Progress} {path : Path} {location : Location} {made : FileTree} {t : Text}

theorem start_changeTree {change : FileTree → Except FileError FileTree} {tree : FileTree}
    (h : change p.tree = .ok tree) : (changeTree change).start p = (.ok (), { p with tree }) := by
  rw [changeTree, start_bind, start_get]
  simp only [h]
  rfl

theorem start_writeFile (hmade : p.tree.makeFolder location.dropLast = .ok made)
    (htakes : made.Takes location) : (writeFile location t).start p
      = (.ok (), { p with tree := { made with files := made.files.set location (.text t) } }) := by
  rw [writeFile, start_bind, start_changeTree hmade]
  exact start_changeTree (p := { p with tree := made }) (FileTree.writeFile_of_takes htakes t)

theorem start_readTable (hthere : p.tree.presence location = .ok (p.tree.has location))
    (hfree : p.tree.isFolder location = false)
    (hread : tableText (p.tree.file? location) = .ok t) :
    (readTable location).start p = (.ok (.ofText t), p) := by
  rw [readTable, start_bind, start_isThere_of_ok hthere]
  simp only [FileTree.has, hfree, Bool.false_or]
  cases hfile : p.tree.file? location with
  | none =>
    rw [hfile] at hread
    obtain rfl : [] = t := by simpa [tableText] using hread
    rfl
  | some content =>
    rw [hfile] at hread
    simp only [Option.isSome_some, if_true]
    rw [start_bind, start_get]
    simp only [hfile]
    rw [start_bind, show content.decodeTable = .ok t from hread]
    rfl

/-- Once the table is read, all depends on whether the file can be written. -/
theorem start_mergeTable_of_read {table : Table} (hlocate : p.tree.locate path = .ok location)
    (hread : (readTable location).start p = (.ok table, p)) {language : Text}
    {entries : List Entry} {written : Except Failure Unit} {q : Progress}
    (hwrite : (writeFile location (table.merge language entries).text).start p = (written, q)) :
    (mergeTable path language entries).start p = (written.map fun _ => location, q) := by
  rw [mergeTable, start_bind, start_locate_of_ok hlocate]
  simp only
  rw [start_bind, hread]
  simp only
  rw [start_bind, hwrite]
  cases written <;> rfl

theorem start_mergeTable_text (hlocate : p.tree.locate path = .ok location)
    (hmade : p.tree.makeFolder location.dropLast = .ok made) (htakes : made.Takes location)
    (hread : tableText (p.tree.file? location) = .ok t) (language : Text) (entries : List Entry) :
    (mergeTable path language entries).start p
      = (.ok location, { p with tree := { made with
          files := made.files.set location
            (.text ((Table.ofText t).merge language entries).text) } }) := by
  have hground := FileTree.toGround_makeFolder hmade
  have hnone : p.tree.isFolder location = false := by
    by_contra h
    rw [Bool.not_eq_false] at h
    have hthere := FileTree.isFolder_makeFolder hmade (.inl h)
    rw [htakes.free] at hthere
    cases hthere
  have hshort : p.tree.isLong location = false := by
    simpa only [FileTree.isLong, hground] using htakes.short
  have hnames : p.tree.hasLongName location = false := by
    simpa only [FileTree.hasLongName, hground] using htakes.names
  have hthere := FileTree.presence_of_short hshort hnames
  exact start_mergeTable_of_read hlocate (start_readTable hthere hnone hread)
    (start_writeFile hmade htakes)

theorem start_mergeTable (hlocate : p.tree.locate path = .ok location)
    (hmade : p.tree.makeFolder location.dropLast = .ok made) (htakes : made.Takes location)
    (hread : tableText (p.tree.file? location) = .ok t)
    (hdistinct : (Grid.ofText t).columns.Nodup)
    {language : Text} (hlanguage : language ≠ keyColumn) {entries : List Entry}
    (hkeys : ∀ e ∈ entries, e.key ≠ []) : (mergeTable path language entries).start p
      = (.ok location, { p with tree := { made with
          files := made.files.set location
            (.text ((Grid.ofText t).merge language entries).text) } }) := by
  rw [start_mergeTable_text hlocate hmade htakes hread,
    Grid.text_merge hdistinct hlanguage hkeys]

end Start

/-- Merging entries into a table that is there, or is begun: every row stays in its place, the first
row of a key has the last text for it, every new key has a row below, and no other file is changed.
Merging entries and then others leaves what merging all of them leaves. -/
theorem mergeTable_exact {p : Progress} {path : Path} {location : Location} {language t : Text}
    {first second : List Entry} (hlocate : p.tree.locate path = .ok location)
    (hplace : p.tree.Admits location) (hread : tableText (p.tree.file? location) = .ok t)
    (htidy : (Grid.ofText t).IsTidy) (hlanguage : language ≠ keyColumn)
    (hfirst : ∀ e ∈ first, e.key ≠ []) (hsecond : ∀ e ∈ second, e.key ≠ []) :
    (∃ tree after, (mergeTable path language first).start p = (.ok location, { p with tree })
      ∧ tableText (tree.file? location) = .ok after
      ∧ (∀ other, other ≠ location → tree.file? other = p.tree.file? other)
      ∧ Grid.Merged language first (Grid.ofText t) (Grid.ofText after))
    ∧ (mergeTable path language first >>= fun _ => mergeTable path language second).start p
      = (mergeTable path language (first ++ second)).start p := by
  obtain ⟨made, hmade, htakes⟩ := hplace
  -- The grid that the first merge writes is read back, from a folder that is there by then.
  let merged := (Grid.ofText t).merge language first
  let tree : FileTree := { made with files := made.files.set location (.text merged.text) }
  have hcolumns : merged.columns ≠ [] := Grid.columnsWith_ne_nil
  have hmerged : merged.IsTidy := htidy.merge hlanguage first
  have hfile : ∀ other, tree.file? other
      = if location = other then some (.text merged.text) else p.tree.file? other :=
    fun other => by
      rw [FileTree.file?, FileTree.file?, ← FileTree.files_makeFolder hmade]
      exact Mapping.get?_set ..
  have hagain : tableText (tree.file? location) = .ok merged.text := by
    rw [hfile, if_pos rfl]
    exact congrArg Except.ok (Grid.dropMark_text hcolumns hmerged.unmarked)
  have hgrid : Grid.ofText merged.text = merged :=
    Grid.ofText_text hcolumns fun fields hfields => by
      obtain ⟨row, -, rfl⟩ := List.mem_map.1 hfields
      exact mt List.map_eq_nil_iff.1 Grid.columnsWith_ne_nil
  have hstart := start_mergeTable hlocate hmade htakes hread htidy.distinct hlanguage hfirst
  refine ⟨⟨tree, merged.text, hstart, hagain, fun other hother => ?_, ?_⟩, ?_⟩
  · rw [hfile, if_neg hother.symm]
  · rw [hgrid]
    exact Grid.merged_merge _ hlanguage first
  · have hfolder : made.isFolder location.dropLast :=
      FileTree.isFolder_makeFolder hmade (.inr rfl)
    have hthere : tree.makeFolder location.dropLast = .ok tree :=
      FileTree.makeFolder_of_isFolder hfolder
    have hlocateAgain : tree.locate path = .ok location := by
      rw [← hlocate, ← FileTree.toGround_makeFolder hmade]
    have hsecondStart := start_mergeTable (p := { p with tree }) hlocateAgain hthere
      ⟨htakes.free, htakes.short, htakes.names⟩ hagain (hgrid.symm ▸ hmerged.distinct) hlanguage
      hsecond
    have hall : ∀ e ∈ first ++ second, e.key ≠ [] := fun e he =>
      (List.mem_append.1 he).elim (hfirst e) (hsecond e)
    rw [start_bind, hstart, start_mergeTable hlocate hmade htakes hread htidy.distinct hlanguage
      hall]
    refine hsecondStart.trans ?_
    rw [hgrid, Grid.merge_merge]
    simp only [tree, Mapping.set_set]

/-- A table with a short row and with a key that comes twice, in a file of its own. -/
def addonText : Text := "KeyName,English\r\na,Hi\r\nb\r\na,Ho\r\n".toList

def addonPath : Path := .ofText "addon.csv".toList

/-- Where the file is. -/
def addonPlace : Location := ["addon.csv".toList]

def addon : Progress where
  tree := {
    root := "/r".toList
    folders := []
    files := [(addonPlace, .text addonText)] }
  lexicon := .byPhrases ⟨[], []⟩

/-- Texts for a key of the table and for a new one. -/
def addonFirst : List Entry := [⟨"b".toList, "x".toList⟩, ⟨"c".toList, "y".toList⟩]

def addonSecond : List Entry := [⟨"c".toList, "z".toList⟩, ⟨"d".toList, "w".toList⟩]

theorem addon_merged : addon.tree.locate addonPath = .ok addonPlace ∧ addon.tree.Admits addonPlace
    ∧ (Grid.ofText addonText).IsTidy
    ∧ (∃ tree after, (mergeTable addonPath "German".toList addonFirst).start addon
        = (.ok addonPlace, { addon with tree })
      ∧ tableText (tree.file? addonPlace) = .ok after
      ∧ (∀ other, other ≠ addonPlace → tree.file? other = addon.tree.file? other)
      ∧ Grid.Merged "German".toList addonFirst (Grid.ofText addonText) (Grid.ofText after))
    ∧ (mergeTable addonPath "German".toList addonFirst >>= fun _ =>
        mergeTable addonPath "German".toList addonSecond).start addon
      = (mergeTable addonPath "German".toList (addonFirst ++ addonSecond)).start addon := by
  have htidy : (Grid.ofText addonText).IsTidy := ⟨by decide, by decide⟩
  have hplace : addon.tree.Admits addonPlace := ⟨addon.tree, rfl, rfl, by decide, by decide⟩
  exact ⟨rfl, hplace, htidy, mergeTable_exact rfl hplace rfl htidy (by decide) (by decide)
    (by decide)⟩

end Work

end MarkedSheet
