import MarkedSheet.Proofs.Conversion.TableAgain
import MarkedSheet.Proofs.Conversion.WholeRun

/-!
# Where a run goes

A run comes to one sheet after another until one fails (`Plan.visited`), and it wants to write a
file for every sheet that it converts, and the table (`Plan.goals`, `Plan.places`). If each of these
can be written at first, and none is a folder on the way to another (`Plan.Accessible`), then it can
still be written when others have been (`Plan.Kept.exists_writeFile`).
-/

namespace MarkedSheet

namespace FileTree

variable {tree made : FileTree} {location other : Location}

theorem isFolder_iff {tree : FileTree} :
    tree.isFolder location ↔ location = [] ∨ location ∈ tree.folders := by
  simp [isFolder]

/-- A folder can be made if it is there, or if no file is in the way and no name is too long. -/
theorem exists_makeFolder_iff : (∃ made, tree.makeFolder location = .ok made)
    ↔ tree.isFolder location ∨ (∀ folder ∈ pathTo location, tree.file? folder = none)
      ∧ tree.isLong location = false ∧ tree.hasLongName location = false := by
  constructor
  · rintro ⟨made, h⟩
    rcases makeFolder_eq_ok h with ⟨hthere, -⟩ | ⟨-, hfree, hlong, hnames, -⟩
    · exact .inl hthere
    · exact .inr ⟨hfree, hlong, hnames⟩
  · by_cases hthere : tree.isFolder location
    · exact fun _ => ⟨tree, makeFolder_of_isFolder hthere⟩
    rintro (h | ⟨hfree, hlong, hnames⟩)
    · exact absurd h hthere
    · have hlast := mem_pathTo fun hnil => hthere (isFolder_iff.2 (.inl hnil))
      have hany : ¬ (pathTo location).any fun folder => (tree.file? folder).isSome := by
        simpa using hfree
      rw [makeFolder, if_neg hthere, if_neg (by simp [hlong]), if_neg (by simp [hfree _ hlast]),
        if_neg hany, if_neg (by simp [hnames])]
      exact ⟨_, rfl⟩

/-- A folder that is there when a folder was made was there, or is on the way to it. -/
theorem isFolder_of_makeFolder (h : tree.makeFolder location = .ok made)
    (hother : made.isFolder other) : tree.isFolder other ∨ other ∈ pathTo location := by
  rcases makeFolder_eq_ok h with ⟨-, rfl⟩ | ⟨-, -, -, -, rfl⟩
  · exact .inl hother
  · simp only [isFolder_iff, List.mem_append, List.mem_filter] at hother ⊢
    tauto

/-- A file can be written where no folder is and no name is too long, in a folder that is there or
can be made. -/
theorem admits_iff : tree.Admits location ↔ tree.Takes location
    ∧ ∃ made, tree.makeFolder location.dropLast = .ok made := by
  have hground : ∀ {made}, tree.makeFolder location.dropLast = .ok made →
      made.isLong location = tree.isLong location
      ∧ made.hasLongName location = tree.hasLongName location := fun hmade => by
    simp only [isLong, hasLongName, toGround_makeFolder hmade, and_self]
  constructor
  · rintro ⟨made, hmade, hfree, hlong, hnames⟩
    obtain ⟨hlong', hnames'⟩ := hground hmade
    refine ⟨⟨?_, hlong' ▸ hlong, hnames' ▸ hnames⟩, made, hmade⟩
    by_contra hthere
    have := isFolder_makeFolder hmade (.inl (by simpa using hthere))
    simp [hfree] at this
  · rintro ⟨⟨hfree, hlong, hnames⟩, made, hmade⟩
    obtain ⟨hlong', hnames'⟩ := hground hmade
    refine ⟨made, hmade, ?_, hlong'.trans hlong, hnames'.trans hnames⟩
    by_contra hthere
    rw [isFolder_of_makeFolder_dropLast hmade (by simpa using hthere)] at hfree
    cases hfree

instance (tree : FileTree) (location : Location) : Decidable (tree.Takes location) :=
  decidable_of_iff (tree.isFolder location = false ∧ tree.isLong location = false
      ∧ tree.hasLongName location = false)
    ⟨fun ⟨hfree, hlong, hnames⟩ => ⟨hfree, hlong, hnames⟩,
      fun ⟨hfree, hlong, hnames⟩ => ⟨hfree, hlong, hnames⟩⟩

instance (tree : FileTree) (location : Location) : Decidable (tree.Admits location) :=
  decidable_of_iff _ (admits_iff.trans (and_congr_right fun _ => exists_makeFolder_iff)).symm

end FileTree

namespace Work

/-- Opens a workbook, which is told. -/
def openBook (o : Options) (path : Path) : Work (List Sheet) := do
  say ("Converting ".toList ++ path.text ++ " to kv".toList)
  readBook path o.headerOffset

theorem convertBook_eq (o : Options) (known : Bool) (folder? : Option Path) (path : Path) :
    convertBook o known folder? path = openBook o path >>= fun sheets =>
      convertSheets o known (folder?.getD path.parent) path.name sheets := by
  rw [convertBook, openBook, bind_assoc]

/-- The first sheet of several is converted by itself, then the others. -/
theorem convertSheets_cons (o : Options) (known : Bool) (folder : Path) (book : Text)
    (sheet : Sheet) (rest : List Sheet) :
    convertSheets o known folder book (sheet :: rest) = (do
      let written ← convertSheets o known folder book [sheet]
      let others ← convertSheets o known folder book rest
      return written ++ others) := by
  rw [convertSheets, convertSheets]
  simp only [bind_assoc]
  refine bind_congr fun result => ?_
  cases result <;> simp only [convertSheets, bind_assoc, pure_bind, List.append_nil]

end Work

namespace Plan

variable (plan : Plan)

/-- Converts the sheets of a workbook as the run does. -/
def convertSheets (path : Path) (sheets : List Sheet) : Work (List Location) :=
  Work.convertSheets plan.o true (plan.folder?.getD path.parent) path.name sheets

/-- The sheets of a workbook that the run comes to: it comes past those that it can convert and
write. -/
def sheetsFrom (path : Path) : List Sheet → Progress → List Job
  | [], _ => []
  | sheet :: rest, p => ⟨path, sheet⟩ :: match (plan.convertSheets path [sheet]).start p with
    | (.ok _, q) => sheetsFrom path rest q
    | (.error _, _) => []

/-- The sheets of one workbook that the run comes to. -/
def bookFrom (path : Path) (p : Progress) : List Job :=
  match (Work.openBook plan.o path).start p with
  | (.ok sheets, q) => plan.sheetsFrom path sheets q
  | (.error _, _) => []

/-- The sheets of workbooks that the run comes to. -/
def booksFrom : List Path → Progress → List Job
  | [], _ => []
  | path :: rest, p => plan.bookFrom path p ++
    match (Work.tryBook plan.o plan.folder? path).start p with
    | (.ok _, q) => booksFrom rest q
    | (.error _, _) => []

/-- The sheets that the run comes to. -/
def visited : List Job :=
  match (Work.discover plan.recursive plan.o.verbose plan.inputs).start plan.ready with
  | (.ok books, q) => plan.booksFrom books q
  | (.error _, _) => []

/-- The path of the file that is written for a sheet. -/
def goal? (job : Job) : Option Path :=
  match (plan.converted job).result with
  | .ok (some output) => some (plan.goal job output)
  | _ => none

/-- The paths of the files that the run wants to write. -/
def goals : List Path :=
  plan.visited.filterMap plan.goal?
    ++ if plan.o.locPath.isEmpty then [] else [.ofText plan.o.locPath]

/-- Where the run wants to write files. -/
def places : List Location :=
  plan.goals.filterMap fun path => (plan.tree.locate path).toOption

/-- The path can be followed, or it is told why it cannot. -/
def Follows (path : Path) : Prop :=
  ∀ e, plan.tree.locate path = .error e → e.isReported

/-- The path can be followed to something, or it is told why it cannot be followed. -/
def Opens (path : Path) : Prop :=
  plan.Follows path ∧ ∀ location, plan.tree.locate path = .ok location → plan.tree.has location

/-- All paths of the run can be followed, or it is told why they cannot: there are its workbooks,
and each file that it wants to write can be written, whichever of the others have been. -/
structure Accessible : Prop where
  inputs : ∀ e, plan.found = .error (.file e) → e.isReported
  books : ∀ books, plan.found = .ok books → ∀ path ∈ books, plan.Opens path
  goals : ∀ path ∈ plan.goals, plan.Follows path
  places : ∀ location ∈ plan.places, plan.tree.Admits location
  apart : ∀ location ∈ plan.places, ∀ other ∈ plan.places,
    location ∉ FileTree.pathTo other.dropLast

/-- What was there first still is, and only the files that are wanted, and the folders on the way to
them, have come to it. -/
structure Kept (tree : FileTree) : Prop where
  ground : tree.toGround = plan.tree.toGround
  staysFolder : ∀ location, plan.tree.isFolder location → tree.isFolder location
  staysFile : ∀ location, (plan.tree.file? location).isSome → (tree.file? location).isSome
  folders : ∀ location, tree.isFolder location → plan.tree.isFolder location
    ∨ ∃ place ∈ plan.places, location ∈ FileTree.pathTo place.dropLast
  files : ∀ location, (tree.file? location).isSome → (plan.tree.file? location).isSome
    ∨ location ∈ plan.places

variable {plan} {tree : FileTree} {path : Path} {location : Location}

theorem kept_first : plan.Kept plan.tree :=
  ⟨rfl, fun _ h => h, fun _ h => h, fun _ h => .inl h, fun _ h => .inl h⟩

theorem goal_mem_goals {job : Job} {output : Output} (hjob : job ∈ plan.visited)
    (houtput : (plan.converted job).result = .ok (some output)) :
    plan.goal job output ∈ plan.goals := by
  refine List.mem_append_left _ (List.mem_filterMap.2 ⟨job, hjob, ?_⟩)
  simp [goal?, houtput]

theorem table_mem_goals (h : plan.o.locPath ≠ []) : Path.ofText plan.o.locPath ∈ plan.goals := by
  rw [goals, if_neg (by simpa using h)]
  exact List.mem_append_right _ List.mem_cons_self

theorem mem_places (hpath : path ∈ plan.goals) (hlocate : plan.tree.locate path = .ok location) :
    location ∈ plan.places :=
  List.mem_filterMap.2 ⟨path, hpath, by rw [hlocate]; rfl⟩

/-- The run comes to the first sheet of the first workbook. -/
theorem mem_visited_of_first {others : List Path} {sheet : Sheet} {sheets : List Sheet}
    (hfound : plan.found = .ok (path :: others)) (hlocate : plan.tree.locate path = .ok location)
    (hfile : (plan.tree.file? location).isSome)
    (hread : plan.tree.sheets location plan.o.headerOffset = .ok (sheet :: sheets)) :
    ⟨path, sheet⟩ ∈ plan.visited := by
  obtain ⟨printed, hstart, -⟩ := Work.start_discover hfound
  have hopen : ∃ q, (Work.openBook plan.o path).start { plan.ready with printed }
      = (.ok (sheet :: sheets), q) := by
    rw [Work.openBook, Work.start_bind, Work.say, Work.start_print]
    simp only
    rw [Work.start_readBook _ hlocate hfile]
    simp only [ready, first, hread]
    exact ⟨_, rfl⟩
  obtain ⟨q, hopen⟩ := hopen
  rw [visited, hstart]
  refine List.mem_append_left _ ?_
  rw [bookFrom, hopen]
  exact List.mem_cons_self

/-- What was there first still is. -/
theorem Kept.has (hkept : plan.Kept tree) (h : plan.tree.has location) : tree.has location := by
  unfold FileTree.has at h ⊢
  rw [Bool.or_eq_true] at h ⊢
  exact h.imp (hkept.staysFolder location) (hkept.staysFile location)

section Accessible

variable (haccess : plan.Accessible) (hkept : plan.Kept tree) (hplace : location ∈ plan.places)

include haccess hkept hplace

/-- No folder comes to where a file is to be written. -/
theorem Kept.takes : tree.Takes location := by
  obtain ⟨hfree, hlong, hnames⟩ := (FileTree.admits_iff.1 (haccess.places location hplace)).1
  refine ⟨?_, ?_, ?_⟩
  · by_contra hfolder
    rcases hkept.folders _ (by simpa using hfolder) with hthere | ⟨other, hother, hmem⟩
    · rw [hthere] at hfree
      cases hfree
    · exact haccess.apart location hplace other hother hmem
  · rw [FileTree.isLong, hkept.ground]
    exact hlong
  · rw [FileTree.hasLongName, hkept.ground]
    exact hnames

theorem Kept.admits : tree.Admits location := by
  refine FileTree.admits_iff.2 ⟨hkept.takes haccess hplace, FileTree.exists_makeFolder_iff.2 ?_⟩
  have hmade := (FileTree.admits_iff.1 (haccess.places location hplace)).2
  rcases FileTree.exists_makeFolder_iff.1 hmade with hthere | ⟨hfree, hlong, hnames⟩
  · exact .inl (hkept.staysFolder _ hthere)
  · refine .inr ⟨fun folder hfolder => ?_, ?_, ?_⟩
    · by_contra hfile
      rcases hkept.files folder (Option.isSome_iff_ne_none.2 hfile) with hthere | hother
      · rw [hfree folder hfolder] at hthere
        cases hthere
      · exact haccess.apart folder hother location hplace hfolder
    · rw [FileTree.isLong, hkept.ground]
      exact hlong
    · rw [FileTree.hasLongName, hkept.ground]
      exact hnames

/-- A file that is wanted can be written, whatever was written before. -/
theorem Kept.exists_writeFile {p : Progress} (hp : p.tree = tree) (t : Text) :
    ∃ after, (Work.writeFile location t).start p = (.ok (), { p with tree := after })
      ∧ plan.Kept after := by
  subst hp
  obtain ⟨made, hmade, htakes⟩ := hkept.admits haccess hplace
  refine ⟨_, Work.start_writeFile hmade htakes, ?_, ?_, ?_, ?_, ?_⟩
  · exact (FileTree.toGround_makeFolder hmade).trans hkept.ground
  · intro other h
    have hmade : made.isFolder other :=
      FileTree.isFolder_makeFolder hmade (.inl (hkept.staysFolder other h))
    exact hmade
  · intro other h
    rw [FileTree.file?, Mapping.get?_set, FileTree.files_makeFolder hmade]
    split
    · rfl
    · exact hkept.staysFile other h
  · intro other h
    rcases FileTree.isFolder_of_makeFolder hmade h with hthere | hmem
    · exact hkept.folders other hthere
    · exact .inr ⟨location, hplace, hmem⟩
  · intro other h
    rw [FileTree.file?, Mapping.get?_set, FileTree.files_makeFolder hmade] at h
    split at h
    next heq => exact .inr (heq ▸ hplace)
    next => exact hkept.files other h

end Accessible

end Plan

end MarkedSheet
