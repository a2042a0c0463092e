import MarkedSheet.Files.Path
import MarkedSheet.Mapping
import MarkedSheet.Text.Encoding
import MarkedSheet.Workbook.Name
import MarkedSheet.Workbook.Value

/-!
# Files and folders

A file tree has folders, files and links below a root, and knows the current folder and the homes of
users. Of these a run changes folders and files alone: it makes folders, and writes one file at a
time (`file?_writeFile`). Names and paths have a greatest length. Where a name on the way is too
long, none of the folders on the way is made. A file has one name, if not for links. Rights, and how
much room there is, are left out.
-/

namespace MarkedSheet

/-- What a file holds. -/
inductive Content
  /-- A text, which is encoded in UTF-8. -/
  | text (t : Text)
  /-- Octets that encode no text. -/
  | octets (data : List UInt8)
  /-- A workbook: its sheets with their names and the values of their rows, and the octets that it
  is kept in. -/
  | workbook (sheets : List (Text × List (List CellValue))) (data : List UInt8)
  deriving DecidableEq, Repr

/-- Why a path cannot be followed, or a file or folder cannot be made or opened. -/
inductive FileError
  /-- The path leads to a home that is not known. -/
  | noHome
  /-- A name holds the null character. -/
  | nullCharacter
  /-- A link leads back to itself. -/
  | loop (path : Text)
  /-- A name, or the path, is too long. -/
  | tooLong (path : Text)
  /-- A folder is no file. -/
  | isFolder (path : Text)
  /-- A file stands where a folder should be made. -/
  | inTheWay (path : Text)
  /-- A file stands where a folder should lead on. -/
  | notFolder (path : Text)
  deriving DecidableEq, Repr

/-- The description of an error. -/
def FileError.message : FileError → String
  | .noHome => "Could not determine home directory."
  | .nullCharacter => "embedded null byte"
  | .loop path => s!"Symlink loop from {String.ofList path.literal}"
  | .tooLong path => s!"[Errno 36] File name too long: {String.ofList path.literal}"
  | .isFolder path => s!"[Errno 21] Is a directory: {String.ofList path.literal}"
  | .inTheWay path => s!"[Errno 17] File exists: {String.ofList path.literal}"
  | .notFolder path => s!"[Errno 20] Not a directory: {String.ofList path.literal}"

/-- What a run finds and leaves unchanged. -/
structure Ground where
  /-- What stands before the names of a location in writing. -/
  root : Text
  /-- The folder that paths start from unless they start from the root. -/
  current : Location := []
  /-- The homes of users. The empty name is that of the user who runs the program. -/
  homes : Mapping Text Text := []
  /-- The links, with the paths that they stand for. -/
  links : Mapping Location Path := []
  /-- How many octets a name may have. -/
  nameLimit : Nat := 255
  /-- How many octets a path may have. -/
  pathLimit : Nat := 4095
  deriving DecidableEq, Repr

/-- Files and folders below a root. -/
structure FileTree extends Ground where
  folders : List Location
  files : Mapping Location Content
  deriving DecidableEq, Repr

namespace Content

/-- The content that octets are. -/
def ofOctets (data : List UInt8) : Content :=
  match Encoding.decode data with
  | .ok t => .text t
  | .error _ => .octets data

/-- The workbook that gets grids one after another, kept in octets. -/
def ofGrids (grids : List (Text × List (List CellValue))) (data : List UInt8) : Content :=
  .workbook ((SheetName.distinct (grids.map (·.1))).zip (grids.map (·.2))) data

/-- The text of a file. -/
def decode : Content → Except EncodingError Text
  | text t => .ok t
  | octets data => Encoding.decode data
  | workbook _ data => Encoding.decode data

/-- The octets of the byte order mark. -/
def markOctets : List UInt8 := [0xEF, 0xBB, 0xBF]

/-- The text of a table in octets, without a byte order mark. Octets are taken from the data as they
become characters, so a character that the end breaks off is the first of those left. -/
def decodeMarked (data : List UInt8) : Except EncodingError Text :=
  if data.isPrefixOf markOctets then .ok []
  else
    let data := if markOctets.isPrefixOf data then data.drop markOctets.length else data
    match Encoding.decode data with
    | .ok t => .ok t
    | .error e => .error (if e.fault = .ended then { e with position := 0 } else e)

/-- The text of a table, without a byte order mark. -/
def decodeTable : Content → Except EncodingError Text
  | text t => .ok (Encoding.dropMark t)
  | octets data => decodeMarked data
  | workbook _ data => decodeMarked data

end Content

/-- The path of a location in writing. -/
def Ground.fullPath (ground : Ground) (location : Location) : Text :=
  let t := Text.join ['/'] (ground.root :: location)
  if t.isEmpty then ['/'] else t

namespace FileTree

/-- What the file at a location holds. -/
def file? (tree : FileTree) (location : Location) : Option Content :=
  tree.files.get? location

/-- A folder is at the location. -/
def isFolder (tree : FileTree) (location : Location) : Bool :=
  location.isEmpty || tree.folders.contains location

/-- A file or folder is at the location. -/
def has (tree : FileTree) (location : Location) : Bool :=
  tree.isFolder location || (tree.file? location).isSome

/-- The locations of all files, folders and links. -/
def locations (tree : FileTree) : List Location :=
  tree.folders ++ tree.files.map (·.1) ++ tree.links.map (·.1)

/-- What is below a location, as the parts that lead there. -/
def below (tree : FileTree) (location : Location) : List (List Text) :=
  tree.locations.filterMap fun other =>
    if location.isPrefixOf other && location.length < other.length then
      some (other.drop location.length)
    else none

/-- The folders on the way to a location, and the location. -/
def pathTo (location : Location) : List Location :=
  (List.range location.length).map fun n => location.take (n + 1)

/-- The path of the location is too long. -/
def isLong (tree : FileTree) (location : Location) : Bool :=
  tree.pathLimit < Encoding.size (tree.fullPath location)

/-- A name on the way to the location is too long. -/
def hasLongName (tree : FileTree) (location : Location) : Bool :=
  location.any fun name => tree.nameLimit < Encoding.size name

/-- A file or folder is at the location, or it is told why that cannot be asked for: what is not
there is looked for up to the first name that is not that of a folder. -/
def presence (tree : FileTree) (location : Location) : Except FileError Bool :=
  if tree.has location then .ok true
  else if tree.isLong location
      || ((pathTo location).find? fun folder => !tree.isFolder folder).any tree.hasLongName then
    .error (.tooLong (tree.fullPath location))
  else .ok false

/-- Makes a folder and those on the way to it, where they are not there yet. -/
def makeFolder (tree : FileTree) (location : Location) : Except FileError FileTree :=
  if tree.isFolder location then .ok tree
  else if tree.isLong location then .error (.tooLong (tree.fullPath location))
  else if (tree.file? location).isSome then .error (.inTheWay (tree.fullPath location))
  else if (pathTo location).any fun folder => (tree.file? folder).isSome then
    .error (.notFolder (tree.fullPath location))
  else if tree.hasLongName location then .error (.tooLong (tree.fullPath location))
  else
    let missing := (pathTo location).filter fun folder => !tree.isFolder folder
    .ok { tree with folders := tree.folders ++ missing }

/-- Writes a file. -/
def writeFile (tree : FileTree) (location : Location) (t : Text) : Except FileError FileTree :=
  if tree.isFolder location then .error (.isFolder (tree.fullPath location))
  else if tree.isLong location || tree.hasLongName location then
    .error (.tooLong (tree.fullPath location))
  else .ok { tree with files := tree.files.set location (.text t) }

variable {tree after : FileTree} {location : Location}

/-- Writing a file changes what one file holds. -/
theorem writeFile_eq_ok {t : Text} (h : tree.writeFile location t = .ok after) :
    after = { tree with files := tree.files.set location (.text t) } := by
  unfold writeFile at h
  split at h
  · cases h
  · split at h
    · cases h
    · exact (Except.ok.inj h).symm

/-- Making a folder adds folders. -/
theorem makeFolder_eq_ok (h : tree.makeFolder location = .ok after) :
    tree.isFolder location ∧ after = tree
      ∨ tree.isFolder location = false
        ∧ (∀ folder ∈ pathTo location, tree.file? folder = none)
        ∧ tree.isLong location = false ∧ tree.hasLongName location = false
        ∧ after = { tree with folders := tree.folders
          ++ (pathTo location).filter fun folder => !tree.isFolder folder } := by
  unfold makeFolder at h
  split at h
  next hthere => exact .inl ⟨hthere, (Except.ok.inj h).symm⟩
  next hthere =>
    split at h
    · cases h
    next hlong =>
      split at h
      · cases h
      split at h
      · cases h
      next hfree =>
        split at h
        · cases h
        next hname =>
          refine .inr ⟨by simpa using hthere, fun folder hfolder => ?_, by simpa using hlong,
            by simpa using hname, (Except.ok.inj h).symm⟩
          simp only [List.any_eq_true, not_exists, not_and, Bool.not_eq_true,
            Option.isSome_eq_false_iff, Option.isNone_iff_eq_none] at hfree
          exact hfree folder hfolder

theorem file?_writeFile {t : Text} (h : tree.writeFile location t = .ok after)
    (other : Location) :
    after.file? other = if location = other then some (.text t) else tree.file? other := by
  rw [writeFile_eq_ok h]
  exact Mapping.get?_set ..

theorem toGround_writeFile {t : Text} (h : tree.writeFile location t = .ok after) :
    after.toGround = tree.toGround := by
  rw [writeFile_eq_ok h]

theorem files_makeFolder (h : tree.makeFolder location = .ok after) : after.files = tree.files := by
  rcases makeFolder_eq_ok h with ⟨-, rfl⟩ | ⟨-, -, -, -, rfl⟩ <;> rfl

theorem toGround_makeFolder (h : tree.makeFolder location = .ok after) :
    after.toGround = tree.toGround := by
  rcases makeFolder_eq_ok h with ⟨-, rfl⟩ | ⟨-, -, -, -, rfl⟩ <;> rfl

end FileTree

end MarkedSheet
