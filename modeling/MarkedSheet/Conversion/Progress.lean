import MarkedSheet.Conversion.Failure
import MarkedSheet.Conversion.Output
import MarkedSheet.Files.Walk
import MarkedSheet.Localization.Table

/-!
# The progress of a run

A run works on a file tree and a lexicon. It prints lines, finds localization entries and notes
which files it has written. When it fails, its progress stays.
-/

namespace MarkedSheet

/-- What a run has done so far. -/
structure Progress where
  tree : FileTree
  lexicon : Pinyin.Lexicon
  printed : List Text := []
  /-- The files that sheets were written to. -/
  generated : List Location := []
  entries : List Localization.Entry := []
  /-- The sheets that were left out, each after its workbook. -/
  skipped : List Text := []
  /-- The number of warnings about the sheets that were written. -/
  warnings : Nat := 0

/-- A step of a run. -/
abbrev Work := ExceptT Failure (StateM Progress)

namespace Work

/-- The result of a step and the progress after it. -/
def start {α : Type} (work : Work α) (progress : Progress) : Except Failure α × Progress :=
  (ExceptT.run work).run progress

/-- Prints lines. -/
def print (lines : List Text) : Work Unit :=
  modify fun p => { p with printed := p.printed ++ lines }

/-- Prints a line of the program itself. -/
def say (message : Text) : Work Unit :=
  print ["[sheetkv] ".toList ++ message]

/-- A result that changes no progress. -/
def lift {ε α : Type} (cause : ε → Failure) : Except ε α → Work α
  | .ok a => pure a
  | .error e => throw (cause e)

/-- Changes the file tree. -/
def changeTree (change : FileTree → Except FileError FileTree) : Work Unit := do
  let p ← get
  let tree ← lift .file (change p.tree)
  set { p with tree }

/-- The location that a path resolves to. -/
def locate (path : Path) : Work Location := do
  lift .file ((← get).tree.locate path)

/-- A file or folder is at the location. -/
def isThere (location : Location) : Work Bool := do
  lift .file ((← get).tree.presence location)

/-- The path of a location in writing. -/
def fullPath (location : Location) : Work Text := do
  return (← get).tree.fullPath location

/-- Writes a file, in a folder that is made if it is not there. -/
def writeFile (location : Location) (t : Text) : Work Unit := do
  changeTree fun tree => tree.makeFolder location.dropLast
  changeTree fun tree => tree.writeFile location t

/-- The settings in an options file. Names that mean nothing are told. -/
def loadSettings (host : Host) (path : Path) : Work Settings := do
  let location ← locate path
  let members ← lift .optionsFile ((← get).tree.optionMembers location)
  let loading := Settings.ofMembers members
  print loading.printed
  let settings ← lift .number loading.result
  let _ ← lift .settings (Options.ofSettings? host settings)
  return settings

/-- The table at a location; a table that is not there is empty. -/
def readTable (location : Location) : Work Localization.Table := do
  if ← isThere location then
    let tree := (← get).tree
    match tree.file? location with
    | none => throw (.file (.isFolder (tree.fullPath location)))
    | some content => do
      let t ← lift .encoding content.decodeTable
      return .ofText t
  else return ⟨[], []⟩

/-- Merges entries into the table that a path leads to. -/
def mergeTable (path : Path) (language : Text) (entries : List Localization.Entry) :
    Work Location := do
  let location ← locate path
  let table ← readTable location
  writeFile location (table.merge language entries).text
  return location

end Work

end MarkedSheet
