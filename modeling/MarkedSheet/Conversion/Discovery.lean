import MarkedSheet.Conversion.Progress

/-!
# Finding workbooks

An input is a workbook or a folder of them. The files of a folder are taken in the order of their
paths. Temporary files and workbooks of an older kind are told and left out.
-/

namespace MarkedSheet

/-- What is done with a file that an input leads to. -/
inductive FileRole
  /-- It is a workbook. -/
  | book
  /-- It belongs to a workbook that is open. -/
  | temporary
  /-- It is a workbook of an older kind. -/
  | legacy
  /-- It is something else. -/
  | other
  deriving DecidableEq, Repr

/-- What the name of a file tells. -/
def FileRole.ofName (name : Text) : FileRole :=
  if "~$".toList.isPrefixOf name then .temporary
  else if (suffixOf name).lower = ".xls".toList then .legacy
  else if (BookKind.ofName? name).isSome then .book
  else .other

/-- The line that is printed for a file. -/
def FileRole.lines (verbose : Bool) (name : Text) : FileRole → List Text
  | book => []
  | temporary => ["[sheetkv] Ignore temp workbook ".toList ++ name]
  | legacy => ["[sheetkv] WARNING: ".toList ++ name
      ++ " is a legacy .xls workbook and is not supported, save it as .xlsx".toList]
  | other => if verbose then ["[sheetkv] Ignore non-workbook file ".toList ++ name] else []

namespace FileTree

/-- The paths to what is in a folder, and with `recursive` to what is below it, in their order. What
is behind links is not below a folder; the links are. -/
def inFolder (tree : FileTree) (path : Path) (location : Location) (recursive : Bool) : List Path :=
  let below := (tree.below location).filter fun parts => recursive || parts.length = 1
  (below.map fun parts => path.append ⟨[], parts⟩).mergeSort Path.le

end FileTree

namespace Work

/-- The location at the end of a path, none if nothing is there. -/
def find? (path : Path) : Work (Option Location) := do
  match (← get).tree.find? path with
  | .ok location => return some location
  | .error .nowhere => return none
  | .error .tooLong => throw (.file (.tooLong path.text))

/-- The path leads to a file. -/
def leadsToFile (path : Path) : Work Bool := do
  match ← find? path with
  | some location => return ((← get).tree.file? location).isSome
  | none => return false

/-- The workbooks among the paths that an input leads to. -/
def sift (verbose : Bool) : List Path → Work (List Path)
  | [] => return []
  | path :: rest => do
    if ← leadsToFile path then
      let role := FileRole.ofName path.name
      print (role.lines verbose path.name)
      let others ← sift verbose rest
      return if role = .book then path :: others else others
    else sift verbose rest

/-- The paths that an input leads to. -/
def candidates (path : Path) (recursive : Bool) : Work (List Path) := do
  match ← find? path with
  | some location =>
    let tree := (← get).tree
    return if tree.isFolder location then tree.inFolder path location recursive else [path]
  | none => throw (.inputMissing path.text)

/-- The workbooks that inputs lead to. -/
def discover (recursive verbose : Bool) : List Path → Work (List Path)
  | [] => return []
  | input :: rest => do
    let path ← lift .file ((← get).tree.expandHome input)
    let books ← sift verbose (← candidates path recursive)
    let others ← discover recursive verbose rest
    return books ++ others

end Work

end MarkedSheet
