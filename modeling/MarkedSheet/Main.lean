import MarkedSheet.CommandLine.Command
import MarkedSheet.Pinyin.Table

/-!
# The program

The program reads what is below the folder that it is started in, performs the command on it as one
value, and writes back the files that have changed. A file is the text that its octets encode, or
just octets, so a workbook that is no text is told as one that cannot be opened. A link is taken as
one to the place where it ends. What is outside of the folder is not seen, and of the homes only
that of the user is known.
-/

namespace MarkedSheet

namespace Program

/-- Adds an entry of a folder, and all below it, to a tree. -/
partial def readEntry (tree : FileTree) (location : Location) (entry : IO.FS.DirEntry) :
    IO FileTree := do
  match (← entry.path.symlinkMetadata).type with
  | .dir =>
    let folders := if tree.isFolder location then tree.folders else tree.folders ++ [location]
    (← entry.path.readDir).foldlM
      (fun tree inner => readEntry tree (location ++ [inner.fileName.toList]) inner)
      { tree with folders }
  | .file =>
    let data ← IO.FS.readBinFile entry.path
    return { tree with files := tree.files.set location (.ofOctets data.toList) }
  | .symlink =>
    let target ← IO.FS.realPath entry.path
    return { tree with links := tree.links.set location (.ofText target.toString.toList) }
  | .other => return tree

/-- The tree that the program is started in. -/
def startTree : IO FileTree := do
  let folder ← IO.currentDir
  let current := (Path.ofText folder.toString.toList).parts
  let homes := match ← IO.getEnv "HOME" with
    | some home => [([], home.toList)]
    | none => []
  let empty : FileTree :=
    { root := [], current, homes, folders := FileTree.pathTo current, files := [] }
  readEntry empty current ⟨folder, "."⟩

/-- Writes the text files of a tree that were not so before. -/
def writeChanges (before after : FileTree) : IO Unit := do
  for location in after.folders do
    unless before.isFolder location do
      IO.FS.createDirAll (String.ofList (after.fullPath location))
  for (location, content) in after.files do
    if let .text t := content then
      unless before.file? location = some content do
        IO.FS.writeFile (String.ofList (after.fullPath location)) (String.ofList t)

/-- What is printed about a failure that the command does not expect. -/
def unexpected : CommandLine.Ending → String
  | .failed e => if e.isReported then "" else e.message ++ "\n"
  | _ => ""

end Program

end MarkedSheet

open MarkedSheet in
/-- Runs the command on the files below the current folder. -/
def main (arguments : List String) : IO UInt32 := do
  let tree ← Program.startTree
  let (ending, progress) :=
    CommandLine.perform .usual (arguments.map String.toList) { tree, lexicon := .usual }
  Program.writeChanges tree progress.tree
  for line in progress.printed do
    IO.println (String.ofList line)
  IO.eprint (String.ofList ending.errorText)
  IO.eprint (Program.unexpected ending)
  return UInt32.ofNat (ending.exitCode?.getD 1)
