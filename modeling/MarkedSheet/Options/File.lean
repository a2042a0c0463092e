import MarkedSheet.Files.Tree
import MarkedSheet.Options.Json
import MarkedSheet.Options.Settings

/-!
# Options files

An options file holds a JSON object with the members that settings are read from. All line ends
count as line feeds.
-/

namespace MarkedSheet

/-- The text with a line feed for every line end. -/
def Text.plainLineEnds (t : Text) : Text :=
  Text.replaceAll ['\r'] ['\n'] (Text.replaceAll ['\r', '\n'] ['\n'] t)

/-- Why an options file cannot be read. -/
inductive OptionsFileError
  /-- Nothing is there. -/
  | missing (path : Text)
  /-- The file cannot be opened. -/
  | file (e : FileError)
  /-- The file is not encoded in UTF-8. -/
  | encoding (e : EncodingError)
  /-- The text is not JSON. -/
  | notJson (path source : Text) (e : JsonError)
  /-- The JSON value is no object. -/
  | notObject (path : Text)
  deriving DecidableEq, Repr

/-- The description of an error. -/
def OptionsFileError.message : OptionsFileError → String
  | .missing path => s!"Options file not found: {String.ofList path}"
  | .file e => e.message
  | .encoding e => e.message
  | .notJson path source e =>
    s!"Options file {String.ofList path} is not valid JSON: {e.message source}"
  | .notObject path => s!"Options file {String.ofList path} must contain a JSON object"

/-- The members of the options file at a location. -/
def FileTree.optionMembers (tree : FileTree) (location : Location) :
    Except OptionsFileError (Mapping Text Value) :=
  let path := tree.fullPath location
  match tree.presence location with
  | .error e => .error (.file e)
  | .ok false => .error (.missing path)
  | .ok true => match tree.file? location with
    | none => .error (.file (.isFolder path))
    | some content => match content.decode with
      | .error e => .error (.encoding e)
      | .ok t =>
        let source := t.plainLineEnds
        match Value.ofJson? source with
        | .error e => .error (.notJson path source e)
        | .ok (.object members) => .ok members
        | .ok _ => .error (.notObject path)

end MarkedSheet
