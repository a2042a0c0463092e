import MarkedSheet.Localization.Template
import MarkedSheet.Options.Settings
import MarkedSheet.Pattern.Reader

/-!
# Options

The options of a conversion, each with a value of its own type. They come from settings, of which
three are checked: the pattern of the sheets to leave out, the header offset and the extension of
the files. `ofSettings?` refuses the first of them that is wrong. Two of the options mean what the
system makes of them that the program runs on (`Host`).
-/

namespace MarkedSheet

/-- What the program has from the system that it runs on. -/
structure Host where
  /-- The characters by their names. -/
  charNamed (name : Text) : Option Char
  attributes : Attributes

/-- No character has a name, and texts have few parts. -/
def Host.usual : Host where
  charNamed _ := none
  attributes := .usual

/-- Why settings are refused. -/
inductive SettingsError
  /-- The text is no pattern. -/
  | pattern (source : Text) (e : PatternError)
  /-- The pattern is not a text. -/
  | patternType (name : String)
  /-- The header offset is below zero. -/
  | negativeOffset
  /-- The header offset is no number. -/
  | offsetType (name : String)
  /-- The extension does not start with a point. -/
  | extensionPoint (extension : Text)
  /-- The extension is not a text. -/
  | extensionType (name : String)
  deriving DecidableEq, Repr

/-- The description of an error. -/
def SettingsError.message : SettingsError → String
  | .pattern source e =>
    if e.fault.isInvalid then s!"sheets_ignore is not a valid regex: {e.message source}"
    else e.message source
  | .patternType name =>
    if name = "list" || name = "dict" then s!"unhashable type: '{name}'"
    else "first argument must be string or compiled pattern"
  | .negativeOffset => "header_row_offset must be >= 0"
  | .offsetType name => s!"'<' not supported between instances of '{name}' and 'int'"
  | .extensionPoint extension =>
    s!"kv_file_ext must start with '.': {String.ofList extension.literal}"
  | .extensionType name => s!"'{name}' object has no attribute 'startswith'"

/-- The options of a conversion. -/
structure Options where
  /-- Sheets whose names it occurs in are left out. -/
  ignored : NamePattern
  verbose : Bool
  transliterate : Bool
  aliases : Mapping Text Text
  /-- Readings that are added to the lexicon. -/
  readings : Mapping Text Text
  /-- The indentation of one level. -/
  indent : Text
  /-- Sheets of two columns are flat lists. -/
  autoSimple : Bool
  headerOffset : Nat
  /-- What the names of the files end in. -/
  extension : Text
  emptyToken : Text
  noteComments : Bool
  inferRootName : Bool
  /-- The table that takes the localized texts. -/
  locPath : Text
  locLanguage : Text
  locTemplate : Template

namespace Settings

/-- The pattern of the sheets to leave out. -/
def ignored? (charNamed : Text → Option Char) (s : Settings) : Except SettingsError NamePattern :=
  match s .sheetsIgnore with
  | .text t => match NamePattern.ofText? charNamed t with
    | .ok p => .ok p
    | .error e => .error (.pattern t e)
  | v => .error (.patternType v.typeName)

/-- The header offset. A number with a fraction is cut. -/
def headerOffset? (s : Settings) : Except SettingsError Nat :=
  match s .headerOffset with
  | .truth b => .ok b.toNat
  | .whole i => if i < 0 then .error .negativeOffset else .ok i.toNat
  | .real (.signed true (.finite 0 _)) => .ok 0
  | .real (.signed true _) => .error .negativeOffset
  | .real (.signed false x) => .ok x.wholePart
  | .real .nan => .ok 0
  | v => .error (.offsetType v.typeName)

/-- The extension of the files. A value that does not count as true is taken as it is shown. -/
def extension? (s : Settings) : Except SettingsError Text :=
  match s .extension with
  | .text t =>
    if t.isEmpty || t.head? = some '.' then .ok t else .error (.extensionPoint t)
  | v => if v.isTrue then .error (.extensionType v.typeName) else .ok v.emptyText

/-- The option counts as true. -/
def flag (s : Settings) (field : Field) : Bool :=
  (s field).isTrue

/-- The text of an option, empty if it has another value. -/
def text (s : Settings) (field : Field) : Text :=
  match s field with
  | .text t => t
  | _ => []

/-- The members of an option that are texts. -/
def texts (s : Settings) (field : Field) : Mapping Text Text :=
  match s field with
  | .object members => members.filterMap fun (name, value) =>
    match value with
    | .text t => some (name, t)
    | _ => none
  | _ => []

end Settings

namespace Options

/-- The options that settings give, if they are in order. -/
def ofSettings? (host : Host) (s : Settings) : Except SettingsError Options := do
  let ignored ← s.ignored? host.charNamed
  let headerOffset ← s.headerOffset?
  let extension ← s.extension?
  return {
    ignored
    verbose := s.flag .verbose
    transliterate := s.flag .transliterate
    aliases := s.texts .aliases
    readings := s.texts .customPinyins
    indent := s.text .indent
    autoSimple := s.flag .autoSimple
    headerOffset
    extension
    emptyToken := s.text .emptyToken
    noteComments := s.flag .noteComments
    inferRootName := s.flag .inferRootName
    locPath := s.text .locPath
    locLanguage := s.text .locLanguage
    locTemplate := ⟨s.text .locTemplate, host.attributes⟩ }

/-- A sheet with this name is left out. -/
def ignores (o : Options) (name : Text) : Bool :=
  o.ignored.occursIn name

end Options

end MarkedSheet
