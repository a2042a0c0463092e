import MarkedSheet.Mapping
import MarkedSheet.Number.Integer
import MarkedSheet.Options.Value
import MarkedSheet.Text.Literal

/-!
# Arguments of the command line

Arguments are inputs and options with their values. An option may be cut to any beginning of its
name that no other option has, and takes its value from behind an equals sign or from the next
argument. After two dashes all arguments are inputs. The inputs stand together: arguments after a
first run of inputs and an option belong to nothing.
-/

namespace MarkedSheet

/-- The options of the command line. -/
inductive Switch
  | help
  | outDir
  | config
  | recursive
  | sheetsIgnore
  | verbose
  | transliterate
  | indent
  | noSimple
  | headerOffset
  | extension
  | emptyToken
  | noteComments
  | locPath
  | locLanguage
  deriving DecidableEq, Repr

namespace Switch

/-- The names of the options, in their order. -/
def names : List (String × Switch) := [
  ("-h", .help), ("--help", .help), ("--out-dir", .outDir), ("--config", .config),
  ("--recursive", .recursive), ("--sheets-ignore", .sheetsIgnore), ("--verbose", .verbose),
  ("--transliterate", .transliterate), ("--indent", .indent), ("--no-simple-kv", .noSimple),
  ("--header-row-offset", .headerOffset), ("--ext", .extension), ("--empty-token", .emptyToken),
  ("--note-comments", .noteComments), ("--loc-csv", .locPath), ("--loc-lang", .locLanguage)]

/-- All names of an option, as messages show them. -/
def shown (s : Switch) : String :=
  "/".intercalate ((names.filter fun (_, t) => t = s).map (·.1))

/-- The option takes a value. -/
def takesValue : Switch → Bool
  | help | recursive | verbose | transliterate | noSimple | noteComments => false
  | _ => true

end Switch

/-- Why arguments are refused. -/
inductive UsageError
  /-- Several options begin so. -/
  | ambiguous (argument : Text) (names : List String)
  /-- The option takes no value. -/
  | valueIgnored (s : Switch) (value : Text)
  /-- The option has no value. -/
  | valueMissing (s : Switch)
  /-- The value of the option is no whole number. -/
  | notInteger (s : Switch) (value : Text)
  /-- There is no input. -/
  | inputsMissing
  /-- Some arguments belong to nothing. -/
  | unrecognized (arguments : List Text)
  deriving DecidableEq, Repr

/-- The description of an error. -/
def UsageError.message : UsageError → String
  | .ambiguous argument names =>
    s!"ambiguous option: {String.ofList argument} could match " ++ ", ".intercalate names
  | .valueIgnored s value =>
    s!"argument {s.shown}: ignored explicit argument {String.ofList value.literal}"
  | .valueMissing s => s!"argument {s.shown}: expected one argument"
  | .notInteger s value =>
    s!"argument {s.shown}: invalid int value: {String.ofList value.literal}"
  | .inputsMissing => "the following arguments are required: inputs"
  | .unrecognized arguments =>
    "unrecognized arguments: " ++ String.ofList (Text.join [' '] arguments)

namespace CommandLine

/-- What an argument is. -/
inductive Word
  /-- An input or a value. -/
  | plain
  /-- The two dashes after which there are no options. -/
  | dashes
  /-- An option, with a value if one belongs to it. `joined` says that the value follows a short
  name without a sign between them. -/
  | option (s : Switch) (joined : Bool) (value? : Option Text)
  /-- An option that is not known. -/
  | unknown
  deriving DecidableEq, Repr

/-- An argument and what it is. -/
structure Placed where
  argument : Text
  word : Word
  deriving DecidableEq, Repr

/-- The text before the first equals sign, and the text after it if there is one. -/
def splitEquals : Text → Text × Option Text
  | [] => ([], none)
  | c :: rest =>
    if c = '=' then ([], some rest)
    else
      let (before, after?) := splitEquals rest
      (c :: before, after?)

/-- The option with exactly this name. -/
def named? (name : Text) : Option Switch :=
  (Switch.names.find? fun (other, _) => other.toList = name).map (·.2)

/-- A minus and a number. -/
def isNegativeNumber (argument : Text) : Bool :=
  match argument with
  | '-' :: rest =>
    let rest := if rest.getLast? = some '\n' then rest.dropLast else rest
    let whole := rest.takeWhile isDigitChar
    match rest.dropWhile isDigitChar with
    | [] => !whole.isEmpty
    | '.' :: places => !places.isEmpty && places.all isDigitChar
    | _ => false
  | _ => false

/-- What an argument with two dashes is that is no full name. -/
def longWord (argument : Text) : Except UsageError (Option Word) :=
  let (start, value?) := splitEquals argument
  match Switch.names.filter fun (name, _) => start.isPrefixOf name.toList with
  | [] => .ok none
  | [(_, s)] => .ok (some (.option s false value?))
  | several => .error (.ambiguous argument (several.map (·.1)))

/-- What an argument with one dash is that is no full name. -/
def shortWord (argument : Text) : Option Word :=
  (named? (argument.take 2)).map fun s => .option s true (some (argument.drop 2))

/-- What an argument is that starts with a dash and names no option in any way. -/
def otherWord (argument : Text) : Word :=
  if isNegativeNumber argument || argument.contains ' ' then .plain else .unknown

/-- What an argument is that starts with a dash. -/
def dashedWord (argument : Text) : Except UsageError Word :=
  let (start, value?) := splitEquals argument
  match named? argument with
  | some s => .ok (.option s false none)
  | none =>
    if argument.length = 1 then .ok .plain
    else match value?.bind fun _ => named? start with
      | some s => .ok (.option s (start.length = 2) value?)
      | none =>
        if "--".toList.isPrefixOf argument then do
          return (← longWord argument).getD (otherWord argument)
        else .ok ((shortWord argument).getD (otherWord argument))

/-- What arguments are. -/
def classify : List Text → Except UsageError (List Placed)
  | [] => .ok []
  | argument :: rest =>
    if argument = "--".toList then
      .ok (⟨argument, .dashes⟩ :: rest.map fun other => ⟨other, .plain⟩)
    else do
      let word ← if argument.head? = some '-' then dashedWord argument else pure .plain
      let others ← classify rest
      return ⟨argument, word⟩ :: others

/-- What arguments give. -/
structure Arguments where
  /-- The inputs, once there are any. -/
  inputs : List Text := []
  /-- The options with their last values. -/
  given : Mapping Switch Value := []
  /-- The arguments that belong to nothing. -/
  extras : List Text := []

namespace Arguments

/-- Takes a run of arguments that are no options. -/
def take (a : Arguments) (chunk : List Text) : Arguments :=
  if chunk.isEmpty then a
  else if a.inputs.isEmpty then { a with inputs := chunk }
  else { a with extras := a.extras ++ chunk }

/-- Takes the arguments after the last option; `dashed` starts with two dashes if there are any. -/
def finish (a : Arguments) (chunk dashed : List Text) : Arguments :=
  let inputs := chunk ++ dashed.drop 1
  if a.inputs.isEmpty && !inputs.isEmpty then { a with inputs }
  else { a with extras := a.extras ++ chunk ++ dashed }

/-- Sets an option. -/
def set (a : Arguments) (s : Switch) (value : Value) : Arguments :=
  { a with given := a.given.set s value }

/-- Sets an option to a value in writing. The two dashes are no value, even behind an equals
sign. -/
def setText (a : Arguments) (s : Switch) (value : Text) : Except UsageError Arguments :=
  if value = "--".toList then .ok (a.set s (.list []))
  else if s = .headerOffset then
    match readInt? value with
    | some i => .ok (a.set s (.whole i))
    | none => .error (.notInteger s value)
  else .ok (a.set s (.text value))

/-- Sets an option that takes no value. A value joined to a short name is taken as more short names,
of which there is only one. -/
def setFlag (a : Arguments) (s : Switch) (joined : Bool) : Option Text → Except UsageError Arguments
  | none => .ok (a.set s (.truth true))
  | some value =>
    let more := if joined then value.dropWhile (· = 'h') else value
    if more.isEmpty && !value.isEmpty then .ok (a.set s (.truth true))
    else .error (.valueIgnored s more)

end Arguments

/-- Takes words from left to right, after a run of plain words that has not been taken yet. -/
def consume (a : Arguments) (chunk : List Text) : List Placed → Except UsageError Arguments
  | [] => .ok (a.finish chunk [])
  | ⟨argument, .plain⟩ :: rest => consume a (chunk ++ [argument]) rest
  | ⟨argument, .dashes⟩ :: rest => .ok (a.finish chunk (argument :: rest.map (·.argument)))
  | ⟨argument, .unknown⟩ :: rest =>
    let a := a.take chunk
    consume { a with extras := a.extras ++ [argument] } [] rest
  | ⟨_, .option s joined value?⟩ :: rest => do
    let a := a.take chunk
    if s.takesValue then
      match value?, rest with
      | some value, rest => consume (← a.setText s value) [] rest
      | none, ⟨value, .plain⟩ :: rest => consume (← a.setText s value) [] rest
      | none, _ => .error (.valueMissing s)
    else
      let a ← a.setFlag s joined value?
      if s = .help then return a else consume a [] rest

/-- The arguments ask for help. -/
def Arguments.wantsHelp (a : Arguments) : Bool :=
  (a.given.get? .help).isSome

/-- What arguments give. -/
def Arguments.ofList? (arguments : List Text) : Except UsageError Arguments := do
  let a ← consume {} [] (← classify arguments)
  if a.wantsHelp then return a
  else if a.inputs.isEmpty then .error .inputsMissing
  else if a.extras.isEmpty then return a
  else .error (.unrecognized a.extras)

end CommandLine

end MarkedSheet
