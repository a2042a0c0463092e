import MarkedSheet.CommandLine.Arguments
import MarkedSheet.Conversion.Run

/-!
# The command

The command takes its settings from an options file, sets what the arguments give over them, and
runs over the inputs. It ends with an exit code and a line about what went wrong; a failure that it
does not expect escapes.
-/

namespace MarkedSheet

namespace CommandLine

/-- How the command ends. -/
inductive Ending
  /-- The inputs have been converted. -/
  | done (report : Report)
  /-- The arguments asked for help only. -/
  | help
  /-- The arguments are refused. -/
  | refused (e : UsageError)
  /-- The run failed. -/
  | failed (e : Failure)
  deriving DecidableEq, Repr

namespace Ending

/-- The exit code, none for a failure that escapes. -/
def exitCode? : Ending → Option Nat
  | done _ | help => some 0
  | refused _ => some 2
  | failed e => if e.isReported then some 1 else none

/-- What is printed about an error. -/
def errorText : Ending → Text
  | done _ | help => []
  | refused e => "sheetkv: error: ".toList ++ e.message.toList ++ ['\n']
  | failed e =>
    if e.isReported then "[sheetkv] ERROR: ".toList ++ e.message.toList ++ ['\n'] else []

end Ending

/-- A text, empty if the argument is missing or no text. -/
def Arguments.text (a : Arguments) (s : Switch) : Text :=
  match a.given.get? s with
  | some (.text t) => t
  | _ => []

/-- The value that an option of the command line gives to a setting. A flag counts as true, and the
letter t after a backslash is a tabulator as an indentation. -/
def settingOf (s : Switch) (value : Value) : Option (Field × Value) :=
  match s with
  | .sheetsIgnore => some (.sheetsIgnore, value)
  | .verbose => some (.verbose, .truth true)
  | .transliterate => some (.transliterate, .truth true)
  | .indent => match value with
    | .text ['\\', 't'] => some (.indent, .text ['\t'])
    | value => some (.indent, value)
  | .noSimple => some (.autoSimple, .truth false)
  | .headerOffset => some (.headerOffset, value)
  | .extension => some (.extension, value)
  | .emptyToken => some (.emptyToken, value)
  | .noteComments => some (.noteComments, .truth true)
  | .locPath => some (.locPath, value)
  | .locLanguage => some (.locLanguage, value)
  | .help | .outDir | .config | .recursive => none

/-- The settings with what arguments give set over them. -/
def Arguments.over (a : Arguments) (settings : Settings) : Settings :=
  (a.given.filterMap fun (s, value) => settingOf s value).foldl
    (fun settings (field, value) => settings.set field value) settings

/-- The options that arguments give. -/
def Arguments.options (host : Host) (a : Arguments) : Work Options := do
  let config := a.text .config
  let base ← if config.isEmpty then pure .default else Work.loadSettings host (.ofText config)
  Work.lift .settings (Options.ofSettings? host (a.over base))

/-- The run that arguments ask for. -/
def Arguments.run (host : Host) (a : Arguments) : Work Report := do
  let options ← a.options host
  let outDir := a.text .outDir
  Work.run options (if outDir.isEmpty then none else some (.ofText outDir))
    (a.given.get? .recursive).isSome (a.inputs.map .ofText)

/-- Performs the command. -/
def perform (host : Host) (arguments : List Text) (progress : Progress) : Ending × Progress :=
  match Arguments.ofList? arguments with
  | .error e => (.refused e, progress)
  | .ok a =>
    if a.wantsHelp then (.help, progress)
    else match (a.run host).start progress with
      | (.ok report, progress) => (.done report, progress)
      | (.error e, progress) => (.failed e, progress)

end CommandLine

end MarkedSheet
