import MarkedSheet.Conversion.Logged
import MarkedSheet.Options.Basic
import MarkedSheet.Options.File
import MarkedSheet.Workbook.Reader

/-!
# Failures of a run

Why a run ends early. The command line tells most failures in one line; the others are faults of the
settings' types, of look-ups, and of paths and the file system, which it does not expect.
-/

namespace MarkedSheet

/-- The template itself cannot be read or applied; otherwise it names something that is not there,
or that is not of the right sort. -/
def TemplateError.isMalformed : TemplateError → Bool
  | unknownName _ | positional _ | indexRange | noAttribute .. | indexNotNumber => false
  | foreign isValue _ => isValue
  | _ => true

/-- The command line tells the error. -/
def ConversionError.isReported : ConversionError → Bool
  | template e => e.isMalformed
  | columns _ => true
  | syllables _ | range _ => false

/-- The command line tells the error. -/
def SettingsError.isReported : SettingsError → Bool
  | pattern _ e => e.fault.isReported
  | negativeOffset | extensionPoint _ => true
  | patternType _ | offsetType _ | extensionType _ => false

/-- The command line tells the error. -/
def IntegerError.isReported : IntegerError → Bool
  | notNumeral _ | notNumber => true
  | infinite | wrongType _ => false

/-- The command line tells the error. -/
def FileError.isReported : FileError → Bool
  | nullCharacter => true
  | _ => false

/-- The command line tells the error. -/
def OptionsFileError.isReported : OptionsFileError → Bool
  | file e => e.isReported
  | _ => true

/-- Why a run ends early. -/
inductive Failure
  | conversion (e : ConversionError)
  | settings (e : SettingsError)
  | number (e : IntegerError)
  | optionsFile (e : OptionsFileError)
  /-- An input is not there. -/
  | inputMissing (path : Text)
  /-- A workbook is not there. -/
  | bookMissing (path : Text)
  | read (e : ReadError)
  /-- Two sheets would be written to one file. -/
  | duplicate (path sheet book : Text)
  | file (e : FileError)
  /-- A table is not encoded in UTF-8. -/
  | encoding (e : EncodingError)
  deriving DecidableEq, Repr

namespace Failure

/-- The description of a failure. -/
def message : Failure → String
  | conversion e => e.message
  | settings e => e.message
  | number e => e.message
  | optionsFile e => e.message
  | inputMissing path => s!"Input not found: {String.ofList path}"
  | bookMissing path => s!"Workbook not found: {String.ofList path}"
  | read e => e.message
  | duplicate path sheet book =>
    s!"KV file {String.ofList path} is duplicated (sheet '{String.ofList sheet}' "
      ++ s!"in {String.ofList book})"
  | file e => e.message
  | encoding e => e.message

/-- The command line tells the failure. -/
def isReported : Failure → Bool
  | conversion e => e.isReported
  | settings e => e.isReported
  | number e => e.isReported
  | optionsFile e => e.isReported
  | file e => e.isReported
  | inputMissing _ | bookMissing _ | read _ | duplicate .. | encoding _ => true

end Failure

end MarkedSheet
