import MarkedSheet.Conversion.Logged
import MarkedSheet.Emission.Block
import MarkedSheet.KeyValues.Document
import MarkedSheet.Options.Basic
import MarkedSheet.Pinyin.Transliterator
import MarkedSheet.Workbook.Sheet

/-!
# Converting a sheet

A sheet whose name is not left out, and which has data rows, becomes one file. A sheet of two
columns is written as a flat list, every other as objects, from which localization entries are taken
first.
-/

namespace MarkedSheet

/-- What is written for a sheet. -/
structure Output where
  sheetName : Text
  fileName : Text
  rootName : Text
  text : Text
  /-- The sheet is written as a flat list. -/
  simple : Bool
  warnings : List Warning
  deriving DecidableEq, Repr

/-- The lines of a sheet inside its root block. -/
structure Body where
  lines : List Text
  rootName : Text
  warnings : List Warning
  deriving DecidableEq, Repr

/-- A line about a sheet. -/
def sheetLine (name message : Text) : Text :=
  '[' :: name ++ "] ".toList ++ message

/-- The line that is printed for a warning. -/
def warningLine (name : Text) (w : Warning) : Text :=
  sheetLine name ("WARNING: ".toList ++ w.message.toList)

namespace Logged

/-- Prints warnings about a sheet. -/
def warn (name : Text) (ws : List Warning) : Logged Unit :=
  .print (ws.map (warningLine name))

end Logged

namespace Sheet

/-- Leaves out a sheet for a reason. -/
def skip (o : Options) (name : Text) (reason : String) : Logged (Option Output) := do
  .print (if o.verbose then [sheetLine name ("Ignoring sheet: ".toList ++ reason.toList)] else [])
  return none

/-- The transliterator of a conversion. -/
def transliterator (o : Options) : Pinyin.Transliterator :=
  ⟨o.aliases⟩

/-- The name under which a sheet is written. Chinese is transliterated, which is told. -/
def writtenName (lexicon : Pinyin.Lexicon) (o : Options) (name : Text) : Logged Text :=
  if Pinyin.containsHan name then do
    let latin ← .lift .syllables ((transliterator o).convert lexicon name)
    .print [sheetLine name ("WARNING: sheet name contains Chinese, written as '".toList ++ latin
      ++ "'. Add it to sheets_ignore to skip this sheet.".toList)]
    return latin
  else return name

/-- The data rows under their schema. -/
def page (o : Options) (s : Sheet) (schema : Schema) (rows : List Row) (notes : Row) : Page where
  schema := schema
  rows := rows
  emptyToken := o.emptyToken
  notes := if o.noteComments then some notes else none
  firstRowNumber := s.firstDataRowNumber

/-- The lines of a flat list. -/
def flatBody (o : Options) (name : Text) (page : Page) : Logged Body := do
  let lines ← .lift .columns (page.flatLines o.indent 1)
  return ⟨lines, name, []⟩

/-- The localization entries of a page, with the warnings given on the way. -/
def harvested (o : Options) (name : Text) (page : Page) : Logged (List Warning) := do
  let harvest := Localization.harvest page o.locTemplate
  .warn name harvest.warnings
  .note harvest.entries
  match harvest.fault with
  | some e => .fail (.template e)
  | none => do
    let count := harvest.entries.length
    .print (if o.verbose && count != 0 then
      [sheetLine name (Text.ofNat count ++ " localization entries".toList)] else [])
    return harvest.warnings

/-- The lines of the objects of a page. -/
def objectBody (o : Options) (name : Text) (page : Page) : Logged Body := do
  let found ← harvested o name page
  let document := page.document o.indent 1
  .warn name document.warnings
  let lines ← .lift .range document.result
  let root := if o.inferRootName then KeyValues.rootName (KeyValues.bodyText lines) name else name
  return ⟨lines, root, found ++ document.warnings⟩

/-- Lines in Latin letters, if that is wanted. -/
def writtenLines (lexicon : Pinyin.Lexicon) (o : Options) (lines : List Text) :
    Logged (List Text) :=
  if o.transliterate then
    .lift .syllables (lines.mapM ((transliterator o).convert lexicon))
  else return lines

/-- What is written for the data rows of a sheet. -/
def outputOf (lexicon : Pinyin.Lexicon) (o : Options) (s : Sheet) (name : Text) (titles : Row)
    (page : Page) : Logged Output := do
  let titleWarnings := titleWarnings titles
  .warn name titleWarnings
  let simple := o.autoSimple && page.schema.isSimple
  let body ← if simple then flatBody o name page else objectBody o name page
  let lines ← writtenLines lexicon o body.lines
  return {
    sheetName := name
    fileName := name ++ o.extension
    rootName := body.rootName
    text := KeyValues.document s.source name body.rootName lines
    simple
    warnings := titleWarnings ++ body.warnings }

/-- Converts a sheet that is not left out for its name. -/
def convertNamed (lexicon : Pinyin.Lexicon) (o : Options) (s : Sheet) (name : Text) :
    Logged (Option Output) :=
  if s.rows.isEmpty then skip o name "empty sheet"
  else if !s.hasHeaderRows then skip o name "missing note/title rows"
  else do
    let rows ← .lift .range s.dataRows
    if rows.isEmpty then skip o name "no data rows"
    else
      let titles ← .lift .range s.titleRow
      let notes ← .lift .range s.noteRow
      let output ← outputOf lexicon o s name titles (page o s (.ofTitles titles) rows notes)
      return some output

/-- Converts a sheet; nothing is written for a sheet that is left out. The readings that the options
add are in the lexicon. -/
def convert (lexicon : Pinyin.Lexicon) (o : Options) (s : Sheet) : Logged (Option Output) :=
  if o.ignores s.name then skip o s.name "name matches sheets_ignore"
  else do
    let name ← writtenName lexicon o s.name
    convertNamed lexicon o s name

/-- The lexicon after a sheet was converted on its own: a sheet that is not left out adds the
readings of the options first. -/
def lexiconAfter (lexicon : Pinyin.Lexicon) (o : Options) (s : Sheet) : Pinyin.Lexicon :=
  if o.ignores s.name then lexicon else lexicon.addAll o.readings

/-- Converts a sheet on its own. -/
def convertAlone (lexicon : Pinyin.Lexicon) (o : Options) (s : Sheet) : Logged (Option Output) :=
  convert (lexiconAfter lexicon o s) o s

end Sheet

end MarkedSheet
