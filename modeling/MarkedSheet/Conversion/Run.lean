import MarkedSheet.Conversion.Discovery

/-!
# Runs

A run converts workbooks one after another, sheet by sheet, and writes each sheet that is not left
out to a file of its own. Two sheets for one file end it. A workbook that cannot be read is told and
left out. In the end the localization entries are merged into their table.
-/

namespace MarkedSheet

/-- What a run has to tell. -/
structure Report where
  written : List Location
  /-- The sheets that were left out, each after its workbook. -/
  skipped : List Text
  /-- The workbooks that could not be read. -/
  failed : List Path
  entries : List Localization.Entry
  /-- The table of localized texts, if one was written. -/
  table : Option Location
  warnings : Nat
  deriving DecidableEq, Repr

namespace Work

/-- The sheets of a workbook. -/
def readBook (path : Path) (headerOffset : Nat) : Work (List Sheet) := do
  let location ← locate path
  if ← isThere location then lift .read ((← get).tree.sheets location headerOffset)
  else throw (.bookMissing (← fullPath location))

/-- Converts a sheet. Unless the readings of the options are `known`, the sheet adds them to the
lexicon. -/
def convertSheet (o : Options) (known : Bool) (s : Sheet) : Work (Option Output) := do
  let p ← get
  let lexicon := if known then p.lexicon else s.lexiconAfter p.lexicon o
  let logged := s.convert lexicon o
  set { p with
    lexicon, printed := p.printed ++ logged.printed, entries := p.entries ++ logged.entries }
  lift .conversion logged.result

/-- Writes what a sheet was converted to. -/
def writeOutput (folder : Path) (book : Text) (s : Sheet) (output : Output) : Work Location := do
  let target ← locate (folder.append (.ofText output.fileName))
  let p ← get
  if p.generated.contains target then
    throw (.duplicate (p.tree.fullPath target) s.name book)
  set { p with generated := p.generated ++ [target] }
  print [sheetLine output.sheetName
    ("Writing sheet content to ".toList ++ target.getLastD [])]
  writeFile target output.text
  modify fun p => { p with warnings := p.warnings + output.warnings.length }
  return target

/-- Converts the sheets of a workbook. -/
def convertSheets (o : Options) (known : Bool) (folder : Path) (book : Text) :
    List Sheet → Work (List Location)
  | [] => return []
  | s :: rest => do
    let written ← match ← convertSheet o known s with
      | none => do
        modify fun p => { p with skipped := p.skipped ++ [book ++ ':' :: s.name] }
        pure []
      | some output => do
        let target ← writeOutput folder book s output
        pure [target]
    let others ← convertSheets o known folder book rest
    return written ++ others

/-- Converts a workbook, into the folder it is in unless another is chosen. -/
def convertBook (o : Options) (known : Bool) (folder? : Option Path) (path : Path) :
    Work (List Location) := do
  say ("Converting ".toList ++ path.text ++ " to kv".toList)
  let sheets ← readBook path o.headerOffset
  convertSheets o known (folder?.getD path.parent) path.name sheets

/-- Converts a workbook; one that cannot be read is told. -/
def tryBook (o : Options) (folder? : Option Path) (path : Path) :
    Work (List Location × List Path) :=
  tryCatch (do return (← convertBook o true folder? path, [])) fun
    | .read e => do
      say ("ERROR: ".toList ++ e.message.toList)
      return ([], [path])
    | failure => throw failure

/-- Converts workbooks, and tells those that could not be read. -/
def convertBooks (o : Options) (folder? : Option Path) :
    List Path → Work (List Location × List Path)
  | [] => return ([], [])
  | path :: rest => do
    let (written, failed) ← tryBook o folder? path
    let (others, otherFailed) ← convertBooks o folder? rest
    return (written ++ others, failed ++ otherFailed)

/-- Merges the entries found into the table of the options, if there are any. -/
def mergeEntries (o : Options) : Work (Option Location) := do
  let entries := (← get).entries
  if o.locPath.isEmpty || entries.isEmpty then return none
  else
    let location ← mergeTable (.ofText o.locPath) o.locLanguage entries
    say ("Wrote ".toList ++ Text.ofNat entries.length ++ " localization entries to ".toList
      ++ (← fullPath location))
    return some location

/-- The last line of a run. -/
def doneLine (report : Report) : Text :=
  let count (n : Nat) (what : String) := Text.ofNat n ++ what.toList
  "Done: ".toList ++ count report.written.length " files written, "
    ++ count report.skipped.length " sheets skipped, "
    ++ count report.failed.length " workbooks failed, " ++ count report.warnings " warnings"

/-- Converts all workbooks that inputs lead to. -/
def run (o : Options) (folder? : Option Path) (recursive : Bool) (inputs : List Path) :
    Work Report := do
  modify fun p => { p with lexicon := p.lexicon.addAll o.readings }
  let books ← discover recursive o.verbose inputs
  let (written, failed) ← convertBooks o folder? books
  let table ← mergeEntries o
  let p ← get
  let report : Report := ⟨written, p.skipped, failed, p.entries, table, p.warnings⟩
  say (doneLine report)
  return report

end Work

end MarkedSheet
