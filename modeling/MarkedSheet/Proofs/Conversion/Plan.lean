import MarkedSheet.Conversion.Run

/-!
# What a run has to do

A plan is what a run starts from. It says for every sheet of the workbooks, taken for itself, what
the sheet is converted to and where that is written, and so what the files and the report are after
a list of sheets (`Plan.Written`, `Plan.report`), if no two of them are written to one file.
-/

namespace MarkedSheet

/-- A sheet that a run comes to, with the path of its workbook. -/
structure Job where
  book : Path
  sheet : Sheet

/-- What a run is asked for, and the file tree, the lexicon and the printed lines it starts with. -/
structure Plan where
  o : Options
  folder? : Option Path
  recursive : Bool
  inputs : List Path
  tree : FileTree
  lexicon : Pinyin.Lexicon
  printed : List Text

namespace Plan

variable (plan : Plan)

/-- The progress that the run starts with. -/
def first : Progress where
  tree := plan.tree
  lexicon := plan.lexicon
  printed := plan.printed

/-- The lexicon that sheets are converted with. -/
def readings : Pinyin.Lexicon :=
  plan.lexicon.addAll plan.o.readings

/-- The progress when the readings of the options are in the lexicon. -/
def ready : Progress :=
  { plan.first with lexicon := plan.readings }

/-- How the run ends, and the progress after it. -/
def run : Except Failure Report × Progress :=
  (Work.run plan.o plan.folder? plan.recursive plan.inputs).start plan.first

/-- The workbooks that the inputs lead to. -/
def found : Except Failure (List Path) :=
  ((Work.discover plan.recursive plan.o.verbose plan.inputs).start plan.ready).1

/-- The sheets of a workbook, if it can be read. -/
def read (path : Path) : Except Failure (List Sheet) :=
  ((Work.readBook path plan.o.headerOffset).start plan.first).1

/-- The sheets of the workbooks that can be read, in order. -/
def jobs (books : List Path) : List Job :=
  books.flatMap fun path => match plan.read path with
    | .ok sheets => sheets.map fun sheet => ⟨path, sheet⟩
    | .error _ => []

/-- The workbooks that are there and cannot be read. -/
def unread (books : List Path) : List Path :=
  books.filter fun path => match plan.read path with
    | .error (.read _) => true
    | _ => false

/-- The conversion of a sheet. -/
def converted (job : Job) : Logged (Option Output) :=
  job.sheet.convert plan.readings plan.o

/-- The path of the file that an output of a sheet is written to. -/
def goal (job : Job) (output : Output) : Path :=
  (plan.folder?.getD job.book.parent).append (.ofText output.fileName)

/-- Where an output of a sheet is written. -/
def target (job : Job) (output : Output) : Except FileError Location :=
  plan.tree.locate (plan.goal job output)

/-- What is written for a sheet, and where. -/
def output? (job : Job) : Option (Location × Output) :=
  match (plan.converted job).result with
  | .ok (some output) => (plan.target job output).toOption.map (·, output)
  | _ => none

/-- How a sheet that is left out is told. -/
def skipped? (job : Job) : Option Text :=
  match (plan.converted job).result with
  | .ok none => some (job.book.name ++ ':' :: job.sheet.name)
  | _ => none

/-- What is written for sheets, and where. -/
def outputs (jobs : List Job) : Mapping Location Output :=
  jobs.filterMap plan.output?

/-- Where sheets are written, those apart that are left out. -/
def targets (jobs : List Job) : List Location :=
  (plan.outputs jobs).map (·.1)

/-- The localization entries of sheets. -/
def entries (jobs : List Job) : List Localization.Entry :=
  jobs.flatMap fun job => (plan.converted job).entries

/-- The number of warnings about the sheets that are written. -/
def warnings (jobs : List Job) : Nat :=
  ((plan.outputs jobs).flatMap fun pair => pair.2.warnings).length

/-- What a run over workbooks has to tell, with the table it has written. -/
def report (books : List Path) (table : Option Location) : Report where
  written := plan.targets (plan.jobs books)
  skipped := (plan.jobs books).filterMap plan.skipped?
  failed := plan.unread books
  entries := plan.entries (plan.jobs books)
  table := table
  warnings := plan.warnings (plan.jobs books)

/-- Where the table of localized texts is. -/
def table : Except FileError Location :=
  plan.tree.locate (.ofText plan.o.locPath)

/-- The table that a file holds; no file stands for an empty table. -/
def tableIn : Option Content → Except EncodingError Localization.Table
  | none => .ok ⟨[], []⟩
  | some content => content.decodeTable.map .ofText

/-- Sheets have been written, each to a file of its own, and no other file is changed. -/
structure Written (jobs : List Job) (tree : FileTree) : Prop where
  nodup : (plan.targets jobs).Nodup
  output : ∀ pair ∈ plan.outputs jobs, tree.file? pair.1 = some (.text pair.2.text)
  other : ∀ location, location ∉ plan.targets jobs →
    tree.file? location = plan.tree.file? location

/-- Sheets have been written, each to a file of its own, then their entries were merged into the
table at a place, and no other file is changed. -/
structure Merged (jobs : List Job) (place : Location) (before : Localization.Table)
    (tree : FileTree) : Prop where
  output : ∀ pair ∈ plan.outputs jobs, tree.file? pair.1 = some (.text pair.2.text)
  table : tree.file? place
    = some (.text (before.merge plan.o.locLanguage (plan.entries jobs)).text)
  other : ∀ location, location ∉ plan.targets jobs → location ≠ place →
    tree.file? location = plan.tree.file? location

/-- A run has come past sheets, and its progress tells what there is to tell about them. -/
structure Reached (jobs : List Job) (p : Progress) : Prop where
  written : plan.Written jobs p.tree
  ground : p.tree.toGround = plan.tree.toGround
  lexicon : p.lexicon = plan.readings
  generated : p.generated = plan.targets jobs
  entries : p.entries = plan.entries jobs
  skipped : p.skipped = jobs.filterMap plan.skipped?
  warnings : p.warnings = plan.warnings jobs

section Append

theorem jobs_cons (path : Path) (rest : List Path) :
    plan.jobs (path :: rest) = plan.jobs [path] ++ plan.jobs rest := by
  simp [jobs]

theorem unread_cons (path : Path) (rest : List Path) :
    plan.unread (path :: rest) = plan.unread [path] ++ plan.unread rest := by
  simp only [unread, List.filter_cons]
  split <;> rfl

theorem outputs_append (s t : List Job) :
    plan.outputs (s ++ t) = plan.outputs s ++ plan.outputs t :=
  List.filterMap_append ..

theorem targets_append (s t : List Job) :
    plan.targets (s ++ t) = plan.targets s ++ plan.targets t := by
  rw [targets, outputs_append, List.map_append]
  rfl

theorem warnings_append (s t : List Job) :
    plan.warnings (s ++ t) = plan.warnings s + plan.warnings t := by
  simp [warnings, outputs_append]

theorem entries_append (s t : List Job) :
    plan.entries (s ++ t) = plan.entries s ++ plan.entries t := by
  simp [entries]

end Append

section Jobs

variable {plan}

theorem jobs_of_read {path : Path} {sheets : List Sheet} (h : plan.read path = .ok sheets) :
    plan.jobs [path] = sheets.map fun sheet => ⟨path, sheet⟩ := by
  simp [jobs, h]

theorem jobs_of_unread {path : Path} {e : ReadError} (h : plan.read path = .error (.read e)) :
    plan.jobs [path] = [] := by
  simp [jobs, h]

theorem unread_of_read {path : Path} {sheets : List Sheet} (h : plan.read path = .ok sheets) :
    plan.unread [path] = [] := by
  simp [unread, h]

theorem unread_of_unread {path : Path} {e : ReadError} (h : plan.read path = .error (.read e)) :
    plan.unread [path] = [path] := by
  simp [unread, h]

theorem outputs_of_written {job : Job} {output : Output} {location : Location}
    (h : (plan.converted job).result = .ok (some output))
    (htarget : plan.target job output = .ok location) :
    plan.outputs [job] = [(location, output)] := by
  simp [outputs, output?, h, htarget, Except.toOption]

theorem outputs_of_skipped {job : Job} (h : (plan.converted job).result = .ok none) :
    plan.outputs [job] = [] := by
  simp [outputs, output?, h]

theorem targets_of_written {job : Job} {output : Output} {location : Location}
    (h : (plan.converted job).result = .ok (some output))
    (htarget : plan.target job output = .ok location) : plan.targets [job] = [location] := by
  rw [targets, outputs_of_written h htarget]
  rfl

theorem targets_of_skipped {job : Job} (h : (plan.converted job).result = .ok none) :
    plan.targets [job] = [] := by
  rw [targets, outputs_of_skipped h]
  rfl

theorem warnings_of_written {job : Job} {output : Output} {location : Location}
    (h : (plan.converted job).result = .ok (some output))
    (htarget : plan.target job output = .ok location) :
    plan.warnings [job] = output.warnings.length := by
  simp [warnings, outputs_of_written h htarget]

theorem warnings_of_skipped {job : Job} (h : (plan.converted job).result = .ok none) :
    plan.warnings [job] = 0 := by
  simp [warnings, outputs_of_skipped h]

theorem entries_singleton (job : Job) : plan.entries [job] = (plan.converted job).entries := by
  simp [entries]

theorem skipped_of_written {job : Job} {output : Output}
    (h : (plan.converted job).result = .ok (some output)) :
    [job].filterMap plan.skipped? = [] := by
  simp [skipped?, h]

theorem skipped_of_skipped {job : Job} (h : (plan.converted job).result = .ok none) :
    [job].filterMap plan.skipped? = [job.book.name ++ ':' :: job.sheet.name] := by
  simp [skipped?, h]

end Jobs

section Written

variable {plan} {jobs : List Job} {job : Job} {tree after : FileTree}

theorem written_nil : plan.Written [] plan.tree :=
  ⟨List.nodup_nil, fun _ h => absurd h List.not_mem_nil, fun _ _ => rfl⟩

/-- A sheet that is left out changes no file. -/
theorem Written.skip (h : plan.Written jobs tree)
    (hskip : (plan.converted job).result = .ok none) : plan.Written (jobs ++ [job]) tree := by
  have houtputs := plan.outputs_append jobs [job]
  have htargets := plan.targets_append jobs [job]
  rw [outputs_of_skipped hskip, List.append_nil] at houtputs
  rw [targets_of_skipped hskip, List.append_nil] at htargets
  refine ⟨by rw [htargets]; exact h.nodup, ?_, ?_⟩
  · rw [houtputs]
    exact h.output
  · rw [htargets]
    exact h.other

/-- A sheet that is written to a file of its own leaves the files of the others. -/
theorem Written.write (h : plan.Written jobs tree) {output : Output} {target : Location}
    (houtput : (plan.converted job).result = .ok (some output))
    (htarget : plan.target job output = .ok target) (hnew : target ∉ plan.targets jobs)
    (hafter : ∀ location, after.file? location = if target = location
      then some (.text output.text) else tree.file? location) :
    plan.Written (jobs ++ [job]) after := by
  have houtputs := plan.outputs_append jobs [job]
  have htargets := plan.targets_append jobs [job]
  rw [outputs_of_written houtput htarget] at houtputs
  rw [targets_of_written houtput htarget] at htargets
  refine ⟨?_, fun pair hpair => ?_, fun location hlocation => ?_⟩
  · rw [htargets]
    exact List.nodup_append.2 ⟨h.nodup, by simp, fun a ha b hb hab =>
      hnew (List.mem_singleton.1 hb ▸ hab ▸ ha)⟩
  · rw [houtputs, List.mem_append, List.mem_singleton] at hpair
    rw [hafter]
    rcases hpair with hpair | rfl
    · have hne : target ≠ pair.1 := fun heq => hnew (heq ▸ List.mem_map_of_mem hpair)
      rw [if_neg hne, h.output pair hpair]
    · rw [if_pos rfl]
  · rw [htargets, List.mem_append, List.mem_singleton, not_or] at hlocation
    rw [hafter, if_neg fun heq => hlocation.2 heq.symm, h.other location hlocation.1]

theorem Written.merge (h : plan.Written jobs tree) {table : Location}
    (hfree : table ∉ plan.targets jobs) {before : Localization.Table}
    (hafter : ∀ location, after.file? location = if table = location
      then some (.text (before.merge plan.o.locLanguage (plan.entries jobs)).text)
      else tree.file? location) : plan.Merged jobs table before after where
  output pair hpair := by
    have hne : table ≠ pair.1 := fun heq => hfree (heq ▸ List.mem_map_of_mem hpair)
    rw [hafter, if_neg hne, h.output pair hpair]
  table := by rw [hafter, if_pos rfl]
  other location hlocation hne := by rw [hafter, if_neg hne.symm, h.other location hlocation]

end Written

end Plan

end MarkedSheet
