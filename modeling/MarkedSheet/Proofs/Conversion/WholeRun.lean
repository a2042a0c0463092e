import MarkedSheet.Proofs.Conversion.Plan
import MarkedSheet.Proofs.Conversion.Steps

/-!
# Whole runs

A run takes the sheets of its workbooks one after another. Each step keeps what the progress tells
of the sheets so far (`Plan.Reached`), so a run either comes past all sheets and merges their
entries, or stops at the first sheet whose target was written before (`Plan.Stopped`); a workbook
that cannot be read is told and changes nothing else (`Plan.run_writes_each_target_once`).
-/

namespace MarkedSheet

/-- The failure is one of a sheet that cannot be converted, or of a path that cannot be followed or
a file that cannot be opened or written. -/
def Failure.isForeign : Failure → Bool
  | .conversion _ | .file _ => true
  | _ => false

/-- The failure is one of looking for workbooks. -/
def Failure.isSearch : Failure → Bool
  | .inputMissing _ | .file _ => true
  | _ => false

namespace Plan

variable (plan : Plan)

/-- A run has stopped at the first of its sheets that has the target of a sheet before. -/
def Stopped (jobs : List Job) (e : Failure) (p : Progress) : Prop :=
  ∃ done job rest output location, jobs = done ++ job :: rest
    ∧ (plan.converted job).result = .ok (some output)
    ∧ plan.target job output = .ok location ∧ location ∈ plan.targets done
    ∧ e = .duplicate (plan.tree.fullPath location) job.sheet.name job.book.name
    ∧ plan.Written done p.tree ∧ p.generated = plan.targets done

section Reached

variable {plan} {done : List Job} {job : Job} {p : Progress}

theorem Reached.print (h : plan.Reached done p) {printed : List Text} :
    plan.Reached done { p with printed } :=
  ⟨h.written, h.ground, h.lexicon, h.generated, h.entries, h.skipped, h.warnings⟩

theorem Reached.skip (h : plan.Reached done p) (hskip : (plan.converted job).result = .ok none)
    {printed : List Text} : plan.Reached (done ++ [job]) { p with
      printed
      entries := p.entries ++ (plan.converted job).entries
      skipped := p.skipped ++ [job.book.name ++ ':' :: job.sheet.name] } where
  written := h.written.skip hskip
  ground := h.ground
  lexicon := h.lexicon
  generated := by
    simp only [targets_append, targets_of_skipped hskip, List.append_nil, h.generated]
  entries := by rw [entries_append, entries_singleton, h.entries]
  skipped := by rw [List.filterMap_append, skipped_of_skipped hskip, h.skipped]
  warnings := by rw [warnings_append, warnings_of_skipped hskip, Nat.add_zero, h.warnings]

theorem Reached.write (h : plan.Reached done p) {output : Output} {target : Location}
    (houtput : (plan.converted job).result = .ok (some output))
    (htarget : plan.target job output = .ok target) (hnew : target ∉ plan.targets done)
    {tree : FileTree} {printed : List Text} (hground : tree.toGround = p.tree.toGround)
    (hfiles : ∀ other, tree.file? other = if target = other
      then some (.text output.text) else p.tree.file? other) :
    plan.Reached (done ++ [job]) { p with
      tree, printed
      entries := p.entries ++ (plan.converted job).entries
      generated := p.generated ++ [target]
      warnings := p.warnings + output.warnings.length } where
  written := h.written.write houtput htarget hnew hfiles
  ground := hground.trans h.ground
  lexicon := h.lexicon
  generated := by rw [targets_append, targets_of_written houtput htarget, h.generated]
  entries := by rw [entries_append, entries_singleton, h.entries]
  skipped := by rw [List.filterMap_append, skipped_of_written houtput, h.skipped, List.append_nil]
  warnings := by rw [warnings_append, warnings_of_written houtput htarget, h.warnings]

end Reached

/-- Where the path leads, something is that no sheet has been written over. -/
def Unspoilt (jobs : List Job) (path : Path) : Prop :=
  ∀ location, plan.tree.locate path = .ok location →
    (plan.tree.file? location).isSome ∧ location ∉ plan.targets jobs

/-- How a run ends early. -/
def Ends (jobs : List Job) (e : Failure) (p : Progress) : Prop :=
  e.isForeign ∨ plan.Stopped jobs e p

end Plan

namespace Work

open Plan

variable {plan : Plan} {done : List Job} {p : Progress}

section Sheets

variable {E : Failure → Progress → Prop}

theorem leads_convertSheet (hlexicon : p.lexicon = plan.readings) (job : Job)
    (hE : ∀ e printed, E (.conversion e)
      { p with printed, entries := p.entries ++ (plan.converted job).entries }) :
    (convertSheet plan.o true job.sheet).Leads p (fun result q =>
      (plan.converted job).result = .ok result ∧ ∃ printed,
        q = { p with printed, entries := p.entries ++ (plan.converted job).entries }) E := by
  have hconverted : Sheet.convert p.lexicon plan.o job.sheet = plan.converted job := by
    rw [hlexicon]
    rfl
  unfold convertSheet
  refine Leads.after (start_get p) ?_
  simp only [if_true, hconverted]
  refine Leads.after (start_set p _) ?_
  cases h : (plan.converted job).result with
  | error e => exact leads_throw (hE e _)
  | ok result => exact leads_pure ⟨rfl, _, rfl⟩

theorem leads_writeOutput (hground : p.tree.toGround = plan.tree.toGround) (job : Job)
    (output : Output) (hlost : ∀ e, E (.file e) p)
    (hfile : ∀ e target tree printed, plan.target job output = .ok target →
      tree.toGround = p.tree.toGround → (∀ other, tree.file? other = p.tree.file? other) →
      E (.file e) { p with tree, printed, generated := p.generated ++ [target] })
    (hduplicate : ∀ target, plan.target job output = .ok target → target ∈ p.generated →
      E (.duplicate (p.tree.fullPath target) job.sheet.name job.book.name) p) :
    (writeOutput (plan.folder?.getD job.book.parent) job.book.name job.sheet output).Leads p
      (fun target q => plan.target job output = .ok target ∧ target ∉ p.generated
        ∧ ∃ tree printed, q = { p with
            tree, printed
            generated := p.generated ++ [target]
            warnings := p.warnings + output.warnings.length }
          ∧ tree.toGround = p.tree.toGround
          ∧ ∀ other, tree.file? other
            = if target = other then some (.text output.text) else p.tree.file? other) E := by
  unfold writeOutput
  refine (leads_locate _ hlost).bind ?_
  rintro target _ ⟨htarget, rfl⟩
  replace htarget : plan.target job output = .ok target := by
    rw [← htarget, hground]
    rfl
  refine Leads.after (start_get _) ?_
  simp only
  split
  next hmem =>
    refine (leads_throw (hduplicate target htarget ?_)).bind fun _ _ h => h
    simpa using hmem
  next hmem =>
    refine Leads.after (start_set _ _) (Leads.after (start_print _ _) ?_)
    refine (leads_writeFile _ _ ?_).bind ?_
    · exact fun e tree => hfile e target tree _ htarget
    · rintro _ _ ⟨tree, rfl, hground', hfiles⟩
      refine Leads.after (start_modify _ _) (leads_pure ?_)
      exact ⟨htarget, by simpa using hmem, tree, _, rfl, hground', hfiles⟩

/-- One sheet after those that the run has come past. -/
theorem leads_convertSheets (path : Path) {all : List Job} : ∀ (sheets : List Sheet)
    {done rest : List Job} {p : Progress}, plan.Reached done p →
      all = done ++ sheets.map (⟨path, ·⟩) ++ rest →
      (convertSheets plan.o true (plan.folder?.getD path.parent) path.name sheets).Leads p
        (fun written q => written = plan.targets (sheets.map (⟨path, ·⟩))
          ∧ plan.Reached (done ++ sheets.map (⟨path, ·⟩)) q) (plan.Ends all)
  | [], done, rest, p, h, _ => by
    rw [convertSheets]
    exact leads_pure ⟨rfl, by rwa [List.map_nil, List.append_nil]⟩
  | sheet :: sheets, done, rest, p, h, hall => by
    have hnext : done ++ (sheet :: sheets).map (⟨path, ·⟩)
        = done ++ [⟨path, sheet⟩] ++ sheets.map (⟨path, ·⟩) := by simp
    have hothers : ∀ {q : Progress} {written : List Location},
        written = plan.targets [⟨path, sheet⟩] → plan.Reached (done ++ [⟨path, sheet⟩]) q →
        (do
          let others ← convertSheets plan.o true (plan.folder?.getD path.parent) path.name sheets
          return written ++ others : Work (List Location)).Leads q
          (fun written q => written = plan.targets ((sheet :: sheets).map (⟨path, ·⟩))
            ∧ plan.Reached (done ++ (sheet :: sheets).map (⟨path, ·⟩)) q) (plan.Ends all) := by
      intro q written hwritten hq
      rw [hnext] at hall ⊢
      refine (leads_convertSheets path sheets hq hall).bind fun others q' ⟨hothers, hq'⟩ => ?_
      refine leads_pure ⟨?_, hq'⟩
      rw [hwritten, hothers, ← targets_append]
      rfl
    rw [convertSheets]
    refine (leads_convertSheet h.lexicon ⟨path, sheet⟩ fun e q => .inl rfl).bind ?_
    rintro result _ ⟨hresult, printed, rfl⟩
    cases result with
    | none =>
      refine Leads.after (start_modify _ _) (hothers ?_ ?_)
      · exact (targets_of_skipped hresult).symm
      · exact h.skip hresult
    | some output =>
      simp only
      refine (leads_writeOutput ?_ ⟨path, sheet⟩ output ?_ ?_ ?_).bind ?_
      · exact h.ground
      · exact fun _ => .inl rfl
      · exact fun _ _ _ _ _ _ _ => .inl rfl
      · intro target htarget hmem
        refine .inr ⟨done, ⟨path, sheet⟩, sheets.map (⟨path, ·⟩) ++ rest, output, target, ?_,
          hresult, htarget, ?_, ?_, h.written, h.generated⟩
        · rw [hall, hnext]
          simp
        · rw [← h.generated]
          exact hmem
        · simp only [h.ground]
      · rintro target _ ⟨htarget, hnew, tree, printed', rfl, hground, hfiles⟩
        refine hothers (targets_of_written hresult htarget).symm ?_
        exact h.write hresult htarget (h.generated ▸ hnew) hground hfiles

end Sheets

section Books

theorem start_readBook {path : Path} {location : Location} (headerOffset : Nat)
    (hlocate : p.tree.locate path = .ok location) (hfile : (p.tree.file? location).isSome) :
    (readBook path headerOffset).start p
      = ((p.tree.sheets location headerOffset).mapError .read, p) := by
  have hthere : p.tree.presence location = .ok true :=
    if_pos (by rw [FileTree.has, hfile, Bool.or_true])
  rw [readBook, start_bind, start_locate_of_ok hlocate]
  simp only
  rw [start_bind, start_isThere_of_ok hthere]
  simp only [if_true]
  rw [start_bind, start_get]
  exact start_lift _ _ _

theorem leads_readBook (h : plan.Reached done p) {path : Path} (hbook : plan.Unspoilt done path) :
    (readBook path plan.o.headerOffset).Leads p
      (fun sheets q => plan.read path = .ok sheets ∧ q = p)
      (fun e q => e.isForeign
        ∨ ∃ cause, e = .read cause ∧ plan.read path = .error (.read cause) ∧ q = p) := by
  have hlocated : p.tree.locate path = plan.tree.locate path := by rw [h.ground]
  cases hlocate : plan.tree.locate path with
  | error e =>
    unfold readBook
    refine (leads_locate path fun _ => .inl rfl).bind ?_
    rintro location _ ⟨hok, -⟩
    rw [hlocated, hlocate] at hok
    cases hok
  | ok location =>
    obtain ⟨hthere, hfree⟩ := hbook location hlocate
    have hfile := h.written.other _ hfree
    have hstart := start_readBook plan.o.headerOffset (hlocated.trans hlocate) (hfile ▸ hthere)
    have hread : plan.read path
        = (plan.tree.sheets location plan.o.headerOffset).mapError .read := by
      rw [Plan.read, start_readBook (p := plan.first) _ hlocate hthere]
      rfl
    rw [FileTree.sheets_congr h.ground hfile] at hstart
    rw [hread]
    cases hresult : plan.tree.sheets location plan.o.headerOffset with
    | error cause =>
      rw [hresult] at hstart
      exact leads_of_error hstart (.inr ⟨cause, rfl, rfl, rfl⟩)
    | ok sheets =>
      rw [hresult] at hstart
      exact leads_of_ok hstart ⟨rfl, rfl⟩

/-- A workbook after the sheets that the run has come past. -/
theorem leads_tryBook (h : plan.Reached done p) {path : Path} {all rest : List Job}
    (hpath : plan.Unspoilt done path) (hall : all = done ++ plan.jobs [path] ++ rest) :
    (tryBook plan.o plan.folder? path).Leads p
      (fun result q => result = (plan.targets (plan.jobs [path]), plan.unread [path])
        ∧ plan.Reached (done ++ plan.jobs [path]) q) (plan.Ends all) := by
  have hbook : (convertBook plan.o true plan.folder? path).Leads p
      (fun written q => written = plan.targets (plan.jobs [path]) ∧ plan.unread [path] = []
        ∧ plan.Reached (done ++ plan.jobs [path]) q)
      (fun e q => plan.Ends all e q
        ∨ ∃ cause, e = .read cause ∧ plan.read path = .error (.read cause)
          ∧ plan.Reached done q) := by
    unfold convertBook
    refine Leads.after (start_print _ _) ?_
    refine ((leads_readBook h.print hpath).mono (fun _ _ hq => hq) ?_).bind ?_
    · rintro e q (he | ⟨cause, rfl, hread, rfl⟩)
      · exact .inl (.inl he)
      · exact .inr ⟨cause, rfl, hread, h.print⟩
    · rintro sheets _ ⟨hread, rfl⟩
      rw [jobs_of_read hread] at hall ⊢
      refine (leads_convertSheets path sheets h.print hall).mono (fun written q hq => ?_)
        fun e q he => .inl he
      exact ⟨hq.1, unread_of_read hread, hq.2⟩
  unfold tryBook
  refine Leads.tryCatch (hbook.bind fun written q hq => leads_pure ?_) ?_
  · obtain ⟨rfl, hunread, hq⟩ := hq
    exact ⟨by rw [hunread], hq⟩
  · rintro e q (hends | ⟨cause, rfl, hread, hq⟩)
    · cases e with
      | read cause =>
        -- A run does not end with a failure that is told.
        rcases hends with he | ⟨_, _, _, _, _, _, _, _, _, he, _⟩
        · simp [Failure.isForeign] at he
        · simp at he
      | _ => exact leads_throw hends
    · refine Leads.after (start_print _ _) (leads_pure ?_)
      rw [jobs_of_unread hread, unread_of_unread hread, List.append_nil]
      exact ⟨rfl, hq.print⟩

theorem leads_convertBooks {all : List Job} : ∀ (books : List Path) {done : List Job}
    {p : Progress}, plan.Reached done p → all = done ++ plan.jobs books →
      (∀ path ∈ books, plan.Unspoilt all path) →
      (convertBooks plan.o plan.folder? books).Leads p
        (fun result q => result = (plan.targets (plan.jobs books), plan.unread books)
          ∧ plan.Reached all q) (plan.Ends all)
  | [], done, p, h, hall, _ => by
    rw [convertBooks]
    rw [jobs, List.flatMap_nil, List.append_nil] at hall
    exact leads_pure ⟨rfl, hall ▸ h⟩
  | path :: rest, done, p, h, hall, hbooks => by
    rw [plan.jobs_cons path rest, ← List.append_assoc] at hall
    have hpath : plan.Unspoilt done path := fun location hlocate => by
      obtain ⟨hthere, hfree⟩ := hbooks path List.mem_cons_self location hlocate
      refine ⟨hthere, fun hmem => hfree ?_⟩
      rw [hall, targets_append, targets_append, List.append_assoc]
      exact List.mem_append_left _ hmem
    rw [convertBooks]
    refine (leads_tryBook h hpath hall).bind ?_
    rintro _ q ⟨rfl, hq⟩
    refine (leads_convertBooks rest hq hall fun path hpath =>
      hbooks path (List.mem_cons_of_mem _ hpath)).bind ?_
    rintro _ q' ⟨rfl, hq'⟩
    refine leads_pure ⟨?_, hq'⟩
    rw [plan.jobs_cons path rest, targets_append, plan.unread_cons path rest]

end Books

section Merge

theorem leads_readTable (location : Location) :
    (readTable location).Leads p
      (fun table q => tableIn (p.tree.file? location) = .ok table ∧ q = p)
      (fun e q => e.isForeign
        ∨ ∃ fault, e = .encoding fault ∧ tableIn (p.tree.file? location) = .error fault
          ∧ q = p) := by
  unfold readTable
  refine (leads_isThere location fun _ => .inl rfl).bind ?_
  rintro there p ⟨hhas, rfl⟩
  cases there with
  | true =>
    refine Leads.after (start_get _) ?_
    simp only
    cases hfile : p.tree.file? location with
    | none => exact leads_throw (.inl rfl)
    | some content =>
      simp only [tableIn]
      cases content.decodeTable with
      | error fault => exact leads_throw (.inr ⟨fault, rfl, rfl, rfl⟩)
      | ok t => exact leads_pure ⟨rfl, rfl⟩
  | false =>
    have hfile : p.tree.file? location = none := by
      rw [FileTree.has, Bool.or_eq_false_iff] at hhas
      simpa using hhas.2
    rw [hfile]
    exact leads_pure ⟨rfl, rfl⟩

theorem leads_mergeTable (path : Path) (language : Text) (entries : List Localization.Entry) :
    (mergeTable path language entries).Leads p
      (fun location q => p.tree.locate path = .ok location ∧ ∃ before tree,
        tableIn (p.tree.file? location) = .ok before ∧ q = { p with tree }
        ∧ ∀ other, tree.file? other = if location = other
          then some (.text (before.merge language entries).text) else p.tree.file? other)
      (fun e q => e.isForeign
        ∨ ∃ fault location, e = .encoding fault ∧ p.tree.locate path = .ok location
          ∧ tableIn (p.tree.file? location) = .error fault ∧ q = p) := by
  unfold mergeTable
  refine (leads_locate path fun _ => .inl rfl).bind ?_
  rintro location p ⟨hlocate, rfl⟩
  refine ((leads_readTable location).mono (fun _ _ hq => hq) ?_).bind ?_
  · rintro e _ (he | ⟨fault, rfl, hfault, rfl⟩)
    · exact .inl he
    · exact .inr ⟨fault, location, rfl, hlocate, hfault, rfl⟩
  rintro before p ⟨hbefore, rfl⟩
  refine (leads_writeFile _ _ fun e tree _ _ => .inl rfl).bind ?_
  rintro _ _ ⟨tree, rfl, -, hfiles⟩
  exact leads_pure ⟨hlocate, before, tree, hbefore, rfl, hfiles⟩

/-- Entries are merged into the table if there are any and a table is chosen. -/
theorem leads_mergeEntries (o : Options) :
    (mergeEntries o).Leads p
      (fun table q => (o.locPath = [] ∨ p.entries = [] → table = none ∧ q = p)
        ∧ (o.locPath ≠ [] → p.entries ≠ [] → ∃ location, table = some location
          ∧ p.tree.locate (.ofText o.locPath) = .ok location
          ∧ ∃ before tree printed, tableIn (p.tree.file? location) = .ok before
            ∧ q = { p with tree, printed }
            ∧ ∀ other, tree.file? other = if location = other
              then some (.text (before.merge o.locLanguage p.entries).text)
              else p.tree.file? other))
      (fun e q => e.isForeign ∨ ∃ fault location, e = .encoding fault ∧ o.locPath ≠ []
        ∧ p.entries ≠ [] ∧ p.tree.locate (.ofText o.locPath) = .ok location
        ∧ tableIn (p.tree.file? location) = .error fault ∧ q = p) := by
  unfold mergeEntries
  refine Leads.after (start_get _) ?_
  simp only
  split
  next hnone =>
    rw [Bool.or_eq_true, List.isEmpty_iff, List.isEmpty_iff] at hnone
    refine leads_pure ⟨fun _ => ⟨rfl, rfl⟩, fun hpath hentries => ?_⟩
    exact absurd hnone (not_or.2 ⟨hpath, hentries⟩)
  next hsome =>
    rw [Bool.or_eq_true, List.isEmpty_iff, List.isEmpty_iff, not_or] at hsome
    refine ((leads_mergeTable _ _ _).mono (fun _ _ hq => hq) ?_).bind ?_
    · rintro e _ (he | ⟨fault, location, rfl, hlocate, hfault, rfl⟩)
      · exact .inl he
      · exact .inr ⟨fault, location, rfl, hsome.1, hsome.2, hlocate, hfault, rfl⟩
    · rintro location _ ⟨hlocate, before, tree, hbefore, rfl, hfiles⟩
      refine Leads.after (start_fullPath _ _) (Leads.after (start_print _ _) (leads_pure ⟨?_, ?_⟩))
      · exact fun hnone => absurd hnone (not_or.2 hsome)
      · exact fun _ _ => ⟨location, rfl, hlocate, before, tree, _, hbefore, rfl, hfiles⟩

end Merge

section Discovery

variable {E : Failure → Progress → Prop}

/-- The path leads to a file that has the name of a workbook. -/
def LeadsToBook (tree : FileTree) (path : Path) : Prop :=
  FileRole.ofName path.name = .book
    ∧ ∃ location, tree.find? path = .ok location ∧ (tree.file? location).isSome

theorem leads_find? (path : Path) (hE : ∀ e, E (.file e) p) :
    (find? path).Leads p (fun found q => q = p
      ∧ ∀ location, found = some location → p.tree.find? path = .ok location) E := by
  unfold find?
  refine Leads.after (start_get _) ?_
  cases hfind : p.tree.find? path with
  | ok location => exact leads_pure ⟨rfl, fun _ h => by rw [Option.some.inj h]⟩
  | error e =>
    cases e with
    | nowhere => exact leads_pure ⟨rfl, fun _ h => by cases h⟩
    | tooLong => exact leads_throw (hE _)

theorem leads_leadsToFile (path : Path) (hE : ∀ e, E (.file e) p) :
    (leadsToFile path).Leads p (fun there q => q = p ∧ (there →
      ∃ location, p.tree.find? path = .ok location ∧ (p.tree.file? location).isSome)) E := by
  unfold leadsToFile
  refine (leads_find? path hE).bind ?_
  rintro found p ⟨rfl, hfound⟩
  cases found with
  | none => exact leads_pure ⟨rfl, fun h => by cases h⟩
  | some location =>
    exact Leads.after (start_get _) (leads_pure ⟨rfl, fun hfile => ⟨location, hfound _ rfl, hfile⟩⟩)

/-- A step only prints. -/
def OnlyPrints (p q : Progress) : Prop :=
  ∃ printed, q = { p with printed }

theorem OnlyPrints.trans {p q r : Progress} (h : OnlyPrints p q) (h' : OnlyPrints q r) :
    OnlyPrints p r := by
  obtain ⟨_, rfl⟩ := h
  obtain ⟨printed, rfl⟩ := h'
  exact ⟨printed, rfl⟩

theorem leads_sift (verbose : Bool) : ∀ (paths : List Path) {p : Progress},
    (sift verbose paths).Leads p
      (fun books q => OnlyPrints p q ∧ ∀ path ∈ books, LeadsToBook p.tree path)
      fun e q => e.isSearch ∧ OnlyPrints p q
  | [], p => leads_pure ⟨⟨p.printed, rfl⟩, by simp⟩
  | path :: rest, p => by
    rw [sift]
    refine (leads_leadsToFile path fun _ => ⟨rfl, p.printed, rfl⟩).bind ?_
    rintro there p ⟨rfl, hfile⟩
    cases there with
    | false => exact leads_sift verbose rest
    | true =>
      refine Leads.after (start_print _ _) ?_
      refine ((leads_sift verbose rest).mono (fun _ _ h => h) ?_).bind ?_
      · exact fun _ _ hq => ⟨hq.1, OnlyPrints.trans ⟨_, rfl⟩ hq.2⟩
      · rintro others q ⟨hq, hothers⟩
        refine leads_pure ⟨OnlyPrints.trans ⟨_, rfl⟩ hq, ?_⟩
        split
        next hrole => exact List.forall_mem_cons.2 ⟨⟨hrole, hfile rfl⟩, hothers⟩
        next => exact hothers

theorem leads_candidates (path : Path) (recursive : Bool) (hE : ∀ e, e.isSearch → E e p) :
    (candidates path recursive).Leads p (fun _ q => q = p) E := by
  unfold candidates
  refine (leads_find? path fun _ => hE _ rfl).bind ?_
  rintro found p ⟨rfl, -⟩
  cases found with
  | none => exact leads_throw (hE _ rfl)
  | some location => exact Leads.after (start_get _) (leads_pure rfl)

theorem leads_discover (recursive verbose : Bool) : ∀ (inputs : List Path) {p : Progress},
    (discover recursive verbose inputs).Leads p
      (fun books q => OnlyPrints p q ∧ ∀ path ∈ books, LeadsToBook p.tree path)
      fun e q => e.isSearch ∧ OnlyPrints p q
  | [], p => leads_pure ⟨⟨p.printed, rfl⟩, by simp⟩
  | input :: rest, p => by
    rw [discover]
    refine Leads.after (start_get _) ?_
    refine (leads_lift_file _ fun _ => ⟨rfl, p.printed, rfl⟩).bind ?_
    rintro path p ⟨-, rfl⟩
    refine (leads_candidates path recursive fun _ he => ⟨he, p.printed, rfl⟩).bind ?_
    rintro paths p rfl
    refine (leads_sift verbose paths).bind ?_
    rintro books q ⟨hq, hbooks⟩
    refine ((leads_discover recursive verbose rest).mono (fun _ _ h => h)
      fun _ _ hE => ⟨hE.1, hq.trans hE.2⟩).bind ?_
    rintro others q' ⟨hq', hothers⟩
    have htree : q.tree = p.tree := by
      obtain ⟨_, rfl⟩ := hq
      rfl
    refine leads_pure ⟨hq.trans hq', fun book hbook => ?_⟩
    rcases List.mem_append.1 hbook with hbook | hbook
    · exact hbooks book hbook
    · exact htree ▸ hothers book hbook

/-- A workbook that is found is read there, unless a home leads elsewhere. -/
theorem LeadsToBook.isSome_file? {tree : FileTree} {path : Path} (h : LeadsToBook tree path)
    (hhome : path.leadsHome = false) {location : Location}
    (hlocate : tree.locate path = .ok location) : (tree.file? location).isSome := by
  obtain ⟨-, found, hfind, hfile⟩ := h
  rw [Ground.locate_of_not_leadsHome hhome] at hlocate
  rwa [FileTree.resolve_of_find? hfind hlocate]

end Discovery

section Runs

theorem reached_nil (plan : Plan) (printed : List Text) :
    plan.Reached [] { plan.ready with printed } :=
  ⟨written_nil, rfl, rfl, rfl, rfl, rfl, rfl⟩

theorem start_discover {books : List Path} (hbooks : plan.found = .ok books) : ∃ printed,
    (discover plan.recursive plan.o.verbose plan.inputs).start plan.ready
      = (.ok books, { plan.ready with printed })
    ∧ ∀ path ∈ books, LeadsToBook plan.tree path := by
  unfold found at hbooks
  rcases (leads_discover plan.recursive plan.o.verbose plan.inputs).cases with
    ⟨all, q, h, ⟨printed, rfl⟩, hfound⟩ | ⟨e, q, h, -⟩
  · rw [h] at hbooks
    cases hbooks
    exact ⟨printed, h, hfound⟩
  · rw [h] at hbooks
    cases hbooks

/-- A run comes past all its sheets and then merges their entries, or it stops. -/
theorem leads_run {books : List Path} (hbooks : plan.found = .ok books)
    (hinputs : ∀ path ∈ books, plan.Unspoilt (plan.jobs books) path)
    (htable : plan.o.locPath ≠ [] → ∀ location, plan.table = .ok location →
      location ∉ plan.targets (plan.jobs books)) :
    (Work.run plan.o plan.folder? plan.recursive plan.inputs).Leads plan.first
      (fun report q => (plan.targets (plan.jobs books)).Nodup
        ∧ (plan.o.locPath = [] ∨ plan.entries (plan.jobs books) = [] →
          report = plan.report books none ∧ plan.Written (plan.jobs books) q.tree)
        ∧ (plan.o.locPath ≠ [] → plan.entries (plan.jobs books) ≠ [] →
          ∃ location, plan.table = .ok location ∧ report = plan.report books (some location)
            ∧ ∃ before, tableIn (plan.tree.file? location) = .ok before
              ∧ plan.Merged (plan.jobs books) location before q.tree))
      (fun e q => plan.Ends (plan.jobs books) e q
        ∨ (plan.targets (plan.jobs books)).Nodup ∧ ∃ fault location, e = .encoding fault
          ∧ plan.o.locPath ≠ [] ∧ plan.entries (plan.jobs books) ≠ []
          ∧ plan.table = .ok location ∧ tableIn (plan.tree.file? location) = .error fault
          ∧ plan.Written (plan.jobs books) q.tree) := by
  obtain ⟨printed, hstart, -⟩ := start_discover hbooks
  unfold Work.run
  refine Leads.after (start_modify _ _) (Leads.after hstart ?_)
  refine ((leads_convertBooks books (reached_nil plan printed) rfl hinputs).mono
    (fun _ _ h => h) fun _ _ h => .inl h).bind ?_
  rintro _ q ⟨rfl, hq⟩
  have hplace : q.tree.locate (.ofText plan.o.locPath) = plan.table := by
    rw [hq.ground]
    rfl
  have hother : plan.o.locPath ≠ [] → ∀ {location}, plan.table = .ok location →
      q.tree.file? location = plan.tree.file? location :=
    fun hpath _ hlocate => hq.written.other _ (htable hpath _ hlocate)
  refine ((leads_mergeEntries plan.o).mono (fun _ _ h => h) ?_).bind ?_
  · rintro e _ (he | ⟨fault, location, rfl, hpath, hentries, hlocate, hfault, rfl⟩)
    · exact .inl (.inl he)
    · rw [hplace] at hlocate
      rw [hq.entries] at hentries
      exact .inr ⟨hq.written.nodup, fault, location, rfl, hpath, hentries, hlocate,
        hother hpath hlocate ▸ hfault, hq.written⟩
  · rintro table q' ⟨hnone, hsome⟩
    rw [hq.entries] at hnone hsome
    by_cases hcase : plan.o.locPath = [] ∨ plan.entries (plan.jobs books) = []
    · obtain ⟨rfl, rfl⟩ := hnone hcase
      refine Leads.after (start_get _) (Leads.after (start_print _ _) (leads_pure
        ⟨hq.written.nodup, fun _ => ⟨?_, hq.written⟩, fun hpath hentries => ?_⟩))
      · rw [hq.skipped, hq.entries, hq.warnings]
        rfl
      · exact absurd hcase (not_or.2 ⟨hpath, hentries⟩)
    · obtain ⟨hpath, hentries⟩ := not_or.1 hcase
      obtain ⟨location, rfl, hlocate, before, tree, printed', hbefore, rfl, hfiles⟩ :=
        hsome hpath hentries
      rw [hplace] at hlocate
      refine Leads.after (start_get _) (Leads.after (start_print _ _) (leads_pure
        ⟨hq.written.nodup, fun h => absurd h hcase, fun _ _ => ⟨location, hlocate, ?_, before,
          ?_, ?_⟩⟩))
      · simp only [hq.skipped, hq.warnings]
        rfl
      · exact hother hpath hlocate ▸ hbefore
      · exact hq.written.merge (htable hpath _ hlocate) hfiles

end Runs

end Work

namespace Plan

/-- The run has stopped at a file that it has written before. -/
def stoppedTwice : Except Failure Report → Bool
  | .error (.duplicate ..) => true
  | _ => false

/-- Two workbooks of one name in two folders, written to one folder. -/
def twoBooks : Plan where
  o := {
    ignored := ⟨.one false [.span 35 35], []⟩
    verbose := false
    transliterate := false
    aliases := []
    readings := []
    indent := ['\t']
    autoSimple := true
    headerOffset := 0
    extension := ".txt".toList
    emptyToken := []
    noteComments := false
    inferRootName := false
    locPath := []
    locLanguage := []
    locTemplate := Localization.usualTemplate }
  folder? := some (.ofText "out".toList)
  recursive := false
  inputs := [.ofText "a.csv".toList, .ofText "b/a.csv".toList]
  tree := {
    root := "/r".toList
    folders := [["b".toList]]
    files := [(["a.csv".toList], .text ",\nid,x\nh,1\n".toList),
      (["b".toList, "a.csv".toList], .text ",\nid,x\nk,2\n".toList)] }
  lexicon := .byPhrases ⟨[], []⟩
  printed := []

end Plan

end MarkedSheet
