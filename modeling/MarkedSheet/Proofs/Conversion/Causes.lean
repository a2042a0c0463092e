import MarkedSheet.Proofs.Conversion.Faults
import MarkedSheet.Proofs.Conversion.Sequence
import MarkedSheet.Proofs.Conversion.Untouched
import MarkedSheet.Proofs.Conversion.Visited

/-!
# Why a run fails

A run that fails has a cause (`Plan.caused_of_run`): the failure is told, or it is that of a sheet
that the run comes to and cannot convert, or a path of the run cannot be taken. And if the run comes
to a sheet that cannot be converted, this is how it fails (`Plan.run_of_visited`). So a failure is
told unless the run is blocked, or a template for keys names something that is not there
(`Plan.isReported_iff`).
-/

namespace MarkedSheet

/-- A path cannot be followed, or a file or folder not be opened or made, and this is not told. -/
def Failure.isBlocked : Failure → Bool
  | .file e => !e.isReported
  | _ => false

namespace Plan

variable (plan : Plan)

/-- What a failure of the run comes from. -/
inductive Caused (e : Failure) : Prop
  /-- The failure is told. -/
  | told (h : e.isReported)
  /-- The run comes to a sheet that cannot be converted. -/
  | sheet (job : Job) (cause : ConversionError) (hjob : job ∈ plan.visited)
    (hcause : (plan.converted job).result = .error cause) (he : e = .conversion cause)
  /-- A path of the run cannot be taken. -/
  | blocked (he : e.isBlocked) (h : ¬ plan.Accessible)

/-- The readings of the options are known, and no more than the goals of the run has come to the
files. -/
structure Sound (p : Progress) : Prop where
  ground : p.tree.toGround = plan.tree.toGround
  lexicon : p.lexicon = plan.readings
  kept : plan.Accessible → plan.Kept p.tree

/-- The step leads from a sound progress to a sound one, and if it fails, the failure has a
cause. -/
def Steady {α : Type} (x : Work α) (p : Progress) : Prop :=
  x.Leads p (fun _ q => plan.Sound q) fun e q => plan.Caused e ∧ plan.Sound q

variable {plan} {p q : Progress}

theorem Sound.congr (h : plan.Sound p) (hlexicon : q.lexicon = p.lexicon)
    (htree : q.tree = p.tree) : plan.Sound q :=
  ⟨htree ▸ h.ground, hlexicon.trans h.lexicon, fun haccess => htree ▸ h.kept haccess⟩

theorem sound_ready (plan : Plan) (printed : List Text) :
    plan.Sound { plan.ready with printed } :=
  ⟨rfl, rfl, fun _ => kept_first⟩

/-- A failure of the file system is told, or the run is not one that has access to all. -/
theorem caused_of_file {e : FileError} (h : plan.Accessible → e.isReported) :
    plan.Caused (.file e) := by
  cases htold : e.isReported with
  | true => exact .told htold
  | false =>
    refine .blocked (by simp [Failure.isBlocked, htold]) fun haccess => ?_
    rw [h haccess] at htold
    cases htold

theorem Steady.bind {α β : Type} {x : Work α} {f : α → Work β} (hx : plan.Steady x p)
    (hf : ∀ a q, plan.Sound q → plan.Steady (f a) q) : plan.Steady (x >>= f) p :=
  Work.Leads.bind hx hf

end Plan

namespace Work

open Plan

/-- Where a step leads that is known to succeed. -/
theorem Leads.of_start {α : Type} {x : Work α} {p q : Progress} {a : α}
    {Q : α → Progress → Prop} {E : Failure → Progress → Prop} (h : x.Leads p Q E)
    (hstart : x.start p = (.ok a, q)) : Q a q := by
  unfold Leads at h
  rwa [hstart] at h

/-- A step that is known to fail goes first. -/
theorem Leads.stop {α β : Type} {x : Work β} {f : β → Work α} {p q : Progress} {e : Failure}
    (h : x.start p = (.error e, q)) {Q : α → Progress → Prop} {E : Failure → Progress → Prop}
    (hE : E e q) : (x >>= f).Leads p Q E :=
  leads_of_error (by rw [start_bind, h]) hE

variable {plan : Plan} {p : Progress}

section Steps

/-- A path of the run is followed. -/
theorem leads_locate_steady (h : plan.Sound p) {path : Path}
    (hpath : plan.Accessible → plan.Follows path) :
    (locate path).Leads p (fun location q => plan.tree.locate path = .ok location ∧ q = p)
      fun e q => plan.Caused e ∧ plan.Sound q := by
  have hstart := start_locate path p
  rw [h.ground] at hstart
  cases hlocate : plan.tree.locate path with
  | ok location =>
    rw [hlocate] at hstart
    exact leads_of_ok hstart ⟨rfl, rfl⟩
  | error e =>
    rw [hlocate] at hstart
    exact leads_of_error hstart ⟨caused_of_file fun haccess => hpath haccess e hlocate, h⟩

theorem steady_writeFile (h : plan.Sound p) {location : Location} (hplace : location ∈ plan.places)
    (t : Text) : plan.Steady (writeFile location t) p := by
  by_cases haccess : plan.Accessible
  · obtain ⟨after, hstart, hkept⟩ := (h.kept haccess).exists_writeFile haccess hplace rfl t
    exact leads_of_ok hstart ⟨hkept.ground, h.lexicon, fun _ => hkept⟩
  · have hsound : ∀ tree : FileTree, tree.toGround = p.tree.toGround →
        plan.Sound { p with tree } :=
      fun _ hground => ⟨hground.trans h.ground, h.lexicon, fun h => absurd h haccess⟩
    refine (leads_writeFile _ t fun e tree hground _ =>
      ⟨caused_of_file fun h => absurd h haccess, hsound tree hground⟩).mono ?_ fun _ _ hE => hE
    rintro _ _ ⟨tree, rfl, hground, -⟩
    exact hsound tree hground

theorem leads_convertSheet_steady (h : plan.Sound p) {job : Job} (hjob : job ∈ plan.visited) :
    (convertSheet plan.o true job.sheet).Leads p
      (fun result q => (plan.converted job).result = .ok result ∧ plan.Sound q)
      fun e q => plan.Caused e ∧ plan.Sound q := by
  have hconverted : job.sheet.convert p.lexicon plan.o = plan.converted job := by
    rw [h.lexicon]
    rfl
  have hstart := start_convertSheet plan.o true job.sheet p
  simp only [lexiconFor, if_true, hconverted] at hstart
  cases hresult : (plan.converted job).result with
  | error cause =>
    rw [hresult] at hstart
    exact leads_of_error hstart ⟨.sheet job cause hjob hresult rfl, h.congr rfl rfl⟩
  | ok result =>
    rw [hresult] at hstart
    exact leads_of_ok hstart ⟨rfl, h.congr rfl rfl⟩

theorem steady_writeOutput (h : plan.Sound p) {job : Job} (hjob : job ∈ plan.visited)
    {output : Output} (houtput : (plan.converted job).result = .ok (some output)) :
    plan.Steady (writeOutput (plan.folder?.getD job.book.parent) job.book.name job.sheet output)
      p := by
  have hgoal := goal_mem_goals hjob houtput
  unfold writeOutput
  refine (leads_locate_steady h fun haccess => haccess.goals _ hgoal).bind ?_
  rintro target _ ⟨htarget, rfl⟩
  refine Leads.after (start_get _) ?_
  simp only
  split
  · exact (leads_throw ⟨.told rfl, h⟩).bind fun _ _ h => h
  · refine Leads.after (start_set _ _) (Leads.after (start_print _ _) ?_)
    refine Steady.bind (steady_writeFile ?_ (mem_places hgoal htarget) _) fun _ q hq => ?_
    · exact h.congr rfl rfl
    · exact Leads.after (start_modify _ _) (leads_pure (hq.congr rfl rfl))

/-- One sheet that the run comes to. -/
theorem steady_convertSheet (h : plan.Sound p) {path : Path} {sheet : Sheet}
    (hjob : ⟨path, sheet⟩ ∈ plan.visited) : plan.Steady (plan.convertSheets path [sheet]) p := by
  unfold Plan.convertSheets
  rw [convertSheets]
  refine (leads_convertSheet_steady h hjob).bind ?_
  rintro result q ⟨hresult, hq⟩
  cases result with
  | none => exact Leads.after (start_modify _ _) (leads_pure (hq.congr rfl rfl))
  | some output =>
    exact Steady.bind (steady_writeOutput hq hjob hresult) fun _ _ hq => leads_pure hq

end Steps

section Books

theorem steady_convertSheets (path : Path) : ∀ (sheets : List Sheet) {p : Progress},
    plan.Sound p → (∀ job ∈ plan.sheetsFrom path sheets p, job ∈ plan.visited) →
      plan.Steady (plan.convertSheets path sheets) p
  | [], p, h, _ => by
    unfold Plan.convertSheets
    rw [convertSheets]
    exact leads_pure h
  | sheet :: rest, p, h, hjobs => by
    rw [sheetsFrom] at hjobs
    obtain ⟨hjob, hothers⟩ := List.forall_mem_cons.1 hjobs
    rw [Plan.convertSheets, convertSheets_cons]
    rcases (steady_convertSheet h hjob).cases with ⟨written, q, hstart, hq⟩ | ⟨e, q, hstart, hE⟩
    · rw [hstart] at hothers
      refine Leads.after hstart (Steady.bind (steady_convertSheets path rest hq hothers) ?_)
      exact fun _ _ hq' => leads_pure hq'
    · exact Leads.stop hstart hE

theorem steady_readBook (h : plan.Sound p) {path : Path}
    (hpath : plan.Accessible → plan.Opens path) (headerOffset : Nat) :
    plan.Steady (readBook path headerOffset) p := by
  unfold readBook
  refine Leads.bind (leads_locate_steady h fun haccess => (hpath haccess).1) ?_
  rintro location p ⟨hlocate, rfl⟩
  have hthere : (isThere location).Leads p (fun _ q => q = p)
      fun e q => plan.Caused e ∧ plan.Sound q := by
    by_cases haccess : plan.Accessible
    · have hhas := (h.kept haccess).has ((hpath haccess).2 location hlocate)
      exact leads_of_ok (start_isThere_of_ok (if_pos hhas)) rfl
    · exact (leads_isThere location fun e => ⟨caused_of_file fun h => absurd h haccess, h⟩).mono
        (fun _ _ hq => hq.2) fun _ _ hE => hE
  refine Leads.bind hthere ?_
  rintro there p rfl
  cases there with
  | true =>
    refine Leads.after (start_get _) ?_
    cases FileTree.sheets _ location headerOffset with
    | error cause => exact leads_throw ⟨.told rfl, h⟩
    | ok sheets => exact leads_pure h
  | false => exact Leads.after (start_fullPath _ location) (leads_throw ⟨.told rfl, h⟩)

theorem steady_openBook (h : plan.Sound p) {path : Path}
    (hpath : plan.Accessible → plan.Opens path) : plan.Steady (openBook plan.o path) p := by
  unfold openBook
  refine Leads.after (start_print _ _) (steady_readBook ?_ hpath _)
  exact h.congr rfl rfl

theorem steady_convertBook (h : plan.Sound p) {path : Path}
    (hpath : plan.Accessible → plan.Opens path)
    (hjobs : ∀ job ∈ plan.bookFrom path p, job ∈ plan.visited) :
    plan.Steady (convertBook plan.o true plan.folder? path) p := by
  rw [convertBook_eq]
  unfold bookFrom at hjobs
  rcases (steady_openBook h hpath).cases with ⟨sheets, q, hstart, hq⟩ | ⟨e, q, hstart, hE⟩
  · rw [hstart] at hjobs
    exact Leads.after hstart (steady_convertSheets path sheets hq hjobs)
  · exact Leads.stop hstart hE

theorem steady_tryBook (h : plan.Sound p) {path : Path}
    (hpath : plan.Accessible → plan.Opens path)
    (hjobs : ∀ job ∈ plan.bookFrom path p, job ∈ plan.visited) :
    plan.Steady (tryBook plan.o plan.folder? path) p := by
  unfold tryBook
  refine Leads.tryCatch (Steady.bind (steady_convertBook h hpath hjobs) fun _ _ hq => leads_pure hq)
    fun e q hE => ?_
  cases e with
  | read cause => exact Leads.after (start_print _ _) (leads_pure (hE.2.congr rfl rfl))
  | _ => exact leads_throw hE

theorem steady_convertBooks : ∀ (books : List Path) {p : Progress}, plan.Sound p →
    (∀ path ∈ books, plan.Accessible → plan.Opens path) →
    (∀ job ∈ plan.booksFrom books p, job ∈ plan.visited) →
      plan.Steady (convertBooks plan.o plan.folder? books) p
  | [], p, h, _, _ => by
    rw [convertBooks]
    exact leads_pure h
  | path :: rest, p, h, hpaths, hjobs => by
    obtain ⟨hpath, hrest⟩ := List.forall_mem_cons.1 hpaths
    rw [booksFrom, List.forall_mem_append] at hjobs
    rw [convertBooks]
    rcases (steady_tryBook h hpath hjobs.1).cases with ⟨first, q, hstart, hq⟩ | ⟨e, q, hstart, hE⟩
    · rw [hstart] at hjobs
      refine Leads.after hstart (Steady.bind (steady_convertBooks rest hq hrest hjobs.2) ?_)
      exact fun _ _ hq' => leads_pure hq'
    · exact Leads.stop hstart hE

end Books

section Runs

theorem steady_readTable (h : plan.Sound p) {location : Location}
    (hplace : location ∈ plan.places) : plan.Steady (readTable location) p := by
  have hthere : (isThere location).Leads p (fun there q => p.tree.has location = there ∧ q = p)
      fun e q => plan.Caused e ∧ plan.Sound q := by
    by_cases haccess : plan.Accessible
    · obtain ⟨-, hlong, hnames⟩ := (h.kept haccess).takes haccess hplace
      have hpresence := FileTree.presence_of_short hlong hnames
      exact leads_of_ok (start_isThere_of_ok hpresence) ⟨rfl, rfl⟩
    · exact leads_isThere location fun e => ⟨caused_of_file fun h => absurd h haccess, h⟩
  unfold readTable
  refine Leads.bind hthere ?_
  rintro there p ⟨hhas, rfl⟩
  cases there with
  | true =>
    refine Leads.after (start_get _) ?_
    simp only
    cases hfile : p.tree.file? location with
    | none =>
      refine leads_throw ⟨caused_of_file fun haccess => ?_, h⟩
      rw [FileTree.has, hfile, ((h.kept haccess).takes haccess hplace).free] at hhas
      cases hhas
    | some content =>
      simp only
      cases content.decodeTable with
      | error fault => exact leads_throw ⟨.told rfl, h⟩
      | ok t => exact leads_pure h
  | false => exact leads_pure h

theorem steady_mergeTable (h : plan.Sound p) {path : Path} (hpath : path ∈ plan.goals)
    (language : Text) (entries : List Localization.Entry) :
    plan.Steady (mergeTable path language entries) p := by
  unfold mergeTable
  refine (leads_locate_steady h fun haccess => haccess.goals _ hpath).bind ?_
  rintro location _ ⟨hlocate, rfl⟩
  have hplace := mem_places hpath hlocate
  refine Steady.bind (steady_readTable h hplace) fun table q hq => ?_
  exact Steady.bind (steady_writeFile hq hplace _) fun _ _ hq' => leads_pure hq'

theorem steady_mergeEntries (h : plan.Sound p) : plan.Steady (mergeEntries plan.o) p := by
  unfold mergeEntries
  refine Leads.after (start_get _) ?_
  simp only
  split
  next => exact leads_pure h
  next hsome =>
    rw [Bool.or_eq_true, List.isEmpty_iff, List.isEmpty_iff, not_or] at hsome
    refine Steady.bind (steady_mergeTable h (table_mem_goals hsome.1) _ _) fun location q hq => ?_
    exact Leads.after (start_fullPath _ _)
      (Leads.after (start_print _ _) (leads_pure (hq.congr rfl rfl)))

end Runs

section Visited

variable {cause : ConversionError} {job : Job}

/-- The step fails as a sheet does that cannot be converted. -/
def FailsBy {α : Type} (x : Work α) (p : Progress) (cause : ConversionError) : Prop :=
  ∃ q, x.start p = (.error (.conversion cause), q)

theorem FailsBy.bind {α β : Type} {x : Work α} (h : x.FailsBy p cause) (f : α → Work β) :
    (x >>= f).FailsBy p cause := by
  obtain ⟨q, hq⟩ := h
  exact ⟨q, by rw [start_bind, hq]⟩

theorem FailsBy.after {α β : Type} {x : Work α} {a : α} {q : Progress}
    (hx : x.start p = (.ok a, q)) {f : α → Work β} (h : (f a).FailsBy q cause) :
    (x >>= f).FailsBy p cause := by
  obtain ⟨q', hq'⟩ := h
  exact ⟨q', by rw [start_bind, hx]; exact hq'⟩

theorem failsBy_convertSheets {path : Path} (hbook : plan.Finds path)
    (hcause : (plan.converted job).result = .error cause) : ∀ (sheets : List Sheet) {p : Progress},
    plan.Contained p → job ∈ plan.sheetsFrom path sheets p →
      (plan.convertSheets path sheets).FailsBy p cause
  | [], p, _, hjob => absurd hjob List.not_mem_nil
  | sheet :: rest, p, h, hjob => by
    rw [sheetsFrom] at hjob
    rcases List.mem_cons.1 hjob with rfl | hjob
    · have hstart := start_convertSheet plan.o true sheet p
      simp only [lexiconFor, if_true, h.lexicon] at hstart
      rw [show (sheet.convert plan.readings plan.o).result = .error cause from hcause] at hstart
      unfold Plan.convertSheets
      rw [convertSheets]
      exact FailsBy.bind ⟨_, hstart⟩ _
    · split at hjob
      next written q hstart =>
        have hq := (leads_convertSheets_contained hbook [sheet] h).of_start hstart
        rw [Plan.convertSheets, convertSheets_cons]
        exact FailsBy.after hstart ((failsBy_convertSheets hbook hcause rest hq hjob).bind _)
      next => exact absurd hjob List.not_mem_nil

theorem failsBy_tryBook {path : Path} (hbook : plan.Finds path)
    (hcause : (plan.converted job).result = .error cause) (h : plan.Contained p)
    (hjob : job ∈ plan.bookFrom path p) : (tryBook plan.o plan.folder? path).FailsBy p cause := by
  unfold bookFrom at hjob
  split at hjob
  next sheets q hstart =>
    have hopen : (openBook plan.o path).Leads p (fun _ q => plan.Contained q) fun _ _ => True := by
      unfold openBook
      refine Leads.after (start_print _ _)
        ((leads_readBook_same path _).mono ?_ fun _ _ _ => trivial)
      rintro _ _ rfl
      exact h.congr rfl rfl rfl
    have hsheets := failsBy_convertSheets hbook hcause sheets (hopen.of_start hstart) hjob
    have hconvert : (convertBook plan.o true plan.folder? path).FailsBy p cause := by
      rw [convertBook_eq]
      exact FailsBy.after hstart hsheets
    obtain ⟨q', hq'⟩ := hconvert.bind fun written => pure (written, ([] : List Path))
    refine ⟨q', ?_⟩
    rw [tryBook, start_tryCatch, hq']
    rfl
  next => exact absurd hjob List.not_mem_nil

theorem failsBy_convertBooks (hcause : (plan.converted job).result = .error cause) :
    ∀ (books : List Path) {p : Progress}, (∀ path ∈ books, plan.Finds path) → plan.Contained p →
      job ∈ plan.booksFrom books p → (convertBooks plan.o plan.folder? books).FailsBy p cause
  | [], p, _, _, hjob => absurd hjob List.not_mem_nil
  | path :: rest, p, hbooks, h, hjob => by
    obtain ⟨hpath, hrest⟩ := List.forall_mem_cons.1 hbooks
    rw [convertBooks]
    rw [booksFrom] at hjob
    rcases List.mem_append.1 hjob with hjob | hjob
    · exact (failsBy_tryBook hpath hcause h hjob).bind _
    · split at hjob
      next first q hstart =>
        have hq := (leads_tryBook_contained h hpath).of_start hstart
        exact FailsBy.after hstart ((failsBy_convertBooks hcause rest hrest hq hjob).bind _)
      next => exact absurd hjob List.not_mem_nil

end Visited

end Work

namespace Plan

variable {plan : Plan}

/-- A run that fails has a cause. -/
theorem caused_of_run {e : Failure} (h : plan.run.1 = .error e) : plan.Caused e := by
  have hrun : plan.Steady (Work.run plan.o plan.folder? plan.recursive plan.inputs) plan.first := by
    unfold Work.run
    refine Work.Leads.after (Work.start_modify _ _) ?_
    rcases (Work.leads_discover_found plan).cases with
      ⟨books, q, hstart, hfound, printed, rfl⟩ | ⟨e, q, hstart, hfound, hsearch, printed, rfl⟩
    · refine Work.Leads.after hstart ?_
      refine Steady.bind (Work.steady_convertBooks books (sound_ready plan printed) ?_ ?_) ?_
      · exact fun path hpath haccess => haccess.books books hfound path hpath
      · intro job hjob
        rw [visited, hstart]
        exact hjob
      · rintro ⟨written, failed⟩ q hq
        refine Steady.bind (Work.steady_mergeEntries hq) fun table q' hq' => ?_
        exact Work.Leads.after (Work.start_get _)
          (Work.Leads.after (Work.start_print _ _) (Work.leads_pure (hq'.congr rfl rfl)))
    · refine Work.Leads.stop hstart ⟨?_, sound_ready plan printed⟩
      cases e with
      | inputMissing path => exact .told rfl
      | file cause => exact caused_of_file fun haccess => haccess.inputs cause hfound
      | _ => cases hsearch
  rcases hrun.cases with ⟨_, q, hstart, -⟩ | ⟨e', q, hstart, hcaused, -⟩
  · rw [run, hstart] at h
    cases h
  · rw [run, hstart] at h
    cases h
    exact hcaused

/-- A run that comes to a sheet that cannot be converted fails so. -/
theorem run_of_visited {job : Job} (hjob : job ∈ plan.visited) {cause : ConversionError}
    (hcause : (plan.converted job).result = .error cause) :
    plan.run.1 = .error (.conversion cause) := by
  have hrun : (Work.run plan.o plan.folder? plan.recursive plan.inputs).FailsBy plan.first
      cause := by
    unfold Work.run
    refine Work.FailsBy.after (Work.start_modify _ _) ?_
    unfold visited at hjob
    split at hjob
    next books q hstart =>
      obtain ⟨hfound, printed, rfl⟩ := (Work.leads_discover_found plan).of_start hstart
      refine Work.FailsBy.after hstart ((Work.failsBy_convertBooks hcause books ?_ ?_ hjob).bind _)
      · exact fun path hpath => ⟨books, hfound, hpath⟩
      · exact ⟨rfl, rfl, fun _ h => absurd h List.not_mem_nil, fun _ _ => rfl⟩
    next => exact absurd hjob List.not_mem_nil
  obtain ⟨q, hq⟩ := hrun
  rw [run, hq]

/-- The run ends at a path that cannot be taken. -/
def Blocked (plan : Plan) : Prop :=
  ∃ e, plan.run.1 = .error e ∧ e.isBlocked

/-- The run comes to a sheet whose template for keys names something that is not there. -/
def LooksAstray (plan : Plan) : Prop :=
  ∃ job ∈ plan.visited, ∃ fault, (plan.converted job).result = .error (.template fault)
    ∧ fault.isMalformed = false

theorem not_isReported_of_isBlocked {e : Failure} (h : e.isBlocked) : ¬ e.isReported := by
  cases e <;> simp_all [Failure.isBlocked, Failure.isReported]

theorem not_blocked (haccess : plan.Accessible) : ¬ plan.Blocked := by
  rintro ⟨e, hrun, hblocked⟩
  cases caused_of_run hrun with
  | told htold => exact not_isReported_of_isBlocked hblocked htold
  | sheet job cause _ _ he =>
    subst he
    cases hblocked
  | blocked _ hpaths => exact hpaths haccess

/-- The failure of a run is told, unless the run is blocked or looks for something that is not
there. -/
theorem isReported_iff (htotal : plan.readings.IsTotal) :
    (∀ e, plan.run.1 = .error e → e.isReported) ↔ ¬ plan.Blocked ∧ ¬ plan.LooksAstray := by
  constructor
  · intro h
    refine ⟨fun ⟨e, hrun, hblocked⟩ => not_isReported_of_isBlocked hblocked (h e hrun), ?_⟩
    rintro ⟨job, hjob, fault, hfault, hastray⟩
    have htold : fault.isMalformed := h _ (run_of_visited hjob hfault)
    rw [hastray] at htold
    cases htold
  · rintro ⟨hblocked, hastray⟩ e hrun
    cases caused_of_run hrun with
    | told htold => exact htold
    | sheet job cause hjob hcause he =>
      obtain ⟨fault, key, label, rfl, -⟩ := Sheet.exists_fault_of_convert htotal hcause
      subst he
      by_contra hnot
      exact hastray ⟨job, hjob, fault, hcause, eq_false_of_ne_true hnot⟩
    | blocked he => exact absurd ⟨e, hrun, he⟩ hblocked

/-- With a template that never names anything that is not there, the run looks for nothing else. -/
theorem not_looksAstray (htotal : plan.readings.IsTotal)
    (htemplate : ∀ key label fault, plan.o.locTemplate.format key label = .error fault →
      fault.isMalformed) : ¬ plan.LooksAstray := by
  rintro ⟨job, -, fault, hfault, hastray⟩
  obtain ⟨fault', key, label, heq, hformat⟩ := Sheet.exists_fault_of_convert htotal hfault
  obtain rfl := ConversionError.template.inj heq
  rw [htemplate key label fault hformat] at hastray
  cases hastray

end Plan

end MarkedSheet
