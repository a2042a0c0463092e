import MarkedSheet.Proofs.Conversion.Sheets
import MarkedSheet.Proofs.Conversion.WholeRun
import MarkedSheet.Proofs.Files.Extension

/-!
# What a run leaves alone

However a run without a table of localized texts ends, the only files that it has changed are those
it has written sheets to (`Plan.Contained`), and each of these has the name of its sheet with the
extension of the options. So a workbook is safe unless a sheet is written over it, and with an
extension that no workbook has, it takes a link for that (`Plan.run_changes_only_targets`). With
another extension a workbook can be lost: `Plan.ownSource` is written over while it is converted.
-/

namespace MarkedSheet

/-- The file of a sheet is named after the sheet. -/
theorem Sheet.fileName_of_convert {lexicon : Pinyin.Lexicon} {o : Options} {s : Sheet}
    {output : Output} (h : (s.convert lexicon o).result = .ok (some output)) :
    output.fileName = output.sheetName ++ o.extension := by
  rcases convert_cases lexicon o s with hnone | ⟨name, titles, rows, notes, -, -, -, hsome⟩
  · exact absurd h ((hnone o.autoSimple o.transliterate).2 output)
  · have hresult := (hsome o.autoSimple o.transliterate).2
    rw [show Sheet.styled o o.autoSimple o.transliterate = o from rfl, h] at hresult
    obtain ⟨body, lines, -, -, rfl⟩ :=
      (outputOf_result ..).1 (Logged.map_some_eq_ok.1 hresult.symm)
    rfl

namespace Plan

variable (plan : Plan)

/-- The inputs lead to the workbook. -/
def Finds (path : Path) : Prop :=
  ∃ books, plan.found = .ok books ∧ path ∈ books

/-- The location is where a sheet of one of the workbooks is written. -/
def IsTarget (location : Location) : Prop :=
  ∃ job output, plan.Finds job.book ∧ (plan.converted job).result = .ok (some output)
    ∧ plan.target job output = .ok location

/-- The only files changed are those that sheets of the workbooks were written to. -/
structure Contained (p : Progress) : Prop where
  ground : p.tree.toGround = plan.tree.toGround
  lexicon : p.lexicon = plan.readings
  generated : ∀ location ∈ p.generated, plan.IsTarget location
  other : ∀ location, location ∉ p.generated → p.tree.file? location = plan.tree.file? location

variable {plan} {p q : Progress}

theorem Contained.congr (h : plan.Contained p) (htree : q.tree = p.tree)
    (hlexicon : q.lexicon = p.lexicon) (hgenerated : q.generated = p.generated) :
    plan.Contained q where
  ground := by rw [htree, h.ground]
  lexicon := hlexicon.trans h.lexicon
  generated := by rw [hgenerated]; exact h.generated
  other location hlocation := by
    rw [hgenerated] at hlocation
    rw [htree, h.other location hlocation]

/-- One more target, at which the file may have changed. -/
theorem Contained.write (h : plan.Contained p) {location : Location}
    (htarget : plan.IsTarget location) (hground : q.tree.toGround = p.tree.toGround)
    (hlexicon : q.lexicon = p.lexicon) (hgenerated : q.generated = p.generated ++ [location])
    (hfiles : ∀ other, other ≠ location → q.tree.file? other = p.tree.file? other) :
    plan.Contained q where
  ground := hground.trans h.ground
  lexicon := hlexicon.trans h.lexicon
  generated other hother := by
    rw [hgenerated, List.mem_append, List.mem_singleton] at hother
    rcases hother with hother | rfl
    · exact h.generated other hother
    · exact htarget
  other other hother := by
    rw [hgenerated, List.mem_append, List.mem_singleton, not_or] at hother
    rw [hfiles other hother.2, h.other other hother.1]

end Plan

namespace Work

open Plan

variable {plan : Plan} {p : Progress}

theorem leads_convertSheets_contained {path : Path} (hbook : plan.Finds path) :
    ∀ (sheets : List Sheet) {p : Progress}, plan.Contained p →
      (convertSheets plan.o true (plan.folder?.getD path.parent) path.name sheets).Leads p
        (fun _ q => plan.Contained q) (fun _ q => plan.Contained q)
  | [], p, h => by
    rw [convertSheets]
    exact leads_pure h
  | sheet :: sheets, p, h => by
    have hothers : ∀ {q : Progress} (written : List Location), plan.Contained q → (do
        let others ← convertSheets plan.o true (plan.folder?.getD path.parent) path.name sheets
        return written ++ others : Work (List Location)).Leads q
          (fun _ q => plan.Contained q) (fun _ q => plan.Contained q) :=
      fun _ hq => (leads_convertSheets_contained hbook sheets hq).bind fun _ _ hq' => leads_pure hq'
    rw [convertSheets]
    refine (leads_convertSheet h.lexicon ⟨path, sheet⟩ ?_).bind ?_
    · exact fun e printed => h.congr rfl rfl rfl
    rintro result _ ⟨hresult, printed, rfl⟩
    cases result with
    | none =>
      refine Leads.after (start_modify _ _) (hothers _ ?_)
      exact h.congr rfl rfl rfl
    | some output =>
      have hgoal : ∀ {target : Location}, plan.target ⟨path, sheet⟩ output = .ok target →
          plan.IsTarget target := fun htarget => ⟨⟨path, sheet⟩, output, hbook, hresult, htarget⟩
      simp only
      refine (leads_writeOutput ?_ ⟨path, sheet⟩ output ?_ ?_ ?_).bind ?_
      · exact h.ground
      · exact fun _ => h.congr rfl rfl rfl
      · exact fun e target tree printed' htarget hground hfiles =>
          h.write (hgoal htarget) hground rfl rfl fun other _ => hfiles other
      · exact fun _ _ _ => h.congr rfl rfl rfl
      · rintro target _ ⟨htarget, -, tree, printed', rfl, hground, hfiles⟩
        refine hothers _ (h.write (hgoal htarget) hground rfl rfl fun other hother => ?_)
        exact (hfiles other).trans (if_neg (Ne.symm hother))

theorem leads_readBook_same (path : Path) (headerOffset : Nat) :
    (readBook path headerOffset).Leads p (fun _ q => q = p) fun _ q => q = p := by
  unfold readBook
  refine (leads_locate path fun _ => rfl).bind ?_
  rintro location _ ⟨-, rfl⟩
  refine (leads_isThere location fun _ => rfl).bind ?_
  rintro there _ ⟨-, rfl⟩
  cases there with
  | true =>
    refine Leads.after (start_get _) ?_
    cases FileTree.sheets _ location headerOffset with
    | error e => exact leads_throw rfl
    | ok sheets => exact leads_pure rfl
  | false => exact Leads.after (start_fullPath _ location) (leads_throw rfl)

theorem leads_tryBook_contained (h : plan.Contained p) {path : Path} (hbook : plan.Finds path) :
    (tryBook plan.o plan.folder? path).Leads p
      (fun _ q => plan.Contained q) (fun _ q => plan.Contained q) := by
  have hprinted : ∀ {q : Progress} {printed : List Text}, plan.Contained q →
      plan.Contained { q with printed } := fun hq => hq.congr rfl rfl rfl
  have hconvert : (convertBook plan.o true plan.folder? path).Leads p
      (fun _ q => plan.Contained q) (fun _ q => plan.Contained q) := by
    unfold convertBook
    refine Leads.after (start_print _ _) ?_
    refine ((leads_readBook_same path plan.o.headerOffset).mono (fun _ _ hq => hq) ?_).bind ?_
    · rintro _ _ rfl
      exact hprinted h
    · rintro sheets _ rfl
      exact leads_convertSheets_contained hbook sheets (hprinted h)
  unfold tryBook
  refine Leads.tryCatch (hconvert.bind fun _ _ hq => leads_pure hq) fun e q hq => ?_
  cases e with
  | read cause => exact Leads.after (start_print _ _) (leads_pure (hprinted hq))
  | _ => exact leads_throw hq

theorem leads_convertBooks_contained : ∀ (books : List Path) {p : Progress},
    (∀ path ∈ books, plan.Finds path) → plan.Contained p →
    (convertBooks plan.o plan.folder? books).Leads p
      (fun _ q => plan.Contained q) (fun _ q => plan.Contained q)
  | [], p, _, h => by
    rw [convertBooks]
    exact leads_pure h
  | path :: rest, p, hbooks, h => by
    rw [convertBooks]
    obtain ⟨hpath, hrest⟩ := List.forall_mem_cons.1 hbooks
    refine (leads_tryBook_contained h hpath).bind ?_
    rintro ⟨written, failed⟩ q hq
    refine (leads_convertBooks_contained rest hrest hq).bind ?_
    rintro ⟨others, otherFailed⟩ q' hq'
    exact leads_pure hq'

theorem leads_discover_found (plan : Plan) :
    (discover plan.recursive plan.o.verbose plan.inputs).Leads plan.ready
      (fun books q => plan.found = .ok books ∧ ∃ printed, q = { plan.ready with printed })
      fun e q => plan.found = .error e ∧ e.isSearch
        ∧ ∃ printed, q = { plan.ready with printed } := by
  rcases (leads_discover plan.recursive plan.o.verbose plan.inputs).cases with
    ⟨books, q, h, ⟨printed, rfl⟩, -⟩ | ⟨e, q, h, hsearch, printed, rfl⟩
  · exact leads_of_ok h ⟨by rw [Plan.found, h], printed, rfl⟩
  · exact leads_of_error h ⟨by rw [Plan.found, h], hsearch, printed, rfl⟩

theorem leads_mergeEntries_none {o : Options} (hpath : o.locPath = [])
    {E : Failure → Progress → Prop} : (mergeEntries o).Leads p (fun _ q => q = p) E := by
  unfold mergeEntries
  refine Leads.after (start_get _) ?_
  simp only [hpath, List.isEmpty_nil, Bool.true_or, if_true]
  exact leads_pure rfl

end Work

namespace Plan

theorem contained_run (plan : Plan) (hpath : plan.o.locPath = []) :
    plan.Contained plan.run.2 := by
  have hready : ∀ printed, plan.Contained { plan.ready with printed } := fun _ =>
    ⟨rfl, rfl, fun _ h => absurd h List.not_mem_nil, fun _ _ => rfl⟩
  have hrun : (Work.run plan.o plan.folder? plan.recursive plan.inputs).Leads plan.first
      (fun _ q => plan.Contained q) (fun _ q => plan.Contained q) := by
    unfold Work.run
    refine Work.Leads.after (Work.start_modify _ _) ?_
    refine ((Work.leads_discover_found plan).mono (fun _ _ hq => hq) ?_).bind ?_
    · rintro _ _ ⟨-, -, printed, rfl⟩
      exact hready printed
    rintro books _ ⟨hbooks, printed, rfl⟩
    refine (Work.leads_convertBooks_contained books (fun path hmem => ⟨books, hbooks, hmem⟩)
      (hready printed)).bind ?_
    rintro ⟨written, failed⟩ q hq
    refine (Work.leads_mergeEntries_none hpath).bind ?_
    rintro table _ rfl
    refine Work.Leads.after (Work.start_get _)
      (Work.Leads.after (Work.start_print _ _) (Work.leads_pure ?_))
    exact hq.congr rfl rfl rfl
  rcases hrun.cases with ⟨_, q, h, hq⟩ | ⟨_, q, h, hq⟩
  · rw [run, h]
    exact hq
  · rw [run, h]
    exact hq

/-- A file of records in a folder to which sheets are written with the extension of such files. -/
def ownSource : Plan :=
  { twoBooks with
    o := { twoBooks.o with extension := ".csv".toList }
    folder? := none
    inputs := [.ofText "a.csv".toList]
    tree := {
      root := "/r".toList
      folders := []
      files := [(["a.csv".toList], .text ",\nid,x\nh,1\n".toList)] } }

/-- A file of records to which a link leads that has the name of its sheet with the extension. -/
def linkedSource : Plan :=
  { ownSource with
    o := twoBooks.o
    tree := { ownSource.tree with links := [(["a.txt".toList], .ofText "a.csv".toList)] } }

/-- The run ends well, and what it has written stands in the place of a workbook. -/
def Loses (plan : Plan) (path : Path) (place : Location) : Prop :=
  plan.run.1.isOk ∧ plan.Finds path ∧ plan.tree.find? path = .ok place
    ∧ plan.run.2.tree.file? place ≠ plan.tree.file? place

end Plan

end MarkedSheet
