import MarkedSheet.Proofs.CommandLine.Given
import MarkedSheet.Proofs.Conversion.Causes

/-!
# The exit code

The command reads the options from the members of its options file and from its arguments, and then
runs, so its exit code is that of the two together (`exitCode?_perform`). For options of the
declared types it is 0 or 1 but for three failures that escape: a pattern with a number beyond all
limits, a path that cannot be taken, and a template for keys that names something that is not there,
or that does not take what is asked of it (`returns_iff`).
-/

namespace MarkedSheet

/-- What holds of the failures of two computations holds of those of each. -/
theorem forall_error_iff {ε α β : Type} {x : Except ε α} {f : α → Except ε β} {P : ε → Prop} :
    (∀ e, (x >>= f) = .error e → P e)
      ↔ (∀ e, x = .error e → P e) ∧ ∀ a, x = .ok a → ∀ e, f a = .error e → P e := by
  constructor
  · refine fun h => ⟨?_, ?_⟩
    · rintro e rfl
      exact h e rfl
    · rintro a rfl e he
      exact h e he
  · rintro ⟨hx, hf⟩ e h
    rcases error_of_bind h with h | ⟨a, ha, h⟩
    · exact hx e h
    · exact hf a ha e h

namespace CommandLine

namespace Arguments

variable {a : Arguments} {members : Mapping Text Value}

/-- The run that arguments ask for with options. -/
def plan (a : Arguments) (members : Mapping Text Value) (o : Options) (tree : FileTree)
    (lexicon : Pinyin.Lexicon) : Plan where
  o := o
  folder? := if (a.text .outDir).isEmpty then none else some (.ofText (a.text .outDir))
  recursive := (a.given.get? .recursive).isSome
  inputs := a.inputs.map .ofText
  tree := tree
  lexicon := lexicon
  printed := (Settings.ofMembers members).printed

theorem checked?_nil (host : Host) : Settings.checked? host [] = .ok .default := by
  have h : (Options.ofSettings? host .default).isOk := rfl
  have hread : (Settings.ofMembers []).result = .ok .default := rfl
  cases hoptions : Options.ofSettings? host .default with
  | error e =>
    rw [hoptions] at h
    cases h
  | ok o =>
    rw [Settings.checked?, hread]
    simp only [Except.mapError, bind, Except.bind, hoptions]
    rfl

/-- The settings are those of the members of the options file, whose names that mean nothing are
told. -/
theorem start_settings (host : Host) {p : Progress} (h : a.members? p.tree = some members) :
    (if (a.text .config).isEmpty then pure .default
      else Work.loadSettings host (.ofText (a.text .config)) : Work Settings).start p
      = (Settings.checked? host members,
        { p with printed := p.printed ++ (Settings.ofMembers members).printed }) := by
  unfold members? at h
  simp only at h
  split at h
  next hnone =>
    obtain rfl := Option.some.inj h
    rw [if_pos hnone, checked?_nil host,
      show (Settings.ofMembers []).printed = [] from rfl, List.append_nil]
    rfl
  next hconfig =>
    rw [if_neg hconfig, Settings.loadSettings_eq]
    cases hlocate : p.tree.locate (.ofText (a.text .config)) with
    | error e =>
      rw [hlocate] at h
      cases h
    | ok location =>
      rw [hlocate, Except.toOption, Option.bind_some] at h
      cases hmembers : p.tree.optionMembers location with
      | error e =>
        rw [hmembers] at h
        cases h
      | ok read =>
        rw [hmembers] at h
        obtain rfl := Option.some.inj h
        rw [Work.start_bind, Work.start_locate_of_ok hlocate]
        simp only
        rw [Work.start_bind, Work.start_get]
        simp only
        rw [Work.start_bind, hmembers, Work.start_lift]
        simp only [Except.mapError]
        rw [Work.start_bind, Work.start_print]
        simp only
        rw [Work.start_lift]
        cases Settings.checked? host read <;> rfl

theorem start_options (host : Host) {p : Progress} (h : a.members? p.tree = some members) :
    (a.options host).start p = (a.options? host members,
      { p with printed := p.printed ++ (Settings.ofMembers members).printed }) := by
  have hsettings := start_settings host h
  have hoptions : a.options host = (if (a.text .config).isEmpty then pure .default
      else Work.loadSettings host (.ofText (a.text .config)) : Work Settings) >>= fun base =>
        Work.lift .settings (Options.ofSettings? host (a.over base)) := by
    unfold Arguments.options
    by_cases hconfig : (a.text .config).isEmpty
    · simp only [hconfig, if_true]
    · simp only [hconfig, Bool.false_eq_true, if_false]
  rw [hoptions, Work.start_bind, hsettings, options?]
  cases Settings.checked? host members with
  | error e => rfl
  | ok base => exact Work.start_lift _ _ _

end Arguments

/-- The exit code for a run, none for a failure that is not told. -/
def exitCodeOf? : Except Failure Report → Option Nat
  | .ok _ => some 0
  | .error e => if e.isReported then some 1 else none

theorem exitCodeOf?_iff {outcome : Except Failure Report} :
    exitCodeOf? outcome = some 0 ∨ exitCodeOf? outcome = some 1
      ↔ ∀ e, outcome = .error e → e.isReported := by
  cases outcome <;> simp [exitCodeOf?]

/-- The command returns 0 or 1: it does not refuse its arguments, and no failure escapes. -/
def Returns (host : Host) (arguments : List Text) (tree : FileTree) (lexicon : Pinyin.Lexicon) :
    Prop :=
  (perform host arguments { tree, lexicon }).1.exitCode? = some 0
    ∨ (perform host arguments { tree, lexicon }).1.exitCode? = some 1

section Perform

variable {host : Host} {arguments : List Text} {a : Arguments} {members : Mapping Text Value}
  {tree : FileTree} {lexicon : Pinyin.Lexicon} (harguments : Arguments.ofList? arguments = .ok a)
  (hhelp : a.wantsHelp = false) (hmembers : a.members? tree = some members)

include harguments hhelp hmembers

theorem exitCode?_perform : (perform host arguments { tree, lexicon }).1.exitCode?
    = exitCodeOf? (a.options? host members >>= fun o => (a.plan members o tree lexicon).run.1) := by
  have hoptions := Arguments.start_options host (p := { tree, lexicon }) hmembers
  have hrun : ((a.run host).start { tree, lexicon }).1 = a.options? host members >>= fun o =>
      (a.plan members o tree lexicon).run.1 := by
    rw [Arguments.run, Work.start_bind, hoptions]
    cases a.options? host members <;> rfl
  rw [perform, harguments, ← hrun]
  simp only [hhelp, Bool.false_eq_true, if_false]
  rcases (a.run host).start { tree, lexicon } with ⟨e | report, q⟩ <;> rfl

theorem returns_iff_isReported : Returns host arguments tree lexicon
    ↔ (∀ e, a.options? host members = .error e → e.isReported)
      ∧ ∀ o, a.options? host members = .ok o →
        ∀ e, (a.plan members o tree lexicon).run.1 = .error e → e.isReported := by
  rw [Returns, exitCode?_perform harguments hhelp hmembers, exitCodeOf?_iff, forall_error_iff]

end Perform

/-- Two files of records, of which the second has texts for keys by a template, and an options file
whose template names something that is not there. -/
def strayTree : FileTree where
  root := "/r".toList
  folders := []
  files := [
    (["a.csv".toList], .text ",\nid,x\nh,1\n".toList),
    (["b.csv".toList], .text ",,\nid,x,#LocValues\nh,1,text\n".toList),
    (["c.json".toList],
      .text "\x7b\"sheetsIgnore\": \"#\", \"locValuesTemplate\": \"\x7bfoo\x7d\"\x7d".toList)]

/-- A template that names neither the key nor the label. -/
def strayTemplate : Template := ⟨"\x7bfoo\x7d".toList, .usual⟩

theorem format_strayTemplate (key label : Text) :
    strayTemplate.format key label = .error (.unknownName "foo".toList) := by
  have hpieces : Template.pieces strayTemplate.source = [.field ⟨"foo".toList, none, []⟩] := rfl
  rw [Template.format, hpieces, Template.fill]
  rfl

/-- The usual options, but for the sheets to leave out. -/
def plainOptions : Options :=
  { Sheet.bareOptions with
    indent := "    ".toList
    autoSimple := true
    emptyToken := KeyValues.defaultEmptyToken
    inferRootName := true
    locLanguage := Localization.defaultLanguage }

/-- The first file is asked for, with sheets to leave out. -/
def plainArguments : Arguments where
  inputs := ["a.csv".toList]
  given := [(.sheetsIgnore, .text ['#'])]

/-- The run for the first file. -/
def plainPlan : Plan :=
  plainArguments.plan [] plainOptions strayTree .blank

theorem plainPlan_accessible : plainPlan.Accessible := by
  have hfound : plainPlan.found = .ok [.ofText "a.csv".toList] := rfl
  have hgoals : plainPlan.goals = [.ofText "a.txt".toList] := by decide +kernel
  have hbook : plainPlan.tree.locate (.ofText "a.csv".toList) = .ok ["a.csv".toList] := rfl
  have hgoal : plainPlan.tree.locate (.ofText "a.txt".toList) = .ok ["a.txt".toList] := rfl
  have hplaces : plainPlan.places = [["a.txt".toList]] := by
    rw [Plan.places, hgoals]
    rfl
  refine ⟨fun e he => ?_, fun books hbooks path hpath => ?_, fun path hpath e he => ?_, ?_, ?_⟩
  · cases hfound.symm.trans he
  · obtain rfl := Except.ok.inj (hfound.symm.trans hbooks)
    obtain rfl := List.mem_singleton.1 hpath
    refine ⟨fun e he => ?_, fun location hlocation => ?_⟩
    · cases hbook.symm.trans he
    · obtain rfl := Except.ok.inj (hbook.symm.trans hlocation)
      decide
  · rw [hgoals] at hpath
    obtain rfl := List.mem_singleton.1 hpath
    cases hgoal.symm.trans he
  · rw [hplaces]
    decide
  · rw [hplaces]
    decide

/-- The second file is asked for, with the options file. -/
def strayArguments : Arguments where
  inputs := ["b.csv".toList]
  given := [(.config, .text "c.json".toList)]

/-- The members of the options file. -/
def strayMembers : Mapping Text Value :=
  (strayArguments.members? strayTree).getD []

/-- The text that a value is. -/
def textOf? : Value → Option Text
  | .text t => some t
  | _ => none

theorem eq_of_map_text? {members : Mapping Text Value} : ∀ pairs : Mapping Text Text,
    members.map (fun member => (member.1, textOf? member.2))
      = pairs.map (fun pair => (pair.1, some pair.2)) →
    members = pairs.map fun pair => (pair.1, Value.text pair.2) := by
  induction members with
  | nil =>
    intro pairs h
    rw [List.map_eq_nil_iff.1 h.symm]
    rfl
  | cons member rest ih =>
    rintro (_ | ⟨pair, others⟩) h
    · cases h
    · obtain ⟨hfirst, hrest⟩ := List.cons.inj h
      obtain ⟨name, v⟩ := member
      obtain ⟨hname, hvalue⟩ := Prod.mk.inj hfirst
      rw [List.map_cons, ← ih others hrest]
      cases v <;> simp_all [textOf?]

/-- The usual options, but for the sheets to leave out and the template. -/
def strayOptions : Options :=
  { plainOptions with locTemplate := strayTemplate }

/-- The run for the second file. -/
def strayPlan : Plan :=
  strayArguments.plan strayMembers strayOptions strayTree .blank

/-- The sheet of the second file. -/
def straySheet : Sheet where
  name := "b".toList
  rows := [none, none, none]
    :: [["id", "x", "#LocValues"], ["h", "1", "text"]].map (List.map fun t => some t.toList)
  source := "b.csv".toList
  headerOffset := 0

/-- The titles of the sheet. -/
def strayTitles : Row :=
  ["id", "x", "#LocValues"].map fun t => some t.toList

/-- The one data row of the sheet. -/
def strayRow : Row :=
  ["h", "1", "text"].map fun t => some t.toList

/-- The data row under its schema. -/
def strayPage : Page :=
  Sheet.page strayOptions straySheet (.ofTitles strayTitles) [strayRow] [none, none, none]

theorem strayPage_fault : (Localization.harvest strayPage strayTemplate).fault.isSome := by
  have hlabel : Localization.labelOf strayPage.schema strayRow 2 = .ok "x".toList := rfl
  refine Localization.isSome_fault_of_mem (e := .unknownName "foo".toList)
    (List.mem_flatMap.2 ⟨(.locValues, 2), by decide, List.mem_flatMap.2
      ⟨((strayRow, some "h".toList), 0), by decide, ?_⟩⟩)
  unfold Localization.rowFindings
  simp only [hlabel, format_strayTemplate]
  exact List.mem_singleton_self _

/-- The sheet comes down to its page, whose harvest has a fault. -/
theorem straySheet_fault : ∃ fault,
    (straySheet.convert .blank strayOptions).result = .error (.template fault) := by
  obtain ⟨fault, hfault⟩ := Option.isSome_iff_exists.1 strayPage_fault
  have hname : Sheet.writtenName .blank strayOptions straySheet.name
      = ⟨[], [], .ok straySheet.name⟩ := by
    rw [Sheet.writtenName, if_neg (by decide)]
    rfl
  have hrows : straySheet.dataRows = .ok [strayRow] := rfl
  have htitles : straySheet.titleRow = .ok strayTitles := rfl
  have hnotes : straySheet.noteRow = .ok [none, none, none] := rfl
  have houtput : (Sheet.outputOf .blank strayOptions straySheet straySheet.name strayTitles
      strayPage).result = .error (.template fault) :=
    Sheet.outputOf_of_fault (by decide) hfault
  refine ⟨fault, ?_⟩
  rw [Sheet.convert, if_neg (by decide), hname, Logged.bind_ok, Sheet.convertNamed,
    if_neg (by decide), if_neg (by decide), hrows, htitles, hnotes]
  simp only [Logged.lift_ok, Logged.bind_ok]
  rw [if_neg (by decide), Logged.result_bind]
  change (Sheet.outputOf _ _ _ _ _ strayPage).result >>= _ = _
  rw [houtput]
  rfl

theorem strayPlan_looksAstray : strayPlan.LooksAstray := by
  have hfound : strayPlan.found = .ok [.ofText "b.csv".toList] := rfl
  have hlocate : strayPlan.tree.locate (.ofText "b.csv".toList) = .ok ["b.csv".toList] := rfl
  have hread : strayPlan.tree.sheets ["b.csv".toList] strayPlan.o.headerOffset
      = .ok [straySheet] := rfl
  have hjob := Plan.mem_visited_of_first hfound hlocate (by decide) hread
  obtain ⟨fault, hfault⟩ := straySheet_fault
  obtain ⟨fault', key, label, heq, hformat⟩ :=
    Sheet.exists_fault_of_convert Pinyin.Lexicon.blank_isPlain.total hfault
  obtain rfl := ConversionError.template.inj heq
  obtain rfl := Except.error.inj ((format_strayTemplate key label).symm.trans hformat)
  exact ⟨_, hjob, _, hfault, rfl⟩

end CommandLine

end MarkedSheet
