import MarkedSheet.Conversion.Run

/-!
# Where a step of a run leads

`x.Leads p Q E` says that the step `x`, started with the progress `p`, ends with a result and a
progress for which `Q` holds, or with a failure and a progress for which `E` holds. Steps are put
together by `Leads.bind` and `Leads.tryCatch`, and what a basic step does is said once.
-/

namespace MarkedSheet

namespace FileTree

/-- The sheets of a workbook depend on its file and on how locations are written. -/
theorem sheets_congr {a b : FileTree} {location : Location} {headerOffset : Nat}
    (hground : a.toGround = b.toGround) (hfile : a.file? location = b.file? location) :
    a.sheets location headerOffset = b.sheets location headerOffset := by
  simp only [sheets, workbookSheets, tableSheets, hground, hfile]

/-- Where something is, that is seen. -/
theorem has_of_presence {tree : FileTree} {location : Location} {there : Bool}
    (h : tree.presence location = .ok there) : tree.has location = there := by
  unfold presence at h
  split at h
  next hthere => rw [hthere, Except.ok.inj h]
  next hthere =>
    split at h
    · cases h
    · rw [← Except.ok.inj h]
      exact eq_false_of_ne_true hthere

end FileTree

namespace Work

section Start

variable {α β : Type} (p : Progress)

theorem start_get : (get : Work Progress).start p = (.ok p, p) := rfl

theorem start_set (q : Progress) : (set q : Work Unit).start p = (.ok (), q) := rfl

theorem start_modify (f : Progress → Progress) : (modify f : Work Unit).start p = (.ok (), f p) :=
  rfl

theorem start_print (lines : List Text) :
    (print lines).start p = (.ok (), { p with printed := p.printed ++ lines }) := rfl

theorem start_fullPath (location : Location) :
    (fullPath location).start p = (.ok (p.tree.fullPath location), p) := rfl

theorem start_bind (x : Work α) (f : α → Work β) : (x >>= f).start p = match x.start p with
    | (.ok a, q) => (f a).start q
    | (.error e, q) => (.error e, q) := by
  change (ExceptT.bindCont f (x.start p).1) (x.start p).2 = _
  rcases x.start p with ⟨_ | a, q⟩ <;> rfl

theorem start_tryCatch (x : Work α) (handler : Failure → Work α) :
    (tryCatch x handler).start p = match x.start p with
      | (.ok a, q) => (.ok a, q)
      | (.error e, q) => (handler e).start q := by
  unfold start
  rw [ExceptT.run_tryCatch, StateT.run_bind]
  rcases StateT.run (ExceptT.run x) p with ⟨_ | a, q⟩ <;> rfl

theorem start_lift {ε : Type} (cause : ε → Failure) (x : Except ε α) :
    (lift cause x).start p = (x.mapError cause, p) := by
  cases x <;> rfl

end Start

/-- The step ends with a result for which `Q` holds, or with a failure for which `E` holds. -/
def Leads {α : Type} (x : Work α) (p : Progress) (Q : α → Progress → Prop)
    (E : Failure → Progress → Prop) : Prop :=
  match x.start p with
  | (.ok a, q) => Q a q
  | (.error e, q) => E e q

section Leads

variable {α β : Type} {p : Progress} {Q : α → Progress → Prop} {E : Failure → Progress → Prop}

theorem leads_of_ok {x : Work α} {a : α} {q : Progress} (h : x.start p = (.ok a, q))
    (hQ : Q a q) : x.Leads p Q E := by
  rw [Leads, h]
  exact hQ

theorem leads_of_error {x : Work α} {e : Failure} {q : Progress} (h : x.start p = (.error e, q))
    (hE : E e q) : x.Leads p Q E := by
  rw [Leads, h]
  exact hE

theorem leads_pure {a : α} (h : Q a p) : (pure a : Work α).Leads p Q E :=
  leads_of_ok rfl h

theorem leads_throw {e : Failure} (h : E e p) : (throw e : Work α).Leads p Q E :=
  leads_of_error rfl h

theorem Leads.cases {x : Work α} (h : x.Leads p Q E) :
    (∃ a q, x.start p = (.ok a, q) ∧ Q a q) ∨ ∃ e q, x.start p = (.error e, q) ∧ E e q := by
  unfold Leads at h
  rcases hx : x.start p with ⟨e | a, q⟩ <;> rw [hx] at h
  · exact .inr ⟨e, q, rfl, h⟩
  · exact .inl ⟨a, q, rfl, h⟩

theorem Leads.mono {x : Work α} {Q' : α → Progress → Prop} {E' : Failure → Progress → Prop}
    (h : x.Leads p Q E) (hQ : ∀ a q, Q a q → Q' a q) (hE : ∀ e q, E e q → E' e q) :
    x.Leads p Q' E' := by
  unfold Leads at h ⊢
  rcases hx : x.start p with ⟨_ | a, q⟩ <;> rw [hx] at h
  · exact hE _ _ h
  · exact hQ _ _ h

theorem Leads.bind {x : Work α} {f : α → Work β} {R : β → Progress → Prop} (hx : x.Leads p Q E)
    (hf : ∀ a q, Q a q → (f a).Leads q R E) : (x >>= f).Leads p R E := by
  unfold Leads at hx ⊢
  rw [start_bind]
  rcases h : x.start p with ⟨_ | a, q⟩ <;> rw [h] at hx
  · exact hx
  · exact hf a q hx

/-- A step that is known to succeed goes first. -/
theorem Leads.after {x : Work β} {b : β} {q : Progress} (h : x.start p = (.ok b, q))
    {f : β → Work α} (hf : (f b).Leads q Q E) : (x >>= f).Leads p Q E :=
  (leads_of_ok (Q := fun b' q' => b' = b ∧ q' = q) h ⟨rfl, rfl⟩).bind fun _ _ h => by
    obtain ⟨rfl, rfl⟩ := h
    exact hf

theorem Leads.tryCatch {x : Work α} {handler : Failure → Work α} {E' : Failure → Progress → Prop}
    (hx : x.Leads p Q E') (hhandler : ∀ e q, E' e q → (handler e).Leads q Q E) :
    (tryCatch x handler).Leads p Q E := by
  unfold Leads at hx ⊢
  rw [start_tryCatch]
  rcases h : x.start p with ⟨_ | a, q⟩ <;> rw [h] at hx
  · exact hhandler _ q hx
  · exact hx

end Leads

section Files

variable {p : Progress} {E : Failure → Progress → Prop}

theorem start_locate (path : Path) (p : Progress) :
    (locate path).start p = ((p.tree.locate path).mapError .file, p) := by
  rw [locate, start_bind, start_get]
  exact start_lift _ _ _

theorem start_isThere (location : Location) (p : Progress) :
    (isThere location).start p = ((p.tree.presence location).mapError .file, p) := by
  rw [isThere, start_bind, start_get]
  exact start_lift _ _ _

theorem start_locate_of_ok {path : Path} {location : Location}
    (h : p.tree.locate path = .ok location) : (locate path).start p = (.ok location, p) := by
  rw [start_locate, h]
  rfl

theorem start_isThere_of_ok {location : Location} {there : Bool}
    (h : p.tree.presence location = .ok there) : (isThere location).start p = (.ok there, p) := by
  rw [start_isThere, h]
  rfl

theorem leads_lift_file {α : Type} (x : Except FileError α) (hE : ∀ e, E (.file e) p) :
    (lift .file x).Leads p (fun a q => x = .ok a ∧ q = p) E := by
  cases x with
  | error e => exact leads_throw (hE e)
  | ok a => exact leads_pure ⟨rfl, rfl⟩

theorem leads_locate (path : Path) (hE : ∀ e, E (.file e) p) :
    (locate path).Leads p (fun location q => p.tree.locate path = .ok location ∧ q = p) E :=
  Leads.after (start_get p) (leads_lift_file _ hE)

theorem leads_isThere (location : Location) (hE : ∀ e, E (.file e) p) :
    (isThere location).Leads p (fun there q => p.tree.has location = there ∧ q = p) E :=
  Leads.after (start_get p) ((leads_lift_file _ hE).mono
    (fun _ _ ⟨h, hq⟩ => ⟨FileTree.has_of_presence h, hq⟩) fun _ _ h => h)

theorem leads_changeTree {change : FileTree → Except FileError FileTree}
    (hE : ∀ e, E (.file e) p) : (changeTree change).Leads p
      (fun _ q => ∃ tree, change p.tree = .ok tree ∧ q = { p with tree }) E := by
  unfold changeTree
  refine Leads.after (start_get p) ?_
  cases h : change p.tree with
  | error e => exact leads_of_error rfl (hE e)
  | ok tree => exact leads_of_ok rfl ⟨tree, rfl, rfl⟩

/-- A file that cannot be written may leave folders behind, but no file is changed. -/
theorem leads_writeFile (location : Location) (t : Text)
    (hE : ∀ e tree, tree.toGround = p.tree.toGround →
      (∀ other, tree.file? other = p.tree.file? other) → E (.file e) { p with tree }) :
    (writeFile location t).Leads p (fun _ q => ∃ tree, q = { p with tree }
      ∧ tree.toGround = p.tree.toGround ∧ ∀ other, tree.file? other
        = if location = other then some (.text t) else p.tree.file? other) E := by
  unfold writeFile
  refine (leads_changeTree fun e => hE e p.tree rfl fun _ => rfl).bind
    fun _ q ⟨made, hmade, hq⟩ => ?_
  subst hq
  refine (leads_changeTree fun e => hE e made (FileTree.toGround_makeFolder hmade)
    fun other => ?_).mono (fun _ q' ⟨tree, htree, hq'⟩ => ?_) fun _ _ h => h
  · rw [FileTree.file?, FileTree.file?, FileTree.files_makeFolder hmade]
  refine ⟨tree, hq', ?_, fun other => ?_⟩
  · exact (FileTree.toGround_writeFile htree).trans (FileTree.toGround_makeFolder hmade)
  · rw [FileTree.file?_writeFile htree]
    simp only [FileTree.file?, FileTree.files_makeFolder hmade]

end Files

end Work

end MarkedSheet
