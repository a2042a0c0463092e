import MarkedSheet.Sheet.RowGroup
import MarkedSheet.Warning

/-!
# Results with warnings

A computation over a sheet may fail when it reaches for a row or column that is not there. The
warnings given before stay, so they stand beside the result and not inside it.
-/

namespace MarkedSheet

/-- A result, or why there is none, with the warnings given on the way. -/
structure Reported (α : Type) where
  warnings : List Warning
  result : Except RangeError α

namespace Reported

variable {α β : Type}

/-- A result without a warning. -/
protected def pure (a : α) : Reported α :=
  ⟨[], .ok a⟩

/-- One computation after another. -/
protected def bind (x : Reported α) (f : α → Reported β) : Reported β :=
  match x.result with
  | .ok a => ⟨x.warnings ++ (f a).warnings, (f a).result⟩
  | .error e => ⟨x.warnings, .error e⟩

instance : Monad Reported where
  pure := Reported.pure
  bind := Reported.bind

/-- Gives a warning. -/
def warn (w : Warning) : Reported Unit :=
  ⟨[w], .ok ()⟩

/-- Gives warnings. -/
def warnAll (ws : List Warning) : Reported Unit :=
  ⟨ws, .ok ()⟩

/-- Gives a warning if the condition holds. -/
def warnIf (condition : Bool) (w : Warning) : Reported Unit :=
  if condition then warn w else .pure ()

/-- A result that a look-up in the sheet gives. -/
def lift (x : Except RangeError α) : Reported α :=
  ⟨[], x⟩

/-- The lists that `f` gives for the members of a list, one after another. -/
def collect (f : α → Reported (List β)) : List α → Reported (List β)
  | [] => .pure []
  | a :: rest => do
    let first ← f a
    let others ← collect f rest
    return first ++ others

@[simp] theorem pure_eq (a : α) : (pure a : Reported α) = ⟨[], .ok a⟩ := rfl

@[simp] theorem bind_ok (ws : List Warning) (a : α) (f : α → Reported β) :
    ((⟨ws, .ok a⟩ : Reported α) >>= f) = ⟨ws ++ (f a).warnings, (f a).result⟩ := rfl

@[simp] theorem bind_error (ws : List Warning) (e : RangeError) (f : α → Reported β) :
    ((⟨ws, .error e⟩ : Reported α) >>= f) = ⟨ws, .error e⟩ := rfl

end Reported

end MarkedSheet
