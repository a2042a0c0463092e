import MarkedSheet.Text.Basic

/-!
# Quoted tokens

A token is written between quotation marks, and a quotation mark inside it after a backslash. A
backslash itself is written as it is.
-/

namespace MarkedSheet

namespace KeyValues

/-- The characters of a token as they stand between the quotation marks. -/
def escape (t : Text) : Text :=
  t.flatMap fun c => if c = '"' then ['\\', '"'] else [c]

/-- A token in quotation marks. -/
def quote (t : Text) : Text :=
  '"' :: escape t ++ ['"']

@[simp] theorem escape_nil : escape [] = [] := rfl

theorem escape_append (s t : Text) : escape (s ++ t) = escape s ++ escape t := by
  simp [escape]

theorem escape_of_not_mem {t : Text} (h : '"' ∉ t) : escape t = t := by
  induction t with
  | nil => rfl
  | cons c rest ih =>
    simp only [List.mem_cons, not_or] at h
    have hc : c ≠ '"' := fun e => h.1 e.symm
    have hrest := ih h.2
    simp only [escape] at hrest ⊢
    simp [hc, hrest]

end KeyValues

end MarkedSheet
