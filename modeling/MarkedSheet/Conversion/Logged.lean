import MarkedSheet.Emission.Pairs
import MarkedSheet.Localization.Harvest
import MarkedSheet.Pinyin.Lexicon

/-!
# Results with a log

The conversion of a sheet prints lines and finds localization entries on its way. When it fails,
what was printed and found before stays.
-/

namespace MarkedSheet

/-- Why a sheet cannot be converted. -/
inductive ConversionError
  /-- A template for keys cannot be filled in. -/
  | template (e : TemplateError)
  /-- A phrase cannot be transliterated. -/
  | syllables (e : Pinyin.ExcessSyllables)
  /-- A row or column is not there. -/
  | range (e : RangeError)
  /-- A flat list has other than two columns. -/
  | columns (e : NotTwoColumns)
  deriving DecidableEq, Repr

/-- The description of an error. -/
def ConversionError.message : ConversionError → String
  | .template e => e.message
  | .syllables e => e.message
  | .range e => e.message
  | .columns e => e.message

/-- A result, or why there is none, with what was printed and found on the way. -/
structure Logged (α : Type) where
  printed : List Text
  entries : List Localization.Entry
  result : Except ConversionError α

namespace Logged

variable {α β : Type}

/-- A result with an empty log. -/
protected def pure (a : α) : Logged α :=
  ⟨[], [], .ok a⟩

/-- One computation after another. -/
protected def bind (x : Logged α) (f : α → Logged β) : Logged β :=
  match x.result with
  | .ok a => ⟨x.printed ++ (f a).printed, x.entries ++ (f a).entries, (f a).result⟩
  | .error e => ⟨x.printed, x.entries, .error e⟩

instance : Monad Logged where
  pure := Logged.pure
  bind := Logged.bind

/-- Prints lines. -/
def print (lines : List Text) : Logged Unit :=
  ⟨lines, [], .ok ()⟩

/-- Notes localization entries. -/
def note (entries : List Localization.Entry) : Logged Unit :=
  ⟨[], entries, .ok ()⟩

/-- Fails. -/
def fail (e : ConversionError) : Logged α :=
  ⟨[], [], .error e⟩

/-- A result that has no log. -/
def lift {ε : Type} (cause : ε → ConversionError) : Except ε α → Logged α
  | .ok a => .pure a
  | .error e => .fail (cause e)

@[simp] theorem pure_eq (a : α) : (pure a : Logged α) = ⟨[], [], .ok a⟩ := rfl

@[simp] theorem bind_ok (printed : List Text) (entries : List Localization.Entry) (a : α)
    (f : α → Logged β) : ((⟨printed, entries, .ok a⟩ : Logged α) >>= f)
      = ⟨printed ++ (f a).printed, entries ++ (f a).entries, (f a).result⟩ := rfl

@[simp] theorem bind_error (printed : List Text) (entries : List Localization.Entry)
    (e : ConversionError) (f : α → Logged β) :
    ((⟨printed, entries, .error e⟩ : Logged α) >>= f) = ⟨printed, entries, .error e⟩ := rfl

end Logged

end MarkedSheet
