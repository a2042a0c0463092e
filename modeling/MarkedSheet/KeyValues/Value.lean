import MarkedSheet.Number.Numeral
import MarkedSheet.Sheet.Cell

/-!
# Values as they are written

A cell that holds a numeral whose double is no whole number is written with exactly four decimal
places; the token for an empty value is written as nothing; all else is written as it stands.
-/

namespace MarkedSheet

namespace KeyValues

/-- The token that stands for an empty value unless another is chosen. -/
def defaultEmptyToken : Text := "__empty__".toList

/-- A numeral gets four decimal places unless it counts as a whole number. -/
def normalizeNumber (value : Text) : Text :=
  match Numeral.ofText? value.trim with
  | none => value
  | some n => if n.magnitude.isInteger then value else n.fourPlaces

/-- The value as it is written, where `emptyToken` stands for an empty value; the empty text stands
for no such token. -/
def normalize (emptyToken value : Text) : Text :=
  if !emptyToken.isEmpty && value = emptyToken then [] else normalizeNumber value

theorem normalize_cases (emptyToken value : Text) :
    normalize emptyToken value = [] ∨ normalize emptyToken value = value
      ∨ ∃ n : Numeral, n.magnitude.isInteger = false
        ∧ normalize emptyToken value = n.fourPlaces := by
  unfold normalize normalizeNumber
  split
  · exact .inl rfl
  · split
    · exact .inr (.inl rfl)
    next n _ =>
      cases hinteger : n.magnitude.isInteger with
      | true => exact .inr (.inl rfl)
      | false => exact .inr (.inr ⟨n, hinteger, rfl⟩)

theorem normalize_of_not_numeral {emptyToken value : Text}
    (h : Numeral.ofText? value.trim = none) (hne : value ≠ emptyToken) :
    normalize emptyToken value = value := by
  simp [normalize, normalizeNumber, h, hne]

end KeyValues

end MarkedSheet
