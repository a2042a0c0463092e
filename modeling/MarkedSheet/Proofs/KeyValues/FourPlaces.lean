import MarkedSheet.KeyValues.Value
import MarkedSheet.Proofs.Number.Written
import MarkedSheet.Workbook.Value

/-!
# Doubles of a workbook as values

The cell of a double that is no whole number is written with four decimal places exactly if the
double is at least a ten-thousandth. The text of a smaller double has an exponent, so it passes as
it stands, although a numeral for the same double is written with four decimal places
(`normalize_double`).
-/

namespace MarkedSheet

namespace Magnitude

/-- The text is the number rounded to four decimal places, of two equally near ones to the even. -/
def IsFourPlaces (v : ℚ) (t : Text) : Prop :=
  ∃ n : Nat, t = Text.ofNat (n / 10000) ++ '.' :: (Text.ofNat (n % 10000)).leftpad 4 '0'
    ∧ |(n : ℚ) - v * 10000| ≤ 1 / 2 ∧ (|(n : ℚ) - v * 10000| = 1 / 2 → n % 2 = 0)

theorem tenThousandths_finite (m : Nat) (q : Int) : tenThousandths (.finite m q)
    = roundDiv ((quotient m q).1 * 10000) (quotient m q).2 := rfl

theorem value_mul_tenThousand (m : Nat) (q : Int) : value m q * 10000
    = (((quotient m q).1 * 10000 : Nat) : ℚ) / (quotient m q).2 := by
  rw [← quotient_eq]
  push_cast
  ring

theorem isFourPlaces_fourPlaces (m : Nat) (q : Int) :
    IsFourPlaces (value m q) (fourPlaces (.finite m q)) := by
  refine ⟨tenThousandths (.finite m q), rfl, ?_⟩
  rw [tenThousandths_finite, value_mul_tenThousand]
  exact roundDiv_spec _ (quotient_pos m q)

theorem e_not_mem_ofNat (n : Nat) : 'e' ∉ Text.ofNat n := fun h =>
  absurd (isDigit_of_mem_ofNat h) (by decide)

theorem e_not_mem_fourPlaces (m : Nat) (q : Int) : 'e' ∉ fourPlaces (.finite m q) := by
  simp [fourPlaces, List.leftpad, e_not_mem_ofNat, List.mem_replicate]

end Magnitude

namespace KeyValues

open Magnitude Numeral

variable {token value : Text}

theorem normalize_numeral {n : Numeral} (htoken : Numeral.ofText? token.trim = none)
    (hvalue : Numeral.ofText? value.trim = some n) (hfraction : n.magnitude.isInteger = false) :
    normalize token value = n.fourPlaces := by
  have hne : value ≠ token := by
    rintro rfl
    rw [htoken] at hvalue
    cases hvalue
  simp [normalize, normalizeNumber, hne, hvalue, hfraction]

theorem normalize_exponent (h : 'e' ∈ value) :
    normalize token value = if value = token then [] else value := by
  by_cases hvalue : value = token
  · have hne : token ≠ [] := List.ne_nil_of_mem (hvalue ▸ h)
    rw [normalize, if_pos (by simp [hvalue, hne]), if_pos hvalue]
  · rw [normalize_of_not_numeral (Numeral.ofText?_eq_none h (by decide)) hvalue, if_neg hvalue]

/-- A double that is no whole number, in a cell of a workbook: it is written rounded to four decimal
places if it is at least a ten-thousandth, and as the cell has it, with an exponent, if it is
smaller. Every numeral that is read as the double is written rounded to four decimal places. -/
theorem normalize_double {m : Nat} {q : Int} (hx : IsDouble m q)
    (hfraction : isInteger (.finite m q) = false) (negative : Bool)
    (htoken : Numeral.ofText? token.trim = none) :
    ∃ cell places, CellValue.toCell (.double (.signed negative (.finite m q))) = some cell
      ∧ IsFourPlaces (Magnitude.value m q) places
      ∧ (normalize token cell = signText negative ++ places ↔ 1 / 10000 ≤ Magnitude.value m q)
      ∧ (Magnitude.value m q < 1 / 10000 →
        'e' ∈ cell ∧ normalize token cell = if cell = token then [] else cell)
      ∧ ∀ numeral n, Numeral.ofText? (Text.trim numeral) = some n → n.negative = negative →
        n.magnitude = .finite m q → normalize token numeral = signText negative ++ places := by
  have hcell : CellValue.toCell (.double (.signed negative (.finite m q)))
      = some (signText negative ++ text (.finite m q)) := by
    simp only [CellValue.toCell, CellValue.doubleCell, hfraction]
    rfl
  have hplaces : ∀ numeral n, Numeral.ofText? (Text.trim numeral) = some n →
      n.negative = negative → n.magnitude = .finite m q →
      normalize token numeral = signText negative ++ fourPlaces (.finite m q) := by
    intro numeral n hn hnegative hmagnitude
    rw [normalize_numeral htoken hn (by rw [hmagnitude, hfraction]), Numeral.fourPlaces,
      hnegative, hmagnitude]
    rfl
  have hsmall : Magnitude.value m q < 1 / 10000 →
      'e' ∈ signText negative ++ text (.finite m q) := fun h =>
    List.mem_append_right _ (text_exponent hx (pos_of_isInteger hfraction) h)
  refine ⟨_, _, hcell, isFourPlaces_fourPlaces m q, ⟨fun h => ?_, fun h => ?_⟩,
    fun h => ⟨hsmall h, normalize_exponent (hsmall h)⟩, hplaces⟩
  · -- A letter stands in the cell of a smaller double, but not in four decimal places.
    by_contra hlt
    have hmem := hsmall (lt_of_not_ge hlt)
    rw [normalize_exponent hmem] at h
    split at h
    · simp [Magnitude.fourPlaces] at h
    · rw [h, List.mem_append] at hmem
      refine hmem.elim (fun hsign => ?_) (e_not_mem_fourPlaces m q)
      cases negative <;> simp [signText] at hsign
  · obtain ⟨t, ht, hmagnitude⟩ := text_plain hx hfraction h negative
    rw [ht]
    exact hplaces _ _ (ofText?_plain negative t) rfl hmagnitude

/-- The double nearest to a hundred-thousandth keeps its exponent. -/
theorem normalize_hundredThousandth :
    nearest 1 100000 = .finite 5902958103587057 (-69)
    ∧ isInteger (.finite 5902958103587057 (-69)) = false
    ∧ Numeral.ofText? defaultEmptyToken.trim = none
    ∧ CellValue.toCell (.double (.signed false (.finite 5902958103587057 (-69))))
      = some "1e-05".toList
    ∧ ∃ cell places,
      CellValue.toCell (.double (.signed false (.finite 5902958103587057 (-69)))) = some cell
      ∧ IsFourPlaces (Magnitude.value 5902958103587057 (-69)) places
      ∧ (normalize defaultEmptyToken cell = signText false ++ places
        ↔ 1 / 10000 ≤ Magnitude.value 5902958103587057 (-69))
      ∧ (Magnitude.value 5902958103587057 (-69) < 1 / 10000 →
        'e' ∈ cell ∧ normalize defaultEmptyToken cell
          = if cell = defaultEmptyToken then [] else cell)
      ∧ ∀ numeral n, Numeral.ofText? (Text.trim numeral) = some n → n.negative = false →
        n.magnitude = .finite 5902958103587057 (-69) →
        normalize defaultEmptyToken numeral = signText false ++ places := by
  have hread : nearest 1 100000 = .finite 5902958103587057 (-69) := by decide +kernel
  have hfraction : isInteger (.finite 5902958103587057 (-69)) = false := by decide +kernel
  have htoken : Numeral.ofText? defaultEmptyToken.trim = none := by decide
  have hx := isDouble_of_nearest (by norm_num) hread
  exact ⟨hread, hfraction, htoken, by decide +kernel, normalize_double hx hfraction false htoken⟩

end KeyValues

end MarkedSheet
