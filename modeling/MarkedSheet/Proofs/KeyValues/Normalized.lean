import MarkedSheet.Proofs.KeyValues.FourPlaces
import MarkedSheet.Proofs.Number.Spacing

/-!
# Values that are written as they stand

A whole number keeps its text as long as there is a double next to it, and is written as infinite
beyond that (`normalize_whole`). A number with four decimal places is read as a double that is
written with the same four places, because doubles stand closer than two such numbers, or so far
apart that the double it came from is the nearest (`tenThousandths_nearest`). So a value is written
as it stands when it has been written once (`normalize_normalize`).
-/

namespace MarkedSheet

namespace Numeral

section FourPlaces

theorem length_ofNat_le {n : Nat} (h : n < 10000) : (Text.ofNat n).length ≤ 4 :=
  (Magnitude.digitCount_le_iff (by norm_num)).2 h

theorem digitsValue_leftpad (n width : Nat) :
    digitsValue ((Text.ofNat n).leftpad width '0') = n := by
  rw [List.leftpad, digitsValue_append, digitsValue_zeros, digitsValue_ofNat, Nat.zero_mul,
    Nat.zero_add]

/-- So many ten-thousandths as a decimal. -/
def Plain.ofTenThousandths (n : Nat) : Plain where
  whole := Text.ofNat (n / 10000)
  fraction := (Text.ofNat (n % 10000)).leftpad 4 '0'
  ne_nil := List.ne_nil_of_length_pos (Magnitude.digitCount_pos _)
  isDigit := fun c hc => by
    simp only [List.leftpad, List.mem_append] at hc
    rcases hc with hc | hc | hc
    · exact isDigit_of_mem_ofNat hc
    · exact Magnitude.isDigit_zeros hc
    · exact isDigit_of_mem_ofNat hc

theorem magnitude_ofTenThousandths (negative : Bool) (n : Nat) :
    magnitude ⟨negative, (Plain.ofTenThousandths n).whole, (Plain.ofTenThousandths n).fraction⟩
      = .nearest n 10000 := by
  have hlength : (Plain.ofTenThousandths n).fraction.length = 4 := by
    have := length_ofNat_le (Nat.mod_lt n (by norm_num : 0 < 10000))
    simp only [Plain.ofTenThousandths, List.length_leftpad]
    omega
  have hvalue : digitsValue ((Plain.ofTenThousandths n).whole
      ++ (Plain.ofTenThousandths n).fraction) = n := by
    rw [digitsValue_append, hlength, Plain.ofTenThousandths, digitsValue_ofNat,
      digitsValue_leftpad]
    omega
  rw [magnitude, hvalue, hlength]

end FourPlaces

end Numeral

namespace Magnitude

section Again

variable {m : Nat} {q : Int}

theorem tenThousandths_eq {n : Nat} (h : |(n : ℚ) / 10000 - value m q| < 1 / 20000) :
    tenThousandths (.finite m q) = n := by
  obtain ⟨hlow, hhigh⟩ := abs_lt.1 h
  rw [tenThousandths_finite]
  refine roundDiv_eq (quotient_pos m q) ?_
  rw [← value_mul_tenThousand, abs_lt]
  constructor <;> linarith only [hlow, hhigh]

theorem abs_tenThousandths_sub_le (m : Nat) (q : Int) :
    |(tenThousandths (.finite m q) : ℚ) / 10000 - value m q| ≤ 1 / 20000 := by
  have hnear := (roundDiv_spec ((quotient m q).1 * 10000) (quotient_pos m q)).1
  rw [← tenThousandths_finite, ← value_mul_tenThousand, abs_le] at hnear
  rw [abs_le]
  constructor <;> linarith only [hnear.1, hnear.2]

/-- In wide steps the double stays the nearest after it has been rounded. -/
theorem nearest_tenThousandths_of_wide (hx : IsDouble m q)
    (hfraction : isInteger (.finite m q) = false) (hq : -13 ≤ q) :
    nearest (tenThousandths (.finite m q)) 10000 = .finite m q := by
  have hnear := abs_tenThousandths_sub_le m q
  have hstep : (2 : ℚ) ^ (-13 : Int) ≤ 2 ^ q := zpow_le_zpow_right₀ (by norm_num) hq
  norm_num at hstep
  refine nearest_eq hx (pos_of_isInteger hfraction) (by norm_num) ?_ fun hpower => ?_
  · push_cast
    linarith only [hnear, hstep]
  · -- A power of two in such steps is a whole number.
    obtain ⟨k, hk⟩ : ∃ k : Nat, q + (52 : Nat) = k := ⟨(q + 52).toNat, by omega⟩
    have hvalue : value m q = (2 ^ k : Nat) := by
      rw [value, hpower, Nat.cast_pow, Nat.cast_pow, Nat.cast_ofNat, ← two_zpow_add, hk,
        zpow_natCast]
    rw [isInteger_iff.2 ⟨_, hvalue⟩] at hfraction
    cases hfraction

theorem value_le_of_narrow (hx : IsDouble m q) {k : Int} (hq : q ≤ k) :
    value m q ≤ (2 ^ 53 - 1) * 2 ^ k := by
  have hm : (m : ℚ) ≤ 2 ^ 53 - 1 := by
    have : (m : ℚ) + 1 ≤ 2 ^ 53 := by exact_mod_cast hx.small
    linarith only [this]
  exact mul_le_mul hm (zpow_le_zpow_right₀ (by norm_num) hq) (by positivity) (by norm_num)

/-- In narrow steps the nearest double is so near that it is rounded back. -/
theorem exists_nearest_tenThousandths_of_narrow (hx : IsDouble m q) (hq : q ≤ -14) :
    ∃ m' q', nearest (tenThousandths (.finite m q)) 10000 = .finite m' q'
      ∧ tenThousandths (.finite m' q') = tenThousandths (.finite m q) := by
  have hnear := abs_tenThousandths_sub_le m q
  generalize tenThousandths (.finite m q) = n at hnear ⊢
  have hsmall : (n : ℚ) / (10000 : Nat) < 2 ^ (-14 + 53 : Int) := by
    have hvalue := value_le_of_narrow hx hq
    have hhigh := (abs_le.1 hnear).2
    norm_num at hvalue ⊢
    linarith only [hvalue, hhigh]
  obtain ⟨m', q', hread, hclose⟩ := exists_nearest (by norm_num) (by norm_num) (by norm_num) hsmall
  refine ⟨m', q', hread, tenThousandths_eq ?_⟩
  rw [abs_sub_comm]
  norm_num at hclose
  linarith only [hclose]

/-- A double that is no whole number, rounded to four decimal places, is read as a double that is
rounded to the same four places. -/
theorem tenThousandths_nearest (hx : IsDouble m q) (hfraction : isInteger (.finite m q) = false) :
    ∃ m' q', nearest (tenThousandths (.finite m q)) 10000 = .finite m' q'
      ∧ tenThousandths (.finite m' q') = tenThousandths (.finite m q) := by
  rcases le_or_gt (-13) q with hq | hq
  · exact ⟨m, q, nearest_tenThousandths_of_wide hx hfraction hq, rfl⟩
  · exact exists_nearest_tenThousandths_of_narrow hx (by omega)

end Again

end Magnitude

namespace Numeral

theorem magnitude_of_zeros {n : Numeral} (hzeros : ∀ c ∈ n.fraction, digitValue? c = some 0) :
    n.magnitude = .nearest (digitsValue n.whole) 1 := by
  have hpos : 0 < 10 ^ n.fraction.length := by positivity
  refine Magnitude.nearest_congr hpos one_pos ?_
  have hne : ((10 ^ n.fraction.length : Nat) : ℚ) ≠ 0 := by exact_mod_cast hpos.ne'
  rw [digitsValue_append, digitsValue_eq_zero hzeros, Nat.add_zero, Nat.cast_one, div_one,
    Nat.cast_mul]
  exact mul_div_cancel_right₀ _ hne

theorem fourPlaces_of_infinite {n : Numeral} (h : n.magnitude = .infinite) :
    n.fourPlaces = signText n.negative ++ "inf".toList := by
  rw [fourPlaces, h]
  rfl

/-- Four decimal places are a numeral again, which is written with the same four places. -/
theorem exists_ofText?_fourPlaces {n : Numeral} {m : Nat} {q : Int}
    (h : n.magnitude = .finite m q) (hfraction : Magnitude.isInteger (.finite m q) = false) :
    ∃ again : Numeral,
      ofText? n.fourPlaces.trim = some again ∧ again.fourPlaces = n.fourPlaces := by
  have htext : n.fourPlaces = signText n.negative
      ++ (Plain.ofTenThousandths (Magnitude.tenThousandths (.finite m q))).text := by
    rw [fourPlaces, h]
    rfl
  have hx : Magnitude.IsDouble m q :=
    Magnitude.isDouble_of_nearest (Nat.pow_pos (by norm_num)) h
  obtain ⟨m', q', hread, hsame⟩ := Magnitude.tenThousandths_nearest hx hfraction
  rw [htext]
  refine ⟨_, ofText?_plain _ _, ?_⟩
  rw [fourPlaces, magnitude_ofTenThousandths, hread, ← hsame]
  rfl

end Numeral

namespace KeyValues

open Magnitude Numeral

variable {token value : Text}

theorem i_not_mem_of_isWritten {n : Numeral} (h : n.IsWritten value.trim) : 'i' ∉ value := by
  intro hi
  have hnone := ofText?_eq_none hi (by decide)
  rw [ofText?_eq_some_iff.2 h] at hnone
  cases hnone

section Whole

/-- A whole number in writing keeps its text exactly if it is less than the numbers that are read as
infinite; from there on it is written as infinite. -/
theorem normalize_whole {n : Numeral} (hvalue : n.IsWritten value.trim)
    (hzeros : ∀ c ∈ n.fraction, digitValue? c = some 0) (hne : value ≠ token) :
    (normalize token value = value ↔ digitsValue n.whole < overflow)
      ∧ (overflow ≤ digitsValue n.whole →
        normalize token value = signText n.negative ++ "inf".toList) := by
  have hinteger := isInteger_nearest_iff (digitsValue n.whole)
  rw [← magnitude_of_zeros hzeros] at hinteger
  have hnormalize : normalize token value
      = if n.magnitude.isInteger then value else n.fourPlaces := by
    simp [normalize, normalizeNumber, hne, ofText?_eq_some_iff.2 hvalue]
  have hlarge : overflow ≤ digitsValue n.whole →
      normalize token value = signText n.negative ++ "inf".toList := by
    intro h
    have hinfinite : n.magnitude = .infinite := by
      rw [magnitude_of_zeros hzeros, nearest_eq_infinite_iff one_pos, Nat.cast_one, div_one]
      exact_mod_cast h
    rw [hnormalize, if_neg (mt hinteger.1 (Nat.not_lt_of_le h)), fourPlaces_of_infinite hinfinite]
  refine ⟨⟨fun h => ?_, fun h => ?_⟩, hlarge⟩
  · -- No numeral is written with letters.
    by_contra hge
    rw [hlarge (Nat.le_of_not_lt hge)] at h
    refine i_not_mem_of_isWritten hvalue ?_
    rw [← h]
    simp
  · rw [hnormalize, if_pos (hinteger.2 h)]

/-- Two and 308 zeros are written as infinite. -/
theorem normalize_huge :
    IsWritten ⟨false, '2' :: List.replicate 308 '0', []⟩
      (Text.trim ('2' :: List.replicate 308 '0'))
    ∧ '2' :: List.replicate 308 '0' ≠ defaultEmptyToken
    ∧ overflow ≤ digitsValue ('2' :: List.replicate 308 '0')
    ∧ normalize defaultEmptyToken ('2' :: List.replicate 308 '0') = "inf".toList := by
  have hvalue : IsWritten ⟨false, '2' :: List.replicate 308 '0', []⟩
      (Text.trim ('2' :: List.replicate 308 '0')) :=
    ofText?_eq_some_iff.1 (by decide +kernel)
  have hne : '2' :: List.replicate 308 '0' ≠ defaultEmptyToken := by decide +kernel
  have hlarge : overflow ≤ digitsValue ('2' :: List.replicate 308 '0') := by decide +kernel
  exact ⟨hvalue, hne, hlarge, (normalize_whole hvalue (fun _ h => nomatch h) hne).2 hlarge⟩

end Whole

section Twice

/-- What a numeral is written as passes as it stands, and is no token but an infinite number or a
numeral. -/
theorem normalize_fourPlaces {n : Numeral} (hinf : token ≠ "inf".toList)
    (hneg : token ≠ "-inf".toList) (htoken : ∀ n : Numeral, ¬ n.IsWritten token.trim)
    (hfraction : n.magnitude.isInteger = false) :
    normalize token n.fourPlaces = n.fourPlaces := by
  cases hmagnitude : n.magnitude with
  | infinite =>
    rw [fourPlaces_of_infinite hmagnitude]
    refine normalize_of_not_numeral (ofText?_eq_none (c := 'i') (by simp) (by decide)) ?_
    cases n.negative
    · exact hinf.symm
    · exact hneg.symm
  | finite m q =>
    rw [hmagnitude] at hfraction
    obtain ⟨again, hread, hsame⟩ := exists_ofText?_fourPlaces hmagnitude hfraction
    have hne : n.fourPlaces ≠ token := by
      intro h
      rw [h] at hread
      exact htoken again (ofText?_eq_some_iff.1 hread)
    simp [normalize, normalizeNumber, hne, hread, hsame]

theorem normalize_nil (token : Text) : normalize token [] = [] := by
  have hread : Numeral.ofText? [] = none := rfl
  simp [normalize, normalizeNumber, hread]

/-- A value that has been written once is written as it stands, unless an infinite number or a
numeral stands for the empty value. -/
theorem normalize_normalize (hinf : token ≠ "inf".toList) (hneg : token ≠ "-inf".toList)
    (htoken : ∀ n : Numeral, ¬ n.IsWritten token.trim) (value : Text) :
    normalize token (normalize token value) = normalize token value := by
  rcases normalize_cases token value with h | h | ⟨n, hfraction, h⟩
  · rw [h, normalize_nil]
  · rw [h, h]
  · rw [h, normalize_fourPlaces hinf hneg htoken hfraction]

/-- A number that is rounded up to a power of two. -/
theorem normalize_powerOfTwo :
    defaultEmptyToken ≠ "inf".toList ∧ defaultEmptyToken ≠ "-inf".toList
    ∧ (∀ n : Numeral, ¬ n.IsWritten defaultEmptyToken.trim)
    ∧ normalize defaultEmptyToken "274877906943.99997".toList = "274877906944.0000".toList
    ∧ normalize defaultEmptyToken (normalize defaultEmptyToken "274877906943.99997".toList)
      = normalize defaultEmptyToken "274877906943.99997".toList := by
  have hinf : defaultEmptyToken ≠ "inf".toList := by decide
  have hneg : defaultEmptyToken ≠ "-inf".toList := by decide
  have htoken : ∀ n : Numeral, ¬ n.IsWritten defaultEmptyToken.trim := fun n h => by
    have hread : Numeral.ofText? defaultEmptyToken.trim = none := by decide
    rw [ofText?_eq_some_iff.2 h] at hread
    cases hread
  exact ⟨hinf, hneg, htoken, by decide +kernel, normalize_normalize hinf hneg htoken _⟩

end Twice

end KeyValues

end MarkedSheet
