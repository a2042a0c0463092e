import MarkedSheet.Proofs.Number.Written

/-!
# How near the nearest double is

The doubles around a quotient stand in steps of a power of two, and the nearest one is at most half
a step away (`abs_value_nearest_sub_le`). There is none from half a step beyond the greatest double
on (`nearest_eq_infinite_iff`). Up to there the nearest double of a whole number is a whole number
(`isInteger_nearest_iff`).
-/

namespace MarkedSheet

namespace Magnitude

variable {num den m : Nat} {q : Int}

section Steps

theorem abs_significand_sub_le (num : Nat) (hden : 0 < den) (q : Int) :
    |(significand num den q : ℚ) - num / den / 2 ^ q| ≤ 1 / 2 := by
  rw [← scaled_quotient]
  exact (roundDiv_spec _ (Nat.mul_pos hden (powerFactors_pos q).1)).1

theorem significand_le (hnum : num ≠ 0) (hden : 0 < den) :
    significand num den (stepExponent num den) ≤ 2 ^ 53 := by
  have hstep : (0 : ℚ) < 2 ^ stepExponent num den := by positivity
  have hquotient : (num : ℚ) / den / 2 ^ stepExponent num den < 2 ^ 53 := by
    rw [div_lt_iff₀ hstep, ← two_zpow_add]
    refine (floorLog2_spec hnum hden.ne').2.trans_le (zpow_le_zpow_right₀ (by norm_num) ?_)
    push_cast
    unfold stepExponent
    omega
  have hhigh := (abs_le.1 (abs_significand_sub_le num hden (stepExponent num den))).2
  have hlt : (significand num den (stepExponent num den) : ℚ) < 2 ^ 53 + 1 := by
    linarith only [hquotient, hhigh]
  have : significand num den (stepExponent num den) < 2 ^ 53 + 1 := by exact_mod_cast hlt
  omega

/-- The nearest double is the quotient rounded to a whole number of steps. -/
theorem value_nearest (hnum : num ≠ 0) (hden : 0 < den) (h : nearest num den = .finite m q) :
    stepExponent num den ≤ q
      ∧ value m q = significand num den (stepExponent num den) * 2 ^ stepExponent num den := by
  have hle := significand_le hnum hden
  rw [nearest_of_ne_zero hnum] at h
  generalize stepExponent num den = step at h hle ⊢
  simp only at h
  split_ifs at h with hlarge hsmall hgreatest
  · obtain ⟨rfl, rfl⟩ := Magnitude.finite.inj h
    exact ⟨le_rfl, rfl⟩
  · obtain ⟨rfl, rfl⟩ := Magnitude.finite.inj h
    have hcarry : significand num den step = 2 ^ 53 :=
      le_antisymm hle (Nat.le_of_not_lt hsmall)
    refine ⟨by omega, ?_⟩
    rw [hcarry, value, zpow_add_one₀ (by norm_num)]
    push_cast
    ring

theorem abs_value_nearest_sub_le (hnum : num ≠ 0) (hden : 0 < den)
    (h : nearest num den = .finite m q) :
    |value m q - num / den| ≤ 2 ^ stepExponent num den / 2 := by
  have hstep : (0 : ℚ) < 2 ^ stepExponent num den := by positivity
  have hnear := abs_significand_sub_le num hden (stepExponent num den)
  rw [(value_nearest hnum hden h).2]
  calc |(significand num den (stepExponent num den) : ℚ) * 2 ^ stepExponent num den - num / den|
      = |(significand num den (stepExponent num den) : ℚ) - num / den / 2 ^ stepExponent num den|
          * 2 ^ stepExponent num den := by
        rw [← abs_of_pos hstep, ← abs_mul, abs_of_pos hstep, sub_mul, div_mul_cancel₀ _ hstep.ne']
    _ ≤ 1 / 2 * 2 ^ stepExponent num den := mul_le_mul_of_nonneg_right hnear hstep.le
    _ = 2 ^ stepExponent num den / 2 := by ring

end Steps

section Overflow

/-- An even number is reached from half below it on. -/
theorem le_roundDiv_iff (num : Nat) (hden : 0 < den) {n : Nat} (hn : n % 2 = 0) :
    n ≤ roundDiv num den ↔ (n : ℚ) - 1 / 2 ≤ num / den := by
  obtain ⟨hnear, htie⟩ := roundDiv_spec num hden
  obtain ⟨hlow, hhigh⟩ := abs_le.1 hnear
  constructor
  · intro h
    have : (n : ℚ) ≤ roundDiv num den := by exact_mod_cast h
    linarith only [this, hhigh]
  · intro h
    by_contra hlt
    have hle : (roundDiv num den : ℚ) ≤ n - 1 := by
      have : roundDiv num den + 1 ≤ n := by omega
      have : (roundDiv num den : ℚ) + 1 ≤ n := by exact_mod_cast this
      linarith only [this]
    -- The odd number below is just as near, so it would not be taken.
    have heq : (roundDiv num den : ℚ) = n - 1 := by linarith only [hle, h, hlow]
    have heven := htie (by rw [abs_of_nonpos] <;> linarith only [hle, h, hlow])
    have : roundDiv num den + 1 = n := by
      have : (roundDiv num den : ℚ) + 1 = n := by linarith only [heq]
      exact_mod_cast this
    omega

/-- The least number that is read as infinite: half a step beyond the greatest double, which is
`(2 ^ 53 - 1) * 2 ^ 971`. -/
def overflow : Nat :=
  (2 ^ 54 - 1) * 2 ^ 970

example : overflow = 2 ^ 1024 - 2 ^ 970 := by decide +kernel

theorem overflow_eq : (overflow : ℚ) = (2 ^ 53 - 1 / 2) * 2 ^ (971 : Int) := by
  have hstep : (2 : ℚ) ^ (971 : Int) = 2 * 2 ^ 970 := by
    rw [← pow_succ']
    exact zpow_natCast 2 971
  have hcount : ((2 ^ 54 - 1 : Nat) : ℚ) = (2 ^ 53 - 1 / 2) * 2 := by norm_num
  rw [overflow, Nat.cast_mul, hcount, Nat.cast_pow, Nat.cast_ofNat, hstep, mul_assoc]

theorem overflow_bounds :
    (2 : ℚ) ^ (1023 : Int) ≤ overflow ∧ (overflow : ℚ) ≤ 2 ^ (1024 : Int) := by
  have hpos : (0 : ℚ) < 2 ^ (971 : Int) := by positivity
  have hlow := two_zpow_add 971 52
  have hhigh := two_zpow_add 971 53
  norm_num only [Nat.cast_ofNat] at hlow hhigh
  rw [overflow_eq, hlow, hhigh]
  exact ⟨mul_le_mul_of_nonneg_right (by norm_num) hpos.le,
    mul_le_mul_of_nonneg_right (by norm_num) hpos.le⟩

theorem nearest_eq_infinite_iff (hden : 0 < den) :
    nearest num den = .infinite ↔ (overflow : ℚ) ≤ num / den := by
  obtain ⟨habove, hbelow⟩ := overflow_bounds
  by_cases hnum : num = 0
  · have hpos : (0 : ℚ) < overflow := lt_of_lt_of_le (by positivity) habove
    simp only [nearest, hnum, if_pos, reduceCtorEq, Nat.cast_zero, zero_div, false_iff, not_le]
    exact hpos
  obtain ⟨hlow, hhigh⟩ := floorLog2_spec hnum hden.ne'
  rw [nearest_of_ne_zero hnum]
  rcases lt_trichotomy (floorLog2 num den) 1023 with hlt | heq | hgt
  · have hstep : stepExponent num den < 971 := by unfold stepExponent; omega
    have hfinite : (num : ℚ) / den < overflow :=
      hhigh.trans_le ((zpow_le_zpow_right₀ (by norm_num) (by omega)).trans habove)
    generalize stepExponent num den = step at hstep
    simp only [not_le.2 hfinite, iff_false]
    split_ifs <;> first | omega | simp
  · have hstep : stepExponent num den = 971 := by unfold stepExponent; omega
    have hpos : (0 : ℚ) < 2 ^ (971 : Int) := by positivity
    have hreach : 2 ^ 53 ≤ significand num den 971 ↔ (overflow : ℚ) ≤ num / den := by
      have hround := le_roundDiv_iff (num * (powerFactors 971).2)
        (Nat.mul_pos hden (powerFactors_pos 971).1) (n := 2 ^ 53) (by norm_num)
      rwa [scaled_quotient, le_div_iff₀ hpos, Nat.cast_pow, Nat.cast_ofNat, ← overflow_eq]
        at hround
    simp only [hstep, lt_irrefl, if_false, if_true, ← hreach]
    split_ifs with hsmall
    · exact iff_of_false (by simp) (Nat.not_le_of_lt hsmall)
    · exact iff_of_true rfl (Nat.le_of_not_lt hsmall)
  · have hstep : 971 < stepExponent num den := by unfold stepExponent; omega
    have hinfinite : (overflow : ℚ) ≤ num / den :=
      hbelow.trans ((zpow_le_zpow_right₀ (by norm_num) (by omega)).trans hlow)
    exact iff_of_true (if_pos hstep) hinfinite

/-- A quotient below so many steps is at most half a step from its double. -/
theorem exists_nearest (hden : 0 < den) {k : Int} (hlow : -1074 ≤ k) (hhigh : k < 971)
    (h : (num : ℚ) / den < 2 ^ (k + 53)) : ∃ m q, nearest num den = .finite m q
      ∧ |value m q - num / den| ≤ 2 ^ k / 2 := by
  by_cases hnum : num = 0
  · subst hnum
    refine ⟨0, -1074, rfl, ?_⟩
    simp only [value, Nat.cast_zero, zero_mul, zero_div, sub_zero, abs_zero]
    positivity
  cases hread : nearest num den with
  | infinite =>
    have hlarge := (nearest_eq_infinite_iff hden).1 hread
    have hexponent := zpow_lt_zpow_iff_two.1 ((overflow_bounds.1.trans hlarge).trans_lt h)
    omega
  | finite m q =>
    refine ⟨m, q, rfl, (abs_value_nearest_sub_le hnum hden hread).trans ?_⟩
    have hfloor := zpow_lt_zpow_iff_two.1 ((floorLog2_spec hnum hden.ne').1.trans_lt h)
    have hstep : stepExponent num den ≤ k := by unfold stepExponent; omega
    exact div_le_div_of_nonneg_right (zpow_le_zpow_right₀ (by norm_num) hstep) (by norm_num)

end Overflow

section Whole

theorem isInteger_iff : isInteger (.finite m q) ↔ ∃ n : Nat, value m q = n := by
  have hpos : ((quotient m q).2 : ℚ) ≠ 0 := by exact_mod_cast (quotient_pos m q).ne'
  rw [← quotient_eq]
  simp only [isInteger, decide_eq_true_eq]
  constructor
  · intro h
    obtain ⟨n, hn⟩ := Nat.dvd_of_mod_eq_zero h
    refine ⟨n, ?_⟩
    rw [hn, Nat.cast_mul, mul_div_cancel_left₀ _ hpos]
  · rintro ⟨n, hn⟩
    rw [div_eq_iff hpos] at hn
    have : (quotient m q).1 = n * (quotient m q).2 := by exact_mod_cast hn
    rw [this]
    exact Nat.mul_mod_left _ _

theorem isInteger_nearest {n : Nat} (h : nearest n 1 = .finite m q) :
    isInteger (.finite m q) := by
  by_contra hfraction
  rw [Bool.not_eq_true] at hfraction
  have hnum : n ≠ 0 := by
    rintro rfl
    obtain ⟨rfl, rfl⟩ := Magnitude.finite.inj h
    simp [isInteger, quotient] at hfraction
  obtain ⟨hle, hvalue⟩ := value_nearest hnum one_pos h
  have hneg := hle.trans_lt (exponent_neg hfraction)
  -- In steps below one a whole number needs no rounding.
  have hup : (powerFactors (stepExponent n 1)).1 = 1 := by
    simp [powerFactors, Int.toNat_of_nonpos hneg.le]
  have hexact : significand n 1 (stepExponent n 1) = n * (powerFactors (stepExponent n 1)).2 := by
    rw [significand, hup, Nat.mul_one, roundDiv_of_mod_eq_zero one_pos (Nat.mod_one _), Nat.div_one]
  have hinteger : value m q = n := by
    have hfactors := powerFactors_eq (stepExponent n 1)
    rw [hup, mul_comm] at hfactors
    rw [hvalue, hexact, Nat.cast_mul, mul_assoc, ← hfactors, Nat.cast_one, mul_one]
  rw [isInteger_iff.2 ⟨n, hinteger⟩] at hfraction
  cases hfraction

theorem isInteger_nearest_iff (n : Nat) : isInteger (nearest n 1) ↔ n < overflow := by
  have hlarge : nearest n 1 = .infinite ↔ overflow ≤ n := by
    rw [nearest_eq_infinite_iff one_pos, Nat.cast_one, div_one, Nat.cast_le]
  rw [← not_le, ← hlarge]
  cases hread : nearest n 1 with
  | infinite => simp [isInteger]
  | finite m q => simp [isInteger_nearest hread]

end Whole

end Magnitude

end MarkedSheet
