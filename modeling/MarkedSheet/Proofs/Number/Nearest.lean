import Mathlib.Algebra.Order.Field.Power
import Mathlib.Data.Rat.Cast.Order
import Mathlib.Tactic.FieldSimp
import Mathlib.Tactic.Linarith
import Mathlib.Tactic.Positivity
import Mathlib.Tactic.Ring
import MarkedSheet.Number.Double

/-!
# The nearest double

The double nearest to a quotient depends on the value of the quotient alone (`nearest_congr`), and a
quotient that lies closer to a double than half the way to the next one is read as that double
(`nearest_eq`). Below a power of two the doubles are twice as close.
-/

namespace MarkedSheet

section Rounding

variable {num den : Nat}

theorem roundDiv_mul_left (num den : Nat) {c : Nat} (h : 0 < c) :
    roundDiv (c * num) (c * den) = roundDiv num den := by
  have hbelow : 2 * (c * (num % den)) < c * den ↔ 2 * (num % den) < den := by
    rw [Nat.mul_left_comm, Nat.mul_lt_mul_left h]
  have habove : c * den < 2 * (c * (num % den)) ↔ den < 2 * (num % den) := by
    rw [Nat.mul_left_comm, Nat.mul_lt_mul_left h]
  simp only [roundDiv, Nat.mul_div_mul_left _ _ h, Nat.mul_mod_mul_left, hbelow, habove]

theorem roundDiv_congr {num' den' : Nat} (hden : 0 < den) (hden' : 0 < den')
    (h : num * den' = num' * den) : roundDiv num den = roundDiv num' den' := by
  rw [← roundDiv_mul_left num den hden', ← roundDiv_mul_left num' den' hden, Nat.mul_comm den' num,
    h, Nat.mul_comm den num', Nat.mul_comm den' den]

theorem roundDiv_eq {n : Nat} (hden : 0 < den) (h : |(num : ℚ) / den - n| < 1 / 2) :
    roundDiv num den = n := by
  have hpos : (0 : ℚ) < den := by exact_mod_cast hden
  obtain ⟨hlow, hhigh⟩ := abs_lt.1 h
  rw [lt_sub_iff_add_lt, lt_div_iff₀ hpos] at hlow
  rw [sub_lt_iff_lt_add, div_lt_iff₀ hpos] at hhigh
  have hbelow : 2 * (den * n) < 2 * num + den := by
    have : (2 : ℚ) * (den * n) < 2 * num + den := by linarith
    exact_mod_cast this
  have habove : 2 * num < 2 * (den * n) + den := by
    have : (2 : ℚ) * num < 2 * (den * n) + den := by linarith
    exact_mod_cast this
  have hle : 2 * (den * roundDiv num den) ≤ 2 * num + den := two_mul_roundDiv_le hden
  have hge : 2 * num ≤ 2 * (den * roundDiv num den) + den := le_two_mul_roundDiv hden
  have hup : roundDiv num den < n + 1 := by
    refine lt_of_mul_lt_mul_left (a := den) ?_ (Nat.zero_le _)
    rw [Nat.mul_add]
    omega
  have hdown : n < roundDiv num den + 1 := by
    refine lt_of_mul_lt_mul_left (a := den) ?_ (Nat.zero_le _)
    rw [Nat.mul_add]
    omega
  omega

theorem div_le_roundDiv (num den : Nat) : num / den ≤ roundDiv num den := by
  simp only [roundDiv]
  split_ifs <;> omega

/-- A quotient is its whole part and a rest below one. -/
theorem div_eq_add_rest (num : Nat) (hden : 0 < den) : ∃ rest : ℚ,
    (num : ℚ) / den = (num / den : Nat) + rest ∧ 0 ≤ rest ∧ rest < 1
      ∧ (2 * (num % den) < den ↔ rest < 1 / 2) ∧ (den < 2 * (num % den) ↔ 1 / 2 < rest) := by
  have hpos : (0 : ℚ) < den := by exact_mod_cast hden
  refine ⟨(num % den : Nat) / den, ?_, by positivity, ?_, ?_, ?_⟩
  · have : (num : ℚ) = den * (num / den : Nat) + (num % den : Nat) := by
      exact_mod_cast (Nat.div_add_mod num den).symm
    rw [this]
    field_simp
  · rw [div_lt_one hpos]
    exact_mod_cast Nat.mod_lt num hden
  · rw [div_lt_div_iff₀ hpos (by norm_num), mul_comm, one_mul]
    exact_mod_cast Iff.rfl
  · rw [div_lt_div_iff₀ (by norm_num) hpos, mul_comm ((num % den : Nat) : ℚ), one_mul]
    exact_mod_cast Iff.rfl

/-- The rounded quotient is nearest to the quotient, and even if another is as near. -/
theorem roundDiv_spec (num : Nat) (hden : 0 < den) :
    |(roundDiv num den : ℚ) - num / den| ≤ 1 / 2
      ∧ (|(roundDiv num den : ℚ) - num / den| = 1 / 2 → roundDiv num den % 2 = 0) := by
  obtain ⟨rest, hsplit, hrest, hrest', hless, hmore⟩ := div_eq_add_rest num hden
  have hdown : |((num / den : Nat) : ℚ) - num / den| = rest := by
    rw [hsplit, sub_add_cancel_left, abs_neg, abs_of_nonneg hrest]
  have hup : |((num / den + 1 : Nat) : ℚ) - num / den| = 1 - rest := by
    rw [hsplit, Nat.cast_add, Nat.cast_one, add_sub_add_left_eq_sub,
      abs_of_pos (by linarith only [hrest'])]
  simp only [roundDiv]
  split_ifs with hbelow habove heven
  · rw [hdown]
    rw [hless] at hbelow
    exact ⟨hbelow.le, fun h => absurd h hbelow.ne⟩
  · rw [hup]
    rw [hmore] at habove
    exact ⟨by linarith only [habove], fun h => by linarith only [habove, h]⟩
  · rw [hdown]
    exact ⟨le_of_not_gt (habove ∘ hmore.2), fun _ => heven⟩
  · rw [hup]
    exact ⟨by linarith only [le_of_not_gt (hbelow ∘ hless.2)], fun _ => by omega⟩

end Rounding

theorem zpow_eq_div (b : Nat) (hb : b ≠ 0) (k : Int) :
    (b : ℚ) ^ k = (Nat.pow b k.toNat : Nat) / (Nat.pow b (-k).toNat : Nat) := by
  have hne : (b : ℚ) ≠ 0 := by exact_mod_cast hb
  obtain ⟨n, rfl | rfl⟩ := k.eq_nat_or_neg
  · simp
  · simp [div_eq_mul_inv]

theorem zpow_lt_zpow_iff_two {a b : Int} : (2 : ℚ) ^ a < 2 ^ b ↔ a < b :=
  zpow_lt_zpow_iff_right₀ (by norm_num)

namespace Magnitude

variable {num den : Nat}

theorem powerFactors_pos (k : Int) : 0 < (powerFactors k).1 ∧ 0 < (powerFactors k).2 :=
  ⟨Nat.pow_pos (by norm_num), Nat.pow_pos (by norm_num)⟩

theorem powerFactors_eq (k : Int) :
    ((powerFactors k).1 : ℚ) = 2 ^ k * (powerFactors k).2 := by
  have hdown : ((powerFactors k).2 : ℚ) ≠ 0 := by exact_mod_cast (powerFactors_pos k).2.ne'
  have hpow : (2 : ℚ) ^ k = (powerFactors k).1 / (powerFactors k).2 := zpow_eq_div 2 (by norm_num) k
  rw [hpow, div_mul_cancel₀ _ hdown]

/-- The value of a finite double. -/
def value (m : Nat) (q : Int) : ℚ :=
  m * 2 ^ q

theorem quotient_pos (m : Nat) (q : Int) : 0 < (quotient m q).2 :=
  (powerFactors_pos q).2

theorem quotient_eq (m : Nat) (q : Int) :
    ((quotient m q).1 : ℚ) / (quotient m q).2 = value m q := by
  have hdown : ((powerFactors q).2 : ℚ) ≠ 0 := by exact_mod_cast (powerFactors_pos q).2.ne'
  have hup := powerFactors_eq q
  simp only [quotient, Nat.cast_mul, hup, value]
  field_simp

section FloorLog2

theorem exponent_unique {y : ℚ} {a b : Int} (ha : 2 ^ a ≤ y) (ha' : y < 2 ^ (a + 1))
    (hb : 2 ^ b ≤ y) (hb' : y < 2 ^ (b + 1)) : a = b := by
  have hab := zpow_lt_zpow_iff_two.1 (ha.trans_lt hb')
  have hba := zpow_lt_zpow_iff_two.1 (hb.trans_lt ha')
  omega

theorem floorLog2_spec (hnum : num ≠ 0) (hden : den ≠ 0) :
    (2 : ℚ) ^ floorLog2 num den ≤ (num : ℚ) / den
      ∧ (num : ℚ) / den < 2 ^ (floorLog2 num den + 1) := by
  have hpos : (0 : ℚ) < den := by exact_mod_cast Nat.pos_of_ne_zero hden
  have hnumLow : (2 : ℚ) ^ (Nat.log2 num : Int) ≤ num := by
    exact_mod_cast Nat.log2_self_le hnum
  have hnumHigh : (num : ℚ) < 2 ^ ((Nat.log2 num : Int) + 1) := by
    exact_mod_cast Nat.lt_log2_self
  have hdenLow : (2 : ℚ) ^ (Nat.log2 den : Int) ≤ den := by
    exact_mod_cast Nat.log2_self_le hden
  have hdenHigh : (den : ℚ) < 2 ^ ((Nat.log2 den : Int) + 1) := by
    exact_mod_cast Nat.lt_log2_self
  -- The difference of the two logarithms is at most one too large.
  obtain ⟨e, he⟩ : ∃ e : Int, e = (Nat.log2 num : Int) - Nat.log2 den := ⟨_, rfl⟩
  have hlow : (2 : ℚ) ^ (e - 1) < num / den := by
    rw [lt_div_iff₀ hpos]
    calc (2 : ℚ) ^ (e - 1) * den < 2 ^ (e - 1) * 2 ^ ((Nat.log2 den : Int) + 1) :=
          mul_lt_mul_of_pos_left hdenHigh (by positivity)
      _ = 2 ^ (Nat.log2 num : Int) := by
          rw [← zpow_add₀ (by norm_num), he]
          congr 1
          omega
      _ ≤ num := hnumLow
  have hhigh : (num : ℚ) / den < 2 ^ (e + 1) := by
    rw [div_lt_iff₀ hpos]
    calc (num : ℚ) < 2 ^ ((Nat.log2 num : Int) + 1) := hnumHigh
      _ = 2 ^ (e + 1) * 2 ^ (Nat.log2 den : Int) := by
          rw [← zpow_add₀ (by norm_num), he]
          congr 1
          omega
      _ ≤ 2 ^ (e + 1) * den := mul_le_mul_of_nonneg_left hdenLow (by positivity)
  have htest : den * (powerFactors e).1 ≤ num * (powerFactors e).2
      ↔ (2 : ℚ) ^ e ≤ num / den := by
    have hdown : (0 : ℚ) < (powerFactors e).2 := by exact_mod_cast (powerFactors_pos e).2
    have hup := powerFactors_eq e
    rw [le_div_iff₀ hpos, ← Nat.cast_le (α := ℚ), Nat.cast_mul, Nat.cast_mul, hup, ← mul_assoc,
      mul_le_mul_iff_of_pos_right hdown, mul_comm]
  have hfloor : floorLog2 num den = if (2 : ℚ) ^ e ≤ num / den then e else e - 1 := by
    simp only [floorLog2, ← he, htest]
  rw [hfloor]
  split
  next h => exact ⟨h, hhigh⟩
  next h =>
    rw [sub_add_cancel]
    exact ⟨hlow.le, lt_of_not_ge h⟩

theorem floorLog2_eq (hnum : num ≠ 0) (hden : den ≠ 0) {e : Int} (hlow : 2 ^ e ≤ (num : ℚ) / den)
    (hhigh : (num : ℚ) / den < 2 ^ (e + 1)) : floorLog2 num den = e :=
  exponent_unique (floorLog2_spec hnum hden).1 (floorLog2_spec hnum hden).2 hlow hhigh

end FloorLog2

section Nearest

/-- The quotient, in steps of a power of two, rounded to a whole number. -/
def significand (num den : Nat) (q : Int) : Nat :=
  roundDiv (num * (powerFactors q).2) (den * (powerFactors q).1)

/-- The doubles around the quotient stand in steps of two to this exponent. -/
def stepExponent (num den : Nat) : Int :=
  max (floorLog2 num den - 52) (-1074)

theorem nearest_of_ne_zero (h : num ≠ 0) : nearest num den
    = (let q := stepExponent num den
      if 971 < q then .infinite
      else if significand num den q < Nat.pow 2 53 then .finite (significand num den q) q
      else if q = 971 then .infinite
      else .finite (Nat.pow 2 52) (q + 1)) := by
  rw [nearest, if_neg h]
  rfl

theorem nearest_congr {num' den' : Nat} (hden : 0 < den) (hden' : 0 < den')
    (h : (num : ℚ) / den = num' / den') : nearest num den = nearest num' den' := by
  have hne : (den : ℚ) ≠ 0 := by exact_mod_cast hden.ne'
  have hne' : (den' : ℚ) ≠ 0 := by exact_mod_cast hden'.ne'
  have hcross : num * den' = num' * den := by
    exact_mod_cast (div_eq_div_iff hne hne').1 h
  by_cases hnum : num = 0
  · have hnum' : num' = 0 := by
      rw [hnum, Nat.zero_mul] at hcross
      exact (Nat.mul_eq_zero.1 hcross.symm).resolve_right hden.ne'
    rw [nearest, nearest, if_pos hnum, if_pos hnum']
  · have hnum' : num' ≠ 0 := fun h' => by
      rw [h', Nat.zero_mul] at hcross
      exact hnum ((Nat.mul_eq_zero.1 hcross).resolve_right hden'.ne')
    have hspec := floorLog2_spec hnum' hden'.ne'
    rw [← h] at hspec
    have hsignificand : ∀ q, significand num den q = significand num' den' q := fun q => by
      refine roundDiv_congr (Nat.mul_pos hden (powerFactors_pos q).1)
        (Nat.mul_pos hden' (powerFactors_pos q).1) ?_
      calc num * (powerFactors q).2 * (den' * (powerFactors q).1)
          = num * den' * ((powerFactors q).2 * (powerFactors q).1) := by ring
        _ = num' * (powerFactors q).2 * (den * (powerFactors q).1) := by rw [hcross]; ring
    have hstep : stepExponent num den = stepExponent num' den' := by
      rw [stepExponent, floorLog2_eq hnum hden.ne' hspec.1 hspec.2, stepExponent]
    rw [nearest_of_ne_zero hnum, nearest_of_ne_zero hnum', hstep]
    simp only [hsignificand]

theorem scaled_quotient (num den : Nat) (q : Int) :
    ((num * (powerFactors q).2 : Nat) : ℚ) / (den * (powerFactors q).1 : Nat)
      = num / den / 2 ^ q := by
  have hpos : (2 : ℚ) ^ q ≠ 0 := by positivity
  have hdown : ((powerFactors q).2 : ℚ) ≠ 0 := by exact_mod_cast (powerFactors_pos q).2.ne'
  rw [Nat.cast_mul, Nat.cast_mul, powerFactors_eq q, mul_comm ((2 : ℚ) ^ q), ← mul_assoc,
    mul_comm (den : ℚ), mul_assoc, mul_comm (num : ℚ), mul_div_mul_left _ _ hdown, div_div]

theorem significand_eq (hden : 0 < den) {m : Nat} {q : Int}
    (h : |(num : ℚ) / den - value m q| < 2 ^ q / 2) : significand num den q = m := by
  have hpos : (0 : ℚ) < 2 ^ q := by positivity
  have hscaled : (num : ℚ) / den / 2 ^ q - m = (num / den - value m q) / 2 ^ q := by
    rw [sub_div, value, mul_div_cancel_right₀ _ hpos.ne']
  refine roundDiv_eq (Nat.mul_pos hden (powerFactors_pos q).1) ?_
  rw [scaled_quotient, hscaled, abs_div, abs_of_pos hpos, div_lt_iff₀ hpos]
  linarith only [h]

/-- A significand and an exponent of a double that is not infinite. -/
structure IsDouble (m : Nat) (q : Int) : Prop where
  small : m < 2 ^ 53
  least : -1074 ≤ q
  greatest : q ≤ 971
  normal : 2 ^ 52 ≤ m ∨ q = -1074

variable {m : Nat} {q : Int}

theorem two_zpow_add (q : Int) (n : Nat) : (2 : ℚ) ^ (q + n) = 2 ^ n * 2 ^ q := by
  rw [zpow_add₀ (by norm_num), zpow_natCast, mul_comm]

/-- The steps at the quotient are those of the double. -/
theorem nearest_of_step (hx : IsDouble m q) (hnum : num ≠ 0) (hden : 0 < den)
    (hq : stepExponent num den = q)
    (hnear : |(num : ℚ) / den - value m q| < 2 ^ q / 2) : nearest num den = .finite m q := by
  simp only [nearest_of_ne_zero hnum, hq, significand_eq hden hnear]
  rw [if_neg (by have := hx.greatest; omega), if_pos (by simpa using hx.small)]

/-- The quotient lies below a power of two, where the steps are half as wide, and is rounded up. -/
theorem nearest_of_carry (hx : IsDouble (2 ^ 52) q) (hnum : num ≠ 0) (hden : 0 < den)
    (hq : stepExponent num den = q - 1)
    (hnear : |(num : ℚ) / den - value (2 ^ 52) q| < 2 ^ q / 4) :
    nearest num den = .finite (2 ^ 52) q := by
  have hhalf : (2 : ℚ) ^ (q - 1) = 2 ^ q / 2 := by
    rw [zpow_sub_one₀ (by norm_num), div_eq_mul_inv]
  have hcarry : significand num den (q - 1) = 2 ^ 53 := by
    have hsame : value (2 ^ 53) (q - 1) = value (2 ^ 52) q := by
      rw [value, value, hhalf]
      push_cast
      ring
    refine significand_eq hden ?_
    rw [hsame, hhalf]
    linarith only [hnear]
  have hgreatest := hx.greatest
  simp only [nearest_of_ne_zero hnum, hq, hcarry]
  rw [if_neg (by omega), if_neg (by norm_num), if_neg (by omega), sub_add_cancel]
  rfl

/-- A quotient that is nearer to a double than half the way to the next is read as that double. -/
theorem nearest_eq (hx : IsDouble m q) (hm : 0 < m) (hden : 0 < den)
    (hnear : |(num : ℚ) / den - value m q| < 2 ^ q / 2)
    (hbelow : m = 2 ^ 52 → |(num : ℚ) / den - value m q| < 2 ^ q / 4) :
    nearest num den = .finite m q := by
  have hu : (0 : ℚ) < 2 ^ q := by positivity
  obtain ⟨hlow, hhigh⟩ := abs_lt.1 hnear
  rw [value] at hlow hhigh
  -- Bounds of the significand are bounds of the double in its own steps.
  have hscale : ∀ a b : ℚ, a ≤ b → a * 2 ^ q ≤ b * 2 ^ q := fun a b h =>
    mul_le_mul_of_nonneg_right h hu.le
  have hone := hscale 1 m (by exact_mod_cast hm)
  have hsmall := hscale (m + 1) (2 ^ 53) (by exact_mod_cast hx.small)
  have hnum : num ≠ 0 := by
    rintro rfl
    rw [Nat.cast_zero, zero_div] at hlow
    linarith only [hlow, hone, hu]
  have hspec := floorLog2_spec hnum hden.ne'
  have hpow53 : (num : ℚ) / den < 2 ^ (q + 53) := by
    have := two_zpow_add q 53
    push_cast at this
    linarith only [this, hhigh, hsmall, hu]
  have hfloor : floorLog2 num den < q + 53 :=
    zpow_lt_zpow_iff_two.1 (hspec.1.trans_lt hpow53)
  have hstep : stepExponent num den = max (floorLog2 num den - 52) (-1074) := rfl
  by_cases hq : stepExponent num den = q
  · exact nearest_of_step hx hnum hden hq hnear
  have hleast := hx.least
  have hnormal : 2 ^ 52 ≤ m := hx.normal.resolve_right fun h => hq (by omega)
  have hpow52 : (num : ℚ) / den < 2 ^ (q + 52) :=
    hspec.2.trans_le (zpow_le_zpow_right₀ (by norm_num) (by omega))
  rw [show q + 52 = q + (52 : Nat) from rfl, two_zpow_add] at hpow52
  -- The quotient lies below a power of two, so the double is that power.
  obtain rfl : m = 2 ^ 52 := by
    refine le_antisymm (Nat.le_of_not_lt fun hlt => ?_) hnormal
    have := hscale (2 ^ 52 + 1) m (by exact_mod_cast hlt)
    linarith only [this, hlow, hpow52, hu]
  refine nearest_of_carry hx hnum hden ?_ (hbelow rfl)
  have hpow51 : (2 : ℚ) ^ (q + 51) ≤ num / den := by
    have := two_zpow_add q 51
    push_cast at this hlow
    linarith only [this, hlow, hu]
  have hfloor' : q + 51 < floorLog2 num den + 1 :=
    zpow_lt_zpow_iff_two.1 (hpow51.trans_lt hspec.2)
  omega

/-- What is read as a finite number is a double. -/
theorem isDouble_of_nearest (hden : 0 < den) (h : nearest num den = .finite m q) :
    IsDouble m q := by
  by_cases hnum : num = 0
  · rw [nearest, if_pos hnum] at h
    obtain ⟨rfl, rfl⟩ := Magnitude.finite.inj h
    exact ⟨by norm_num, by norm_num, by norm_num, .inr rfl⟩
  rw [nearest_of_ne_zero hnum] at h
  have hmax : stepExponent num den = max (floorLog2 num den - 52) (-1074) := rfl
  generalize stepExponent num den = step at h hmax
  simp only at h
  split_ifs at h with hlarge hsmall hgreatest
  · obtain ⟨rfl, rfl⟩ := Magnitude.finite.inj h
    refine ⟨by simpa using hsmall, by omega, by omega, ?_⟩
    by_cases hleast : step = -1074
    · exact .inr hleast
    -- The quotient has 53 digits before the point, in its own steps.
    have hspec := (floorLog2_spec hnum hden.ne').1
    have hfloor : floorLog2 num den = step + (52 : Nat) := by omega
    have hpos : (0 : ℚ) < den := by exact_mod_cast hden
    have hdown : (0 : ℚ) < (powerFactors step).2 := by exact_mod_cast (powerFactors_pos step).2
    rw [hfloor, two_zpow_add, le_div_iff₀ hpos] at hspec
    have hdigits : 2 ^ 52 * (den * (powerFactors step).1) ≤ num * (powerFactors step).2 := by
      rw [← Nat.cast_le (α := ℚ)]
      push_cast
      rw [powerFactors_eq]
      linarith only [mul_le_mul_of_nonneg_right hspec hdown.le]
    have hscale := Nat.mul_pos hden (powerFactors_pos step).1
    exact .inl (((Nat.le_div_iff_mul_le hscale).2 hdigits).trans (div_le_roundDiv _ _))
  · obtain ⟨rfl, rfl⟩ := Magnitude.finite.inj h
    exact ⟨by norm_num, by omega, by omega, .inl le_rfl⟩

end Nearest

end Magnitude

end MarkedSheet
