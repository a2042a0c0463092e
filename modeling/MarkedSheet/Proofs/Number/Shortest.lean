import MarkedSheet.Number.Shortest
import MarkedSheet.Proofs.Number.Nearest

/-!
# Seventeen digits suffice

On a decimal grid of seventeen digits two neighbours are closer than two doubles, so one of the two
around a double is read as that double (`isSome_shortest?`). What is found has as many digits as the
grid gives it, or is the power of ten above (`shortest?_spec`).
-/

namespace MarkedSheet

theorem zpow_lt_zpow_iff_ten {a b : Int} : (10 : ℚ) ^ a < 10 ^ b ↔ a < b :=
  zpow_lt_zpow_iff_right₀ (by norm_num)

namespace Magnitude

section Digits

theorem digitCount_pos (n : Nat) : 0 < digitCount n :=
  Nat.length_toDigits_pos

theorem digitCount_le_iff {n k : Nat} (h : 0 < k) : digitCount n ≤ k ↔ n < 10 ^ k :=
  Nat.length_toDigits_le_iff (by norm_num) h

theorem lt_pow_digitCount (n : Nat) : n < 10 ^ digitCount n :=
  (digitCount_le_iff (digitCount_pos n)).1 le_rfl

theorem pow_le_of_lt_digitCount {n k : Nat} (hn : 0 < n) (h : k < digitCount n) : 10 ^ k ≤ n := by
  rcases Nat.eq_zero_or_pos k with rfl | hk
  · rwa [Nat.pow_zero, Nat.one_le_iff_ne_zero, ← Nat.pos_iff_ne_zero]
  · exact Nat.le_of_not_lt fun hlt => (Nat.not_le_of_lt h) ((digitCount_le_iff hk).2 hlt)

variable {num den : Nat}

theorem floorLog10_spec (hnum : 0 < num) (hden : 0 < den) :
    (10 : ℚ) ^ floorLog10 num den ≤ (num : ℚ) / den
      ∧ (num : ℚ) / den < 10 ^ (floorLog10 num den + 1) := by
  have hpos : (0 : ℚ) < den := by exact_mod_cast hden
  unfold floorLog10
  split
  next h =>
    have hwhole : 0 < num / den := Nat.div_pos h hden
    obtain ⟨j, hj⟩ := Nat.exists_eq_add_of_lt (digitCount_pos (num / den))
    rw [Nat.zero_add] at hj
    have hlow : den * 10 ^ j ≤ num :=
      (Nat.mul_le_mul_left den (pow_le_of_lt_digitCount hwhole (by omega))).trans
        (Nat.mul_div_le num den)
    have hhigh : num < 10 ^ (j + 1) * den :=
      (Nat.div_lt_iff_lt_mul hden).1 (hj ▸ lt_pow_digitCount (num / den))
    rw [hj, Nat.cast_add, Nat.cast_one, add_sub_cancel_right, zpow_natCast, ← Nat.cast_succ,
      zpow_natCast, le_div_iff₀ hpos, div_lt_iff₀ hpos]
    exact ⟨by exact_mod_cast (Nat.mul_comm .. ▸ hlow), by exact_mod_cast hhigh⟩
  next h =>
    have hlt : num < den := Nat.lt_of_not_le h
    -- The reciprocal, rounded up to a whole number.
    obtain ⟨c, hc⟩ : ∃ c, (den + num - 1) / num = c + 1 :=
      Nat.exists_eq_add_one.2 (Nat.div_pos (by omega) hnum)
    have hround := Nat.div_add_mod (den + num - 1) num
    have hrest := Nat.mod_lt (den + num - 1) hnum
    rw [hc, Nat.mul_add] at hround
    have hcpos : 0 < c := by
      rcases Nat.eq_zero_or_pos c with rfl | hpos
      · omega
      · exact hpos
    obtain ⟨j, hj⟩ := Nat.exists_eq_add_of_lt (digitCount_pos c)
    rw [Nat.zero_add] at hj
    have hlow : den ≤ num * 10 ^ (j + 1) := by
      have := Nat.mul_le_mul_left num (hj ▸ lt_pow_digitCount c : c < 10 ^ (j + 1))
      rw [Nat.mul_succ] at this
      omega
    have hhigh : num * 10 ^ j < den := by
      have := Nat.mul_le_mul_left num (pow_le_of_lt_digitCount hcpos (by omega : j < digitCount c))
      omega
    rw [hc, Nat.add_sub_cancel, hj]
    constructor
    · rw [zpow_neg, zpow_natCast, le_div_iff₀ hpos, inv_mul_le_iff₀ (by positivity), mul_comm]
      exact_mod_cast hlow
    · have hexponent : -((j + 1 : Nat) : Int) + 1 = -(j : Int) := by omega
      rw [hexponent, zpow_neg, zpow_natCast, div_lt_iff₀ hpos, ← div_eq_inv_mul,
        lt_div_iff₀ (by positivity)]
      exact_mod_cast hhigh

end Digits

section Grid

/-- The point of a decimal grid that is at most a quotient. -/
def gridBelow (num den : Nat) (k : Int) : Nat :=
  num * Nat.pow 10 (-k).toNat / (den * Nat.pow 10 k.toNat)

theorem grid_eq (d : Nat) (k : Int) :
    ((d * Nat.pow 10 k.toNat : Nat) : ℚ) / (Nat.pow 10 (-k).toNat : Nat) = d * 10 ^ k := by
  have hpow : (10 : ℚ) ^ k = _ := zpow_eq_div 10 (by norm_num) k
  rw [hpow, Nat.cast_mul, mul_div_assoc]

variable {num den : Nat} {k : Int}

theorem gridBelow_spec (num : Nat) (hden : 0 < den) (k : Int) :
    (gridBelow num den k : ℚ) * 10 ^ k ≤ (num : ℚ) / den
      ∧ (num : ℚ) / den < (gridBelow num den k + 1) * 10 ^ k := by
  have hup : 0 < Nat.pow 10 k.toNat := Nat.pow_pos (by norm_num)
  have hscale : 0 < den * Nat.pow 10 k.toNat := Nat.mul_pos hden hup
  have hpow : (10 : ℚ) ^ k = _ := zpow_eq_div 10 (by norm_num) k
  have hdown : (0 : ℚ) < (Nat.pow 10 (-k).toNat : Nat) := by
    exact_mod_cast Nat.pow_pos (by norm_num)
  have hpos : (0 : ℚ) < den := by exact_mod_cast hden
  have hlow : gridBelow num den k * (den * Nat.pow 10 k.toNat)
      ≤ num * Nat.pow 10 (-k).toNat := Nat.div_mul_le_self _ _
  have hhigh : num * Nat.pow 10 (-k).toNat
      < (gridBelow num den k + 1) * (den * Nat.pow 10 k.toNat) :=
    (Nat.div_lt_iff_lt_mul hscale).1 (Nat.lt_succ_self _)
  rw [hpow, ← mul_div_assoc, ← mul_div_assoc, div_le_div_iff₀ hdown hpos,
    div_lt_div_iff₀ hpos hdown]
  constructor
  · have : ((gridBelow num den k * (den * Nat.pow 10 k.toNat) : Nat) : ℚ)
        ≤ (num * Nat.pow 10 (-k).toNat : Nat) := by exact_mod_cast hlow
    push_cast at this ⊢
    linarith
  · have : ((num * Nat.pow 10 (-k).toNat : Nat) : ℚ)
        < ((gridBelow num den k + 1) * (den * Nat.pow 10 k.toNat) : Nat) := by exact_mod_cast hhigh
    push_cast at this ⊢
    linarith

theorem ofGrid_eq {m : Nat} {q : Int} (hx : IsDouble m q) (hm : 0 < m) {d : Nat}
    (hnear : |(d : ℚ) * 10 ^ k - value m q| < 2 ^ q / 2)
    (hbelow : m = 2 ^ 52 → |(d : ℚ) * 10 ^ k - value m q| < 2 ^ q / 4) :
    ofGrid d k = .finite m q := by
  rw [← grid_eq] at hnear hbelow
  exact nearest_eq hx hm (Nat.pow_pos (by norm_num)) hnear hbelow

/-- What is found on a grid is one of the two points around the quotient, and it is read as the
double. -/
theorem onGrid?_spec {x : Magnitude} {d : Nat} (h : onGrid? x num den k = some d) :
    ofGrid d k = x ∧ (d = gridBelow num den k ∨ d = gridBelow num den k + 1) := by
  unfold onGrid? at h
  simp only at h
  have hround : ∀ a b, roundDiv a b = a / b ∨ roundDiv a b = a / b + 1 := fun a b => by
    unfold roundDiv
    simp only
    split_ifs <;> simp
  rw [← gridBelow] at h
  split at h
  next hboth =>
    simp only [Bool.and_eq_true, decide_eq_true_eq] at hboth
    obtain rfl := Option.some.inj h
    rcases hround (num * Nat.pow 10 (-k).toNat) (den * Nat.pow 10 k.toNat) with hlow | hhigh
    · rw [hlow]
      exact ⟨hboth.1, .inl rfl⟩
    · rw [hhigh]
      exact ⟨hboth.2, .inr rfl⟩
  · split at h
    next hlow =>
      obtain rfl := Option.some.inj h
      exact ⟨hlow, .inl rfl⟩
    · split at h
      next hhigh =>
        obtain rfl := Option.some.inj h
        exact ⟨hhigh, .inr rfl⟩
      · cases h

theorem isSome_onGrid? {x : Magnitude} (h : ofGrid (gridBelow num den k) k = x
    ∨ ofGrid (gridBelow num den k + 1) k = x) : (onGrid? x num den k).isSome := by
  unfold onGrid?
  simp only
  rw [← gridBelow]
  rcases h with h | h
  · by_cases hhigh : ofGrid (gridBelow num den k + 1) k = x <;> simp [h, hhigh]
  · by_cases hlow : ofGrid (gridBelow num den k) k = x <;> simp [h, hlow]

end Grid

section Shortest

variable {m : Nat} {q : Int}

theorem quotient_num_pos (hm : 0 < m) (q : Int) : 0 < (quotient m q).1 :=
  Nat.mul_pos hm (powerFactors_pos q).1

/-- The place of the first digit of a double. -/
def topPlace (m : Nat) (q : Int) : Int :=
  floorLog10 (quotient m q).1 (quotient m q).2

theorem topPlace_spec (hm : 0 < m) (q : Int) :
    (10 : ℚ) ^ topPlace m q ≤ value m q ∧ value m q < 10 ^ (topPlace m q + 1) := by
  rw [← quotient_eq]
  exact floorLog10_spec (quotient_num_pos hm q) (quotient_pos m q)

theorem topPlace_lt {k : Int} (hm : 0 < m) (h : value m q < 10 ^ k) : topPlace m q < k :=
  zpow_lt_zpow_iff_ten.1 ((topPlace_spec hm q).1.trans_lt h)

theorem le_topPlace {k : Int} (hm : 0 < m) (h : 10 ^ k ≤ value m q) : k ≤ topPlace m q :=
  Int.lt_add_one_iff.1 (zpow_lt_zpow_iff_ten.1 (h.trans_lt (topPlace_spec hm q).2))

/-- One of two neighbours on a grid is no farther away than half a step. -/
theorem near_or_near {d : Nat} {step v : ℚ} (hlow : d * step ≤ v) (hhigh : v < (d + 1) * step) :
    |d * step - v| ≤ step / 2 ∨ |((d + 1 : Nat) : ℚ) * step - v| ≤ step / 2 := by
  rcases le_total (v - d * step) (step / 2) with h | h
  · left
    rw [abs_sub_comm, abs_of_nonneg (by linarith)]
    exact h
  · right
    push_cast
    rw [abs_of_nonneg (by linarith)]
    linarith

theorem isSome_onGrid?_sixteen (hx : IsDouble m q) (hm : 0 < m) : (onGrid? (.finite m q)
    (quotient m q).1 (quotient m q).2 (topPlace m q - 16)).isSome := by
  obtain ⟨hlow, hhigh⟩ :=
    gridBelow_spec (quotient m q).1 (quotient_pos m q) (topPlace m q - 16)
  rw [quotient_eq] at hlow hhigh
  obtain ⟨step, hstep⟩ : ∃ step : ℚ, step = 10 ^ (topPlace m q - 16) := ⟨_, rfl⟩
  have hscale : step * 10 ^ 16 = 10 ^ topPlace m q := by
    rw [hstep, ← zpow_natCast (10 : ℚ) 16, ← zpow_add₀ (by norm_num)]
    congr 1
    omega
  have hu : (0 : ℚ) < 2 ^ q := by positivity
  have hcoarse : step * 10 ^ 16 ≤ m * 2 ^ q := hscale.trans_le (topPlace_spec hm q).1
  -- Half a step of the grid is less than half the way to the next double, or to the one below.
  have hhalf : step / 2 < 2 ^ q / 2 := by
    have hsmall : (m : ℚ) < 2 ^ 53 := by exact_mod_cast hx.small
    have : (m : ℚ) * 2 ^ q < 2 ^ 53 * 2 ^ q := mul_lt_mul_of_pos_right hsmall hu
    linarith
  have hquarter : m = 2 ^ 52 → step / 2 < 2 ^ q / 4 := fun hpower => by
    have hmq : (m : ℚ) = 2 ^ 52 := by exact_mod_cast hpower
    rw [hmq] at hcoarse
    linarith
  have hreads : ∀ d : Nat, |(d : ℚ) * step - value m q| ≤ step / 2 →
      ofGrid d (topPlace m q - 16) = .finite m q := fun d hd =>
    ofGrid_eq hx hm (hstep ▸ hd.trans_lt hhalf) fun hpower =>
      hstep ▸ hd.trans_lt (hquarter hpower)
  rw [← hstep] at hlow hhigh
  exact isSome_onGrid? ((near_or_near hlow hhigh).imp (hreads _) (hreads _))

theorem shortest?_eq (m : Nat) (q : Int) : shortest? m q
    = (List.range 17).findSome? fun (extra : Nat) =>
      (onGrid? (.finite m q) (quotient m q).1 (quotient m q).2 (topPlace m q - extra)).map
        fun d => (d, topPlace m q - extra) := rfl

/-- Every double that is not zero has a shortest decimal. -/
theorem isSome_shortest? (hx : IsDouble m q) (hm : 0 < m) : (shortest? m q).isSome := by
  rw [shortest?_eq]
  refine List.findSome?_isSome_iff.2 ⟨16, by simp, ?_⟩
  rw [Option.isSome_map]
  exact isSome_onGrid?_sixteen hx hm

/-- The shortest decimal is read as the double, and has its first digit in the first place of the
double, or is the power of ten above. -/
theorem shortest?_spec (hm : 0 < m) {d : Nat} {k : Int} (h : shortest? m q = some (d, k)) :
    ofGrid d k = .finite m q ∧ ∃ extra < 17, k = topPlace m q - (extra : Nat)
      ∧ 10 ^ extra ≤ d ∧ d ≤ 10 ^ (extra + 1) := by
  rw [shortest?_eq] at h
  obtain ⟨extra, hextra, hfound⟩ := List.exists_of_findSome?_eq_some h
  obtain ⟨found, hgrid, hpair⟩ := Option.map_eq_some_iff.1 hfound
  simp only [Prod.mk.injEq] at hpair
  obtain ⟨rfl, rfl⟩ := hpair
  obtain ⟨hreads, hneighbour⟩ := onGrid?_spec hgrid
  refine ⟨hreads, extra, List.mem_range.1 hextra, rfl, ?_⟩
  obtain ⟨hlow, hhigh⟩ := gridBelow_spec (quotient m q).1 (quotient_pos m q)
    (topPlace m q - extra)
  obtain ⟨htop, htop'⟩ := topPlace_spec hm q
  rw [quotient_eq] at hlow hhigh
  have hstep : (0 : ℚ) < 10 ^ (topPlace m q - extra) := by positivity
  have hscale : ∀ n : Nat, (10 : ℚ) ^ (topPlace m q - extra + n)
      = 10 ^ n * 10 ^ (topPlace m q - extra) := fun n => by
    rw [zpow_add₀ (by norm_num), zpow_natCast, mul_comm]
  have hfirst := hscale extra
  have hnext := hscale (extra + 1)
  rw [sub_add_cancel] at hfirst
  rw [Nat.cast_add, Nat.cast_one, ← add_assoc, sub_add_cancel] at hnext
  rw [hfirst] at htop
  rw [hnext] at htop'
  have hbelow : (10 : ℚ) ^ extra < _ := lt_of_mul_lt_mul_right (htop.trans_lt hhigh) hstep.le
  have habove : _ < (10 : ℚ) ^ (extra + 1) :=
    lt_of_mul_lt_mul_right (hlow.trans_lt htop') hstep.le
  norm_cast at hbelow habove
  rcases hneighbour with rfl | rfl <;> exact ⟨by omega, by omega⟩

end Shortest

end Magnitude

end MarkedSheet
