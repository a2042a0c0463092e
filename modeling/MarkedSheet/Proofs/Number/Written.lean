import MarkedSheet.Proofs.Number.Reading
import MarkedSheet.Proofs.Number.Shortest

/-!
# Doubles in writing

The shortest text of a double that is no whole number is a plain decimal if the double is at least a
ten-thousandth, and that decimal is read as the double (`Magnitude.text_plain`). A smaller double is
written with an exponent (`Magnitude.text_exponent`).
-/

namespace MarkedSheet

namespace Magnitude

section Decimal

theorem stripZeros_append (t : Text) :
    ∃ n, t = stripZeros t ++ List.replicate n '0' := by
  induction t using List.reverseRecOn with
  | nil => exact ⟨0, rfl⟩
  | append_singleton t c ih =>
    by_cases hc : c = '0'
    · obtain ⟨n, hn⟩ := ih
      refine ⟨n + 1, ?_⟩
      have hstrip : stripZeros (t ++ [c]) = stripZeros t := by simp [stripZeros, hc]
      rw [hstrip, hc, List.replicate_succ', ← List.append_assoc, ← hn]
    · exact ⟨0, by simp [stripZeros, hc]⟩

variable {digits : Text} {point : Int}

theorem isDigit_zeros {n : Nat} {c : Char} (hc : c ∈ List.replicate n '0') : c.isDigit := by
  rw [(List.mem_replicate.1 hc).2]
  decide

theorem decimalText_front (hdigits : ∀ c ∈ digits, c.isDigit) (n : Nat) (hn : n ≤ 3) :
    ∃ t : Numeral.Plain, decimalText digits (-n) = t.text
      ∧ t.value = digitsValue digits * 10 ^ (-(n : Int) - digits.length) := by
  have hpoint : decimalText digits (-n) = ['0'] ++ '.' :: (List.replicate n '0' ++ digits) := by
    rw [decimalText, if_neg (by simp; omega), if_pos (by omega), neg_neg, Int.toNat_natCast]
    rfl
  refine ⟨⟨['0'], List.replicate n '0' ++ digits, by simp, fun c hc => ?_⟩, hpoint, ?_⟩
  · rcases List.mem_append.1 hc with hc | hc
    · exact isDigit_zeros (n := 1) hc
    · exact (List.mem_append.1 hc).elim isDigit_zeros (hdigits c)
  · have hvalue : digitsValue (['0'] ++ (List.replicate n '0' ++ digits)) = digitsValue digits := by
      rw [← List.append_assoc, digitsValue_append]
      have hzeros := digitsValue_zeros (n + 1)
      rw [List.replicate_succ] at hzeros
      rw [List.singleton_append, hzeros, Nat.zero_mul, Nat.zero_add]
    rw [Numeral.Plain.value, hvalue, List.length_append, List.length_replicate, div_eq_mul_inv,
      ← zpow_natCast, ← zpow_neg]
    congr 2
    push_cast
    ring

theorem decimalText_behind (hdigits : ∀ c ∈ digits, c.isDigit) {n : Nat} (hpos : 0 < n)
    (hn : n ≤ 16) : ∃ t : Numeral.Plain, decimalText digits n = t.text
      ∧ t.value = digitsValue digits * 10 ^ ((n : Int) - digits.length) := by
  have hpoint : decimalText digits n = (digits.take n).rightpad n '0'
      ++ '.' :: (if (digits.drop n).isEmpty then ['0'] else digits.drop n) := by
    rw [decimalText, if_neg (by simp; omega), if_neg (by omega), Int.toNat_natCast]
  rw [hpoint]
  by_cases hlength : digits.length ≤ n
  · -- The digits end before the point.
    obtain ⟨missing, hmissing⟩ := Nat.exists_eq_add_of_le hlength
    have hpad : digits.rightpad n '0' = digits ++ List.replicate missing '0' := by
      rw [List.rightpad, hmissing, Nat.add_sub_cancel_left]
    rw [List.take_of_length_le hlength, List.drop_eq_nil_of_le hlength, hpad]
    have hne : digits ++ List.replicate missing '0' ≠ [] :=
      List.ne_nil_of_length_pos (by rw [List.length_append, List.length_replicate]; omega)
    refine ⟨⟨digits ++ List.replicate missing '0', ['0'], hne, fun c hc => ?_⟩, rfl, ?_⟩
    · rw [List.append_assoc] at hc
      rcases List.mem_append.1 hc with hc | hc
      · exact hdigits c hc
      · exact (List.mem_append.1 hc).elim isDigit_zeros (isDigit_zeros (n := 1))
    · have hzero : digitsValue ['0'] = 0 := digitsValue_zeros 1
      change (digitsValue (digits ++ List.replicate missing '0' ++ ['0']) : ℚ) / 10 ^ 1 = _
      have hexponent : (n : Int) - digits.length = missing := by omega
      rw [digitsValue_append, digitsValue_append, digitsValue_zeros, hzero, List.length_singleton,
        List.length_replicate, hexponent, zpow_natCast]
      push_cast
      ring
  · obtain ⟨behind, hbehind⟩ := Nat.exists_eq_add_of_le (Nat.le_of_not_le hlength)
    have htake : (digits.take n).length = n := by
      rw [List.length_take, hbehind, Nat.min_eq_left (Nat.le_add_right _ _)]
    have hpad : (digits.take n).rightpad n '0' = digits.take n := by
      rw [List.rightpad, htake, Nat.sub_self, List.replicate_zero, List.append_nil]
    have hdrop : (digits.drop n).isEmpty = false := by
      rw [List.isEmpty_eq_false_iff]
      exact fun h => hlength (List.drop_eq_nil_iff.1 h)
    rw [hpad, hdrop]
    refine ⟨⟨digits.take n, digits.drop n, fun h => ?_, fun c hc => ?_⟩, rfl, ?_⟩
    · rw [h] at htake
      exact hpos.ne htake
    · exact hdigits c (by rwa [List.take_append_drop] at hc)
    · change (digitsValue (digits.take n ++ digits.drop n) : ℚ) / 10 ^ (digits.drop n).length = _
      rw [List.take_append_drop, List.length_drop, hbehind, Nat.add_sub_cancel_left,
        div_eq_mul_inv, ← zpow_natCast, ← zpow_neg]
      congr 2
      push_cast
      ring

/-- A decimal whose point stands close to its digits is written plainly. -/
theorem decimalText_plain (hdigits : ∀ c ∈ digits, c.isDigit) (hlow : -3 ≤ point)
    (hhigh : point ≤ 16) : ∃ t : Numeral.Plain, decimalText digits point = t.text
      ∧ t.value = digitsValue digits * 10 ^ (point - digits.length) := by
  rcases le_or_gt point 0 with h | h
  · obtain ⟨n, rfl⟩ : ∃ n : Nat, point = -n := ⟨(-point).toNat, by omega⟩
    exact decimalText_front hdigits n (by omega)
  · obtain ⟨n, rfl⟩ : ∃ n : Nat, point = n := ⟨point.toNat, by omega⟩
    exact decimalText_behind hdigits (by omega) (by omega)

theorem mem_decimalText (h : point < -3) : 'e' ∈ decimalText digits point := by
  rw [decimalText, if_pos (by simp [h])]
  simp

end Decimal

section Text

variable {m : Nat} {q : Int}

theorem pos_of_isInteger (h : isInteger (.finite m q) = false) : 0 < m := by
  rcases Nat.eq_zero_or_pos m with rfl | hm
  · simp [isInteger, quotient] at h
  · exact hm

theorem exponent_neg (h : isInteger (.finite m q) = false) : q < 0 := by
  by_contra hq
  have hdown : (-q).toNat = 0 := by omega
  simp [isInteger, quotient, powerFactors, hdown, Nat.mod_one] at h

theorem value_lt (hx : IsDouble m q) (hq : q < 0) : value m q < 10 ^ (16 : Int) := by
  have hsmall : (m : ℚ) < 2 ^ 53 := by exact_mod_cast hx.small
  have hpow : (2 : ℚ) ^ q ≤ 1 := zpow_le_one_of_nonpos₀ (by norm_num) hq.le
  calc value m q ≤ m * 1 := mul_le_mul_of_nonneg_left hpow (Nat.cast_nonneg m)
    _ < 2 ^ 53 := by rwa [mul_one]
    _ < 10 ^ (16 : Int) := by norm_num

theorem lt_digitCount {n k : Nat} (h : 10 ^ k ≤ n) : k < digitCount n := by
  rcases Nat.eq_zero_or_pos k with rfl | hk
  · exact digitCount_pos n
  · exact Nat.lt_of_not_le fun hle => Nat.not_lt_of_le h ((digitCount_le_iff hk).1 hle)

/-- The point of the shortest decimal stands behind the first place of the double, or one place
farther, if the decimal is the power of ten above. -/
theorem point_cases (hm : 0 < m) {d : Nat} {k : Int} (h : shortest? m q = some (d, k)) :
    digitCount d + k = topPlace m q + 1 ∨ digitCount d + k = topPlace m q + 2
      ∧ ∃ extra < 17, ofGrid (10 ^ (extra + 1)) (topPlace m q - (extra : Nat)) = .finite m q := by
  obtain ⟨hreads, extra, hextra, rfl, hlow, hhigh⟩ := shortest?_spec hm h
  have hcount := lt_digitCount hlow
  rcases hhigh.lt_or_eq with hlt | rfl
  · have := (digitCount_le_iff (Nat.succ_pos extra)).2 hlt
    left
    omega
  · have hnext : 10 ^ (extra + 1) < 10 ^ (extra + 2) :=
      Nat.pow_lt_pow_right (by norm_num) (by omega)
    have := (digitCount_le_iff (Nat.succ_pos (extra + 1))).2 hnext
    have := lt_digitCount (le_refl (10 ^ (extra + 1)))
    right
    exact ⟨by omega, extra, hextra, hreads⟩

/-- On every grid that is looked at, ten to the sixteenth is read as a whole number. -/
theorem ofGrid_sixteen : ∀ extra < 17, ofGrid (10 ^ (extra + 1)) (15 - (extra : Nat))
    = .finite 5000000000000000 1 := by
  decide +kernel

/-- On every grid that is looked at, a ten-thousandth is read as a double just above it. -/
theorem ofGrid_four : ∀ extra < 17, ofGrid (10 ^ (extra + 1)) (-5 - (extra : Nat))
    = .finite 7378697629483821 (-66) := by
  decide +kernel

theorem text_eq (hm : 0 < m) {d : Nat} {k : Int} (h : shortest? m q = some (d, k)) :
    text (.finite m q) = decimalText (stripZeros (Text.ofNat d)) (digitCount d + k) := by
  obtain ⟨n, rfl⟩ := Nat.exists_eq_add_one.2 hm
  simp only [text, h]
  rfl

theorem exists_plain {d : Nat} {k : Int} (hlow : -3 ≤ digitCount d + k)
    (hhigh : digitCount d + k ≤ 16) : ∃ t : Numeral.Plain,
      decimalText (stripZeros (Text.ofNat d)) (digitCount d + k) = t.text
        ∧ t.value = d * 10 ^ k := by
  obtain ⟨n, hn⟩ := stripZeros_append (Text.ofNat d)
  have hdigits : ∀ c ∈ stripZeros (Text.ofNat d), c.isDigit := fun c hc =>
    isDigit_of_mem_ofNat (by rw [hn]; exact List.mem_append_left _ hc)
  obtain ⟨t, ht, hvalue⟩ := decimalText_plain hdigits hlow hhigh
  refine ⟨t, ht, hvalue.trans ?_⟩
  have hcount : (digitCount d : Int) = (stripZeros (Text.ofNat d)).length + n := by
    have := congrArg List.length hn
    rw [List.length_append, List.length_replicate] at this
    exact_mod_cast this
  have hd : (d : ℚ) = digitsValue (stripZeros (Text.ofNat d)) * 10 ^ n := by
    have := congrArg digitsValue hn
    rw [digitsValue_ofNat, digitsValue_append, digitsValue_zeros, List.length_replicate,
      Nat.add_zero] at this
    exact_mod_cast this
  have hexponent : digitCount d + k - (stripZeros (Text.ofNat d)).length = n + k := by omega
  rw [hd, hexponent, zpow_add₀ (by norm_num), zpow_natCast, mul_assoc]

theorem magnitude_plain (negative : Bool) {t : Numeral.Plain} {d : Nat} {k : Int}
    (h : t.value = d * 10 ^ k) :
    Numeral.magnitude ⟨negative, t.whole, t.fraction⟩ = ofGrid d k := by
  refine nearest_congr (Nat.pow_pos (by norm_num)) (Nat.pow_pos (by norm_num)) ?_
  rw [grid_eq, ← h, Numeral.Plain.value]
  norm_num

/-- A double of at least a ten-thousandth that is no whole number is written as a plain decimal,
which is read as the double. -/
theorem text_plain (hx : IsDouble m q) (hfraction : isInteger (.finite m q) = false)
    (h : 1 / 10000 ≤ value m q) (negative : Bool) : ∃ t : Numeral.Plain,
      text (.finite m q) = t.text
        ∧ Numeral.magnitude ⟨negative, t.whole, t.fraction⟩ = .finite m q := by
  have hm := pos_of_isInteger hfraction
  have hq := exponent_neg hfraction
  obtain ⟨⟨d, k⟩, hshortest⟩ := Option.isSome_iff_exists.1 (isSome_shortest? hx hm)
  have htop : topPlace m q < 16 := topPlace_lt hm (value_lt hx hq)
  have htop' : -4 ≤ topPlace m q := le_topPlace hm (by norm_num at h ⊢; exact h)
  have hcases := point_cases hm hshortest
  have hhigh : digitCount d + k ≤ 16 := by
    rcases hcases with hpoint | ⟨hpoint, extra, hextra, hreads⟩
    · omega
    · -- The power of ten above would be a whole number.
      by_contra hgt
      have hfifteen : topPlace m q = 15 := by omega
      rw [hfifteen, ofGrid_sixteen extra hextra] at hreads
      simp only [Magnitude.finite.injEq] at hreads
      omega
  obtain ⟨t, ht, hvalue⟩ := exists_plain (by omega) hhigh
  refine ⟨t, (text_eq hm hshortest).trans ht, ?_⟩
  rw [magnitude_plain negative hvalue, (shortest?_spec hm hshortest).1]

/-- A double below a ten-thousandth is written with an exponent. -/
theorem text_exponent (hx : IsDouble m q) (hm : 0 < m) (h : value m q < 1 / 10000) :
    'e' ∈ text (.finite m q) := by
  obtain ⟨⟨d, k⟩, hshortest⟩ := Option.isSome_iff_exists.1 (isSome_shortest? hx hm)
  have htop : topPlace m q < -4 := topPlace_lt hm (by norm_num at h ⊢; exact h)
  rw [text_eq hm hshortest]
  refine mem_decimalText ?_
  rcases point_cases hm hshortest with hpoint | ⟨hpoint, extra, hextra, hreads⟩
  · omega
  · by_contra hge
    have hfive : topPlace m q = -5 := by omega
    rw [hfive, ofGrid_four extra hextra] at hreads
    simp only [Magnitude.finite.injEq] at hreads
    obtain ⟨rfl, rfl⟩ := hreads
    norm_num [value] at h

end Text

end Magnitude

end MarkedSheet
