import MarkedSheet.Text.Digit

/-!
# Rounding a quotient

`roundDiv` rounds a quotient of naturals to the nearest integer, and a half to the even neighbour.
It never moves by more than a half (`two_mul_roundDiv_le`, `two_mul_lt_roundDiv`).
-/

namespace MarkedSheet

/-- The integer nearest to `num / den`; of two equally near ones the even. -/
def roundDiv (num den : Nat) : Nat :=
  let whole := num / den
  let rest := num % den
  if 2 * rest < den then whole
  else if den < 2 * rest then whole + 1
  else if whole % 2 = 0 then whole
  else whole + 1

theorem two_mul_roundDiv_le {num den : Nat} (h : 0 < den) :
    2 * (den * roundDiv num den) ≤ 2 * num + den := by
  have hd := Nat.div_add_mod num den
  have hm := Nat.mod_lt num h
  simp only [roundDiv]
  split
  · omega
  · split
    · rw [Nat.mul_add]; omega
    · split
      · omega
      · rw [Nat.mul_add]; omega

theorem le_two_mul_roundDiv {num den : Nat} (h : 0 < den) :
    2 * num ≤ 2 * (den * roundDiv num den) + den := by
  have hd := Nat.div_add_mod num den
  have hm := Nat.mod_lt num h
  simp only [roundDiv]
  split
  · omega
  · split
    · rw [Nat.mul_add]; omega
    · split
      · omega
      · rw [Nat.mul_add]; omega

theorem roundDiv_of_mod_eq_zero {num den : Nat} (h : 0 < den) (hm : num % den = 0) :
    roundDiv num den = num / den := by
  simp [roundDiv, hm, h]

end MarkedSheet
