import Mathlib.Data.List.Induction
import Mathlib.Data.Rat.Cast.Order
import Mathlib.Tactic.NormNum
import Mathlib.Tactic.Ring
import MarkedSheet.Number.Numeral
import MarkedSheet.Proofs.Text.Trimmed

/-!
# Digits and numerals are read back

The digits of a number are read as that number (`digitsValue_ofNat`). The texts that are read as a
numeral are those it has in writing (`Numeral.ofText?_eq_some_iff`), among them the plain decimal
with its digits, with or without a minus (`Numeral.ofText?_plain`).
-/

namespace MarkedSheet

section Digits

theorem isDigit_iff {c : Char} : c.isDigit ↔ 48 ≤ c.toNat ∧ c.toNat ≤ 57 := by
  rw [Char.isDigit, Bool.and_eq_true, decide_eq_true_eq, decide_eq_true_eq, ge_iff_le,
    UInt32.le_iff_toNat_le, UInt32.le_iff_toNat_le]
  rfl

theorem digitValue?_of_isDigit {c : Char} (h : c.isDigit) :
    digitValue? c = some (c.toNat - 48) := by
  obtain ⟨hlow, hhigh⟩ := isDigit_iff.1 h
  have hbelow : c.toNat < 48 + 10 := by omega
  simp [digitValue?, digitZeros, hlow, hbelow]

theorem isDigitChar_of_isDigit {c : Char} (h : c.isDigit) : isDigitChar c := by
  rw [isDigitChar, digitValue?_of_isDigit h]
  rfl

theorem isBlankChar_of_isDigit {c : Char} (h : c.isDigit) : isBlankChar c = false := by
  obtain ⟨hlow, hhigh⟩ := isDigit_iff.1 h
  simp only [isBlankChar, Bool.or_eq_false_iff, Bool.and_eq_false_iff, decide_eq_false_iff_not]
  omega

theorem isDigit_of_mem_ofNat {n : Nat} {c : Char} (h : c ∈ Text.ofNat n) : c.isDigit :=
  Nat.isDigit_of_mem_toDigits (by decide) (by decide) h

theorem digitsValue_append (a b : Text) :
    digitsValue (a ++ b) = digitsValue a * 10 ^ b.length + digitsValue b := by
  induction b using List.reverseRecOn with
  | nil => simp
  | append_singleton b c ih =>
    rw [← List.append_assoc, digitsValue_concat, digitsValue_concat, ih, List.length_append,
      List.length_singleton, Nat.pow_succ]
    ring

theorem digitsValue_eq_zero {t : Text} (h : ∀ c ∈ t, digitValue? c = some 0) :
    digitsValue t = 0 := by
  induction t using List.reverseRecOn with
  | nil => rfl
  | append_singleton t c ih =>
    rw [digitsValue_concat, ih fun d hd => h d (List.mem_append_left _ hd), h c (by simp)]
    rfl

theorem digitsValue_zeros (n : Nat) : digitsValue (List.replicate n '0') = 0 :=
  digitsValue_eq_zero fun c hc => by
    rw [List.eq_of_mem_replicate hc]
    decide

theorem digitsValue_ofNat (n : Nat) : digitsValue (Text.ofNat n) = n := by
  have hdigit : ∀ r < 10, (digitValue? (Nat.digitChar r)).getD 0 = r := by decide
  induction n using Nat.strong_induction_on with
  | _ n ih =>
    unfold Text.ofNat at ih ⊢
    rcases Nat.lt_or_ge n 10 with h | h
    · rw [Nat.toDigits_of_lt_base h, ← List.nil_append [_], digitsValue_concat, hdigit n h,
        digitsValue_nil, Nat.mul_zero, Nat.zero_add]
    · rw [Nat.toDigits_of_base_le (by norm_num) h, digitsValue_concat,
        ih (n / 10) (Nat.div_lt_self (by omega) (by norm_num)),
        hdigit _ (Nat.mod_lt _ (by norm_num)), Nat.div_add_mod]

end Digits

namespace Numeral

/-- The signs in writing; a number that is not negative may be without one. -/
inductive IsSign : Bool → Text → Prop
  | minus : IsSign true ['-']
  | plus : IsSign false ['+']
  | bare : IsSign false []

/-- The numeral in writing: a sign, the digits before the point, and the point with the digits after
it, which may be left out together if there are none. -/
structure IsWritten (n : Numeral) (t : Text) : Prop where
  whole_ne_nil : n.whole ≠ []
  digits : ∀ c ∈ n.whole ++ n.fraction, isDigitChar c
  text : ∃ sign tail, IsSign n.negative sign ∧ t = sign ++ (n.whole ++ tail)
    ∧ (tail = '.' :: n.fraction ∨ tail = [] ∧ n.fraction = [])

theorem takeSign_spec (t : Text) :
    ∃ sign, IsSign (Decimal.takeSign t).1 sign ∧ t = sign ++ (Decimal.takeSign t).2 := by
  unfold Decimal.takeSign
  split
  · exact ⟨_, .minus, rfl⟩
  · exact ⟨_, .plus, rfl⟩
  · exact ⟨_, .bare, rfl⟩

theorem takeSign_append {negative : Bool} {sign t : Text} (hsign : IsSign negative sign)
    (ht : ∃ c ∈ t.head?, isDigitChar c) :
    Decimal.takeSign (sign ++ t) = (negative, t) := by
  cases hsign with
  | minus => rfl
  | plus => rfl
  | bare =>
    obtain ⟨c, hc, hdigit⟩ := ht
    unfold Decimal.takeSign
    split
    next heq =>
      simp only [List.nil_append] at heq
      simp only [heq, List.head?_cons, Option.mem_some_iff] at hc
      exact absurd (hc ▸ hdigit) (by decide)
    next heq =>
      simp only [List.nil_append] at heq
      simp only [heq, List.head?_cons, Option.mem_some_iff] at hc
      exact absurd (hc ▸ hdigit) (by decide)
    · rfl

theorem isWritten_of_ofText? {t : Text} {n : Numeral} (h : ofText? t = some n) :
    n.IsWritten t := by
  obtain ⟨sign, hsign, ht⟩ := takeSign_spec t
  unfold ofText? at h
  generalize Decimal.takeSign t = signed at h hsign ht
  obtain ⟨negative, bare⟩ := signed
  have hsplit := List.takeWhile_append_dropWhile (p := isDigitChar) (l := bare)
  have hdigits := List.all_eq_true.1
    (List.all_takeWhile (p := isDigitChar) (l := bare))
  simp only at h
  split at h
  · cases h
  next hwhole =>
  rw [List.isEmpty_iff] at hwhole
  split at h
  next hrest =>
    cases h
    rw [hrest, List.append_nil] at hsplit
    exact ⟨hwhole, by simpa using hdigits, sign, [], hsign, by simpa [hsplit] using ht,
      .inr ⟨rfl, rfl⟩⟩
  next c rest hrest =>
    split at h
    next hpoint =>
      cases h
      rw [Bool.and_eq_true, decide_eq_true_eq, List.all_eq_true] at hpoint
      obtain ⟨rfl, hfraction⟩ := hpoint
      refine ⟨hwhole, fun d hd => ?_, sign, '.' :: rest, hsign, ?_, .inl rfl⟩
      · exact (List.mem_append.1 hd).elim (hdigits d) (hfraction d)
      · rw [← hrest, hsplit]
        exact ht
    next => cases h

/-- A text is read as a numeral exactly if it is that numeral in writing. -/
theorem ofText?_eq_some_iff {t : Text} {n : Numeral} : ofText? t = some n ↔ n.IsWritten t := by
  refine ⟨isWritten_of_ofText?, ?_⟩
  rintro ⟨hne, hdigits, sign, tail, hsign, rfl, htail⟩
  have hwhole : ∀ c ∈ n.whole, isDigitChar c := fun c hc => hdigits c (List.mem_append_left _ hc)
  have hfraction : n.fraction.all isDigitChar := List.all_eq_true.2 fun c hc =>
    hdigits c (List.mem_append_right _ hc)
  have hhead : ∃ c ∈ (n.whole ++ tail).head?, isDigitChar c := by
    obtain ⟨c, rest, hcons⟩ := List.exists_cons_of_ne_nil hne
    exact ⟨c, by simp [hcons], hwhole c (by simp [hcons])⟩
  have hpoint : isDigitChar '.' = false := by decide
  have htake : (n.whole ++ tail).takeWhile isDigitChar = n.whole := by
    rw [List.takeWhile_append_of_pos hwhole]
    rcases htail with rfl | ⟨rfl, -⟩ <;> simp [hpoint]
  have hdrop : (n.whole ++ tail).dropWhile isDigitChar = tail := by
    rw [List.dropWhile_append_of_pos hwhole]
    rcases htail with rfl | ⟨rfl, -⟩ <;> simp [hpoint]
  simp only [ofText?, takeSign_append hsign hhead, htake, hdrop, List.isEmpty_iff, if_neg hne]
  rcases htail with rfl | ⟨rfl, hnil⟩
  · simp [hfraction]
  · simp [← hnil]

/-- A sign in writing. -/
def signText (negative : Bool) : Text :=
  if negative then ['-'] else []

/-- Digits, a point and digits. -/
structure Plain where
  whole : Text
  fraction : Text
  ne_nil : whole ≠ []
  isDigit : ∀ c ∈ whole ++ fraction, c.isDigit

namespace Plain

/-- The decimal in writing. -/
def text (t : Plain) : Text :=
  t.whole ++ '.' :: t.fraction

/-- The number that the decimal stands for. -/
def value (t : Plain) : ℚ :=
  digitsValue (t.whole ++ t.fraction) / 10 ^ t.fraction.length

end Plain

theorem isSign_signText (negative : Bool) : IsSign negative (signText negative) := by
  cases negative
  · exact .bare
  · exact .minus

theorem isBlankChar_of_mem_plain {negative : Bool} {t : Plain} {c : Char}
    (hc : c ∈ signText negative ++ t.text) : isBlankChar c = false := by
  rcases List.mem_append.1 hc with hc | hc
  · cases negative with
    | true => rw [List.mem_singleton.1 hc]; decide
    | false => cases hc
  · rcases List.mem_append.1 hc with hc | hc
    · exact isBlankChar_of_isDigit (t.isDigit c (List.mem_append_left _ hc))
    · rcases List.mem_cons.1 hc with rfl | hc
      · decide
      · exact isBlankChar_of_isDigit (t.isDigit c (List.mem_append_right _ hc))

/-- A plain decimal is a numeral, and so it is after a minus. -/
theorem ofText?_plain (negative : Bool) (t : Plain) :
    ofText? (signText negative ++ t.text).trim = some ⟨negative, t.whole, t.fraction⟩ := by
  rw [Text.trim_of_not_blank fun c => isBlankChar_of_mem_plain]
  exact ofText?_eq_some_iff.2 ⟨t.ne_nil, fun c hc => isDigitChar_of_isDigit (t.isDigit c hc),
    signText negative, '.' :: t.fraction, isSign_signText negative, rfl, .inl rfl⟩

/-- The characters of numerals and of the blanks around them. -/
def isNumeralChar (c : Char) : Bool :=
  isDigitChar c || isBlankChar c || c = '+' || c = '-' || c = '.'

theorem IsSign.isNumeralChar {negative : Bool} {sign : Text} (h : IsSign negative sign) {c : Char}
    (hc : c ∈ sign) : isNumeralChar c := by
  cases h <;> simp_all [Numeral.isNumeralChar]

theorem IsWritten.isNumeralChar {n : Numeral} {t : Text} (h : n.IsWritten t) {c : Char}
    (hc : c ∈ t) : isNumeralChar c := by
  obtain ⟨-, hdigits, sign, tail, hsign, rfl, htail⟩ := h
  have hdigit : ∀ d ∈ n.whole ++ n.fraction, Numeral.isNumeralChar d := fun d hd => by
    simp [Numeral.isNumeralChar, hdigits d hd]
  simp only [List.mem_append] at hc
  rcases hc with hc | hc | hc
  · exact hsign.isNumeralChar hc
  · exact hdigit c (List.mem_append_left _ hc)
  · rcases htail with rfl | ⟨rfl, -⟩
    · rcases List.mem_cons.1 hc with rfl | hc
      · decide
      · exact hdigit c (List.mem_append_right _ hc)
    · cases hc

/-- A text with any other character in it is no numeral. -/
theorem ofText?_eq_none {t : Text} {c : Char} (hc : c ∈ t) (h : isNumeralChar c = false) :
    ofText? t.trim = none := by
  cases hread : ofText? t.trim with
  | none => rfl
  | some n =>
    have hblank : isBlankChar c = false := by
      simp only [isNumeralChar, Bool.or_eq_false_iff] at h
      exact h.1.1.1.2
    rw [(ofText?_eq_some_iff.1 hread).isNumeralChar (Text.mem_trim hc hblank)] at h
    cases h

end Numeral

end MarkedSheet
