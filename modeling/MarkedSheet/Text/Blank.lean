import MarkedSheet.Text.Basic

/-!
# Blank characters

The white space of the Unicode standard together with the four information separators. Trimming
takes blanks off both ends, and leaves nothing exactly of a blank text (`trim_eq_nil_iff`);
`words` are the maximal runs without a blank.
-/

namespace MarkedSheet

/-- A character of white space, or one of the separators U+001C to U+001F. -/
def isBlankChar (c : Char) : Bool :=
  let n := c.toNat
  (9 ≤ n && n ≤ 13) || (28 ≤ n && n ≤ 32) || n = 0x85 || n = 0xA0 || n = 0x1680
    || (0x2000 ≤ n && n ≤ 0x200A) || n = 0x2028 || n = 0x2029 || n = 0x202F || n = 0x205F
    || n = 0x3000

namespace Text

/-- The text without the blanks it starts with. -/
def trimStart (t : Text) : Text :=
  t.dropWhile isBlankChar

/-- The text without the blanks it ends with. -/
def trimEnd (t : Text) : Text :=
  (t.reverse.dropWhile isBlankChar).reverse

/-- The text without the blanks at either end. -/
def trim (t : Text) : Text :=
  trimEnd (trimStart t)

/-- There is nothing but blanks in the text. -/
def isBlank (t : Text) : Bool :=
  t.all isBlankChar

/-- The text has blanks around something that is not blank. -/
def hasOuterSpace (t : Text) : Bool :=
  t != trim t && trim t != []

/-- The maximal runs of characters that are not blank, in order. -/
def words : Text → List Text
  | [] => []
  | c :: rest =>
    if isBlankChar c then words rest
    else match rest with
      | [] => [[c]]
      | d :: _ =>
        if isBlankChar d then [c] :: words rest
        else match words rest with
          | [] => [[c]]
          | w :: ws => (c :: w) :: ws

@[simp] theorem trimStart_nil : trimStart [] = [] := rfl

@[simp] theorem trimEnd_nil : trimEnd [] = [] := rfl

@[simp] theorem trim_nil : trim [] = [] := rfl

theorem trimStart_eq_nil_iff {t : Text} : trimStart t = [] ↔ isBlank t := by
  induction t with
  | nil => simp [isBlank]
  | cons c rest ih =>
    by_cases h : isBlankChar c <;> simp_all [trimStart, isBlank]

theorem trimEnd_eq_nil_iff {t : Text} : trimEnd t = [] ↔ isBlank t := by
  have h := trimStart_eq_nil_iff (t := t.reverse)
  rw [trimStart, isBlank, List.all_reverse] at h
  rw [trimEnd, List.reverse_eq_nil_iff, h, isBlank]

theorem isBlank_trimStart (t : Text) : isBlank (trimStart t) = isBlank t := by
  induction t with
  | nil => rfl
  | cons c rest ih =>
    by_cases h : isBlankChar c <;> simp_all [trimStart, isBlank]

theorem trim_eq_nil_iff {t : Text} : trim t = [] ↔ isBlank t := by
  rw [trim, trimEnd_eq_nil_iff, isBlank_trimStart]

end Text

end MarkedSheet
