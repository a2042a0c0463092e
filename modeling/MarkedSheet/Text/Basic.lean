/-!
# Texts

A text is the list of its characters. This module has the operations that look for one text inside
another: occurrence, first and repeated replacement, and the decimal text of a number.
-/

namespace MarkedSheet

/-- A text is the list of its characters. -/
abbrev Text := List Char

namespace Text

/-- `part` occurs in the text as a run of neighbouring characters. -/
def occursIn (part : Text) : Text → Bool
  | [] => part.isEmpty
  | c :: rest => part.isPrefixOf (c :: rest) || occursIn part rest

/-- The text with its first occurrence of `old` exchanged for `new`. -/
def replaceFirst (old new : Text) : Text → Text
  | [] => if old.isEmpty then new else []
  | c :: rest =>
    if old.isPrefixOf (c :: rest) then new ++ (c :: rest).drop old.length
    else c :: replaceFirst old new rest

/-- The text after its first `skip` characters, with every occurrence of `old` exchanged for `new`
from left to right: an occurrence that overlaps an earlier one is not seen. -/
def replaceFrom (old new : Text) : Nat → Text → Text
  | _, [] => []
  | 0, c :: rest =>
    if old.isPrefixOf (c :: rest) then new ++ replaceFrom old new (old.length - 1) rest
    else c :: replaceFrom old new 0 rest
  | skip + 1, _ :: rest => replaceFrom old new skip rest

/-- The text with every occurrence of `old` exchanged for `new`. The empty text occurs before every
character and at the end. -/
def replaceAll (old new t : Text) : Text :=
  if old.isEmpty then new ++ t.flatMap (fun c => c :: new) else replaceFrom old new 0 t

/-- The text without `ending`, if it ends so. -/
def dropEnding (t ending : Text) : Text :=
  if ending.isSuffixOf t then t.take (t.length - ending.length) else t

/-- The decimal digits of a number, most significant first. -/
def ofNat (n : Nat) : Text :=
  Nat.toDigits 10 n

/-- The decimal digits of a number, after a minus if it is below zero. -/
def ofInt (i : Int) : Text :=
  if i < 0 then '-' :: ofNat i.natAbs else ofNat i.natAbs

/-- The order of texts by code point, character by character. -/
def le : Text → Text → Bool
  | [], _ => true
  | _ :: _, [] => false
  | a :: s, b :: t => if a = b then le s t else a.toNat < b.toNat

/-- Texts joined into one, each after the first preceded by `separator`. -/
def join (separator : Text) : List Text → Text
  | [] => []
  | [t] => t
  | t :: rest => t ++ separator ++ join separator rest

theorem replaceFrom_drop (old new : Text) (skip : Nat) (t : Text) :
    replaceFrom old new skip t = replaceFrom old new 0 (t.drop skip) := by
  induction t generalizing skip with
  | nil => cases skip <;> simp [replaceFrom]
  | cons c rest ih =>
    cases skip with
    | zero => rfl
    | succ n => rw [replaceFrom, ih n, List.drop_succ_cons]

@[simp] theorem join_nil (separator : Text) : join separator [] = [] := rfl

@[simp] theorem join_singleton (separator t : Text) : join separator [t] = t := rfl

end Text

end MarkedSheet
