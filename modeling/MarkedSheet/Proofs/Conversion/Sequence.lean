import MarkedSheet.Proofs.Conversion.Sheets
import MarkedSheet.Proofs.Conversion.Steps
import MarkedSheet.Proofs.Pinyin.Added

/-!
# Sheets one after another

A conversion leaves its entries behind the entries found before, and readings in the lexicon.
Neither touches the next conversion: sheets converted one after another come to what each comes to
alone, whether they share the readings or every sheet adds them again, and the entries are those of
the lone conversions in order (`convertEach_independent`).
-/

namespace MarkedSheet

namespace Sheet

open Pinyin (Lexicon)

variable {a b : Lexicon} {o : Options}

/-- A sheet that is left out for its name does not look into the lexicon. -/
theorem convert_of_ignored {s : Sheet} (h : o.ignores s.name) : s.convert a o = s.convert b o := by
  rw [convert, if_pos h, convert, if_pos h]

/-- A lexicon that has the readings of the options converts as the sheet does on its own. -/
theorem convert_eq_convertAlone (h : a = b.addAll o.readings) (s : Sheet) :
    s.convert a o = s.convertAlone b o := by
  rw [convertAlone, lexiconAfter]
  split
  next hignored => exact convert_of_ignored hignored
  next => rw [h]

end Sheet

namespace Work

/-- Converts sheets one after another and goes on where one fails, with what each came to. -/
def convertEach (o : Options) (known : Bool) :
    List Sheet → Progress → List (Except Failure (Option Output)) × Progress
  | [], p => ([], p)
  | s :: rest, p =>
    let first := (convertSheet o known s).start p
    let others := convertEach o known rest first.2
    (first.1 :: others.1, others.2)

/-- The lexicon that a sheet is converted with. -/
def lexiconFor (o : Options) (known : Bool) (s : Sheet) (p : Progress) : Pinyin.Lexicon :=
  if known then p.lexicon else s.lexiconAfter p.lexicon o

theorem start_convertSheet (o : Options) (known : Bool) (s : Sheet) (p : Progress) :
    (convertSheet o known s).start p
      = (((s.convert (lexiconFor o known s p) o).result).mapError Failure.conversion,
        { p with
          lexicon := lexiconFor o known s p
          printed := p.printed ++ (s.convert (lexiconFor o known s p) o).printed
          entries := p.entries ++ (s.convert (lexiconFor o known s p) o).entries }) := by
  rw [convertSheet, start_bind, start_get]
  simp only [start_bind, start_set, lexiconFor]
  cases (s.convert (if known then p.lexicon else s.lexiconAfter p.lexicon o) o).result <;> rfl

/-- The lexicon has the readings of the options over those of `base`, or every sheet that needs them
adds them. -/
def Knows (o : Options) (base : Pinyin.Lexicon) (known : Bool) (p : Progress) : Prop :=
  (if known then p.lexicon else p.lexicon.addAll o.readings) = base.addAll o.readings

section Steps

variable {o : Options} {base : Pinyin.Lexicon} {known : Bool} {p : Progress}

/-- A sheet among others is converted as on its own. -/
theorem Knows.convert_eq (h : Knows o base known p) (s : Sheet) :
    s.convert (lexiconFor o known s p) o = s.convertAlone base o := by
  unfold Knows at h
  unfold lexiconFor
  split at h
  next hknown =>
    rw [if_pos hknown]
    exact Sheet.convert_eq_convertAlone h s
  next hknown =>
    rw [if_neg hknown, Sheet.lexiconAfter]
    split
    next hignored =>
      rw [Sheet.convertAlone]
      exact Sheet.convert_of_ignored hignored
    next => exact Sheet.convert_eq_convertAlone h s

theorem Knows.next (h : Knows o base known p) (s : Sheet) :
    Knows o base known ((convertSheet o known s).start p).2 := by
  rw [start_convertSheet]
  unfold Knows lexiconFor at *
  split
  next hknown =>
    rw [if_pos hknown] at h
    exact h
  next hknown =>
    rw [if_neg hknown] at h
    simp only [Sheet.lexiconAfter]
    split
    · exact h
    -- The readings are added once more to a lexicon that a sheet before has added them to.
    · exact (Pinyin.Lexicon.addAll_addAll _ _).trans h

theorem Knows.step (h : Knows o base known p) (s : Sheet) :
    ((convertSheet o known s).start p).1
        = (s.convertAlone base o).result.mapError Failure.conversion
      ∧ ((convertSheet o known s).start p).2.entries
        = p.entries ++ (s.convertAlone base o).entries := by
  rw [start_convertSheet, h.convert_eq]
  exact ⟨rfl, rfl⟩

theorem Knows.run : ∀ (sheets : List Sheet) {p : Progress}, Knows o base known p →
    (convertEach o known sheets p).1
        = sheets.map (fun s => (s.convertAlone base o).result.mapError Failure.conversion)
      ∧ (convertEach o known sheets p).2.entries
        = p.entries ++ sheets.flatMap fun s => (s.convertAlone base o).entries
  | [], p, _ => ⟨rfl, (List.append_nil _).symm⟩
  | s :: rest, p, h => by
    obtain ⟨hfirst, hentries⟩ := h.step s
    obtain ⟨hothers, hmore⟩ := Knows.run rest (h.next s)
    refine ⟨?_, ?_⟩
    · rw [convertEach, hfirst, hothers, List.map_cons]
    · rw [convertEach, hmore, hentries, List.flatMap_cons, List.append_assoc]

end Steps

/-- What a sheet comes to when it is converted on its own, with no entries found before. -/
def startAlone (o : Options) (p : Progress) (s : Sheet) :
    Except Failure (Option Output) × Progress :=
  (convertSheet o false s).start { p with entries := [] }

theorem startAlone_eq (o : Options) (p : Progress) (s : Sheet) :
    (startAlone o p s).1 = (s.convertAlone p.lexicon o).result.mapError Failure.conversion
      ∧ (startAlone o p s).2.entries = (s.convertAlone p.lexicon o).entries := by
  have hclear : Knows o p.lexicon false { p with entries := [] } := rfl
  obtain ⟨hresult, hentries⟩ := hclear.step s
  exact ⟨hresult, hentries.trans (List.nil_append _)⟩

/-- Sheets converted one after another, with the readings added once before or by every sheet again,
come to what each comes to alone in the state before, and the entries found are those of the lone
conversions one after another. -/
theorem convertEach_independent (o : Options) (sheets : List Sheet) (p : Progress) :
    let shared := convertEach o true sheets { p with lexicon := p.lexicon.addAll o.readings }
    let separate := convertEach o false sheets p
    shared.1 = sheets.map (fun s => (startAlone o p s).1)
      ∧ shared.2.entries = p.entries ++ sheets.flatMap (fun s => (startAlone o p s).2.entries)
      ∧ separate.1 = sheets.map (fun s => (startAlone o p s).1)
      ∧ separate.2.entries
        = p.entries ++ sheets.flatMap (fun s => (startAlone o p s).2.entries) := by
  intro shared separate
  have hshared : Knows o p.lexicon true { p with lexicon := p.lexicon.addAll o.readings } := rfl
  have hseparate : Knows o p.lexicon false p := rfl
  obtain ⟨hsharedResults, hsharedEntries⟩ := hshared.run sheets
  obtain ⟨hseparateResults, hseparateEntries⟩ := hseparate.run sheets
  simp only [startAlone_eq]
  exact ⟨hsharedResults, hsharedEntries, hseparateResults, hseparateEntries⟩

end Work

end MarkedSheet
