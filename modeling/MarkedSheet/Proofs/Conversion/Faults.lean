import MarkedSheet.Proofs.Conversion.Total

/-!
# Why a sheet is not converted

Where no phrase of the lexicon has more syllables than characters, a sheet that is not converted has
a template for keys that cannot be filled in with the key of one of its objects and the label of one
of their values (`exists_fault_of_convert`). Its rows, its columns and its letters are never at
fault.
-/

namespace MarkedSheet

namespace Localization

/-- The fault of a harvest was found. -/
theorem mem_of_fault {e : TemplateError} : ∀ {findings : List Finding},
    (Harvest.ofFindings findings).fault = some e → .fault e ∈ findings
  | .fault first :: rest, h => by
    obtain rfl : first = e := Option.some.inj h
    exact List.mem_cons_self
  | .entry first :: rest, h => by
    have h : (Harvest.ofFindings rest).fault = some e := h
    exact List.mem_cons_of_mem _ (mem_of_fault h)
  | .warning w :: rest, h => by
    have h : (Harvest.ofFindings rest).fault = some e := h
    exact List.mem_cons_of_mem _ (mem_of_fault h)

/-- A harvest in which a fault is found has a fault. -/
theorem isSome_fault_of_mem {e : TemplateError} : ∀ {findings : List Finding},
    .fault e ∈ findings → (Harvest.ofFindings findings).fault.isSome
  | .fault first :: rest, _ => rfl
  | .entry first :: rest, h => by
    have hrest := isSome_fault_of_mem (List.mem_of_ne_of_mem (by simp) h)
    exact hrest
  | .warning w :: rest, h => by
    have hrest := isSome_fault_of_mem (List.mem_of_ne_of_mem (by simp) h)
    exact hrest

theorem exists_format_of_rowFindings {page : Page} {template : Template} {col r : Nat} {kind : Kind}
    {row : Row} {key? : Option Text} {e : TemplateError}
    (h : .fault e ∈ rowFindings page template col kind r row key?) :
    ∃ key label, template.format key label = .error e := by
  unfold rowFindings at h
  simp only at h
  split at h
  · simp at h
  · split at h
    · simp at h
    next key =>
      split at h
      · simp at h
      · split at h
        · simp at h
        · simp at h
        next label _ =>
          cases hformat : template.format key label with
          | ok entryKey => simp [hformat] at h
          | error first =>
            simp only [hformat, List.mem_singleton, Finding.fault.injEq] at h
            exact ⟨key, label, h ▸ hformat⟩

/-- A fault of a harvest is one of filling in the template with some key and some label. -/
theorem exists_format_of_fault {page : Page} {template : Template} {e : TemplateError}
    (h : (harvest page template).fault = some e) :
    ∃ key label, template.format key label = .error e := by
  obtain ⟨column, -, hcolumn⟩ := List.mem_flatMap.1 (mem_of_fault h)
  simp only at hcolumn
  split at hcolumn
  · obtain ⟨row, -, hrow⟩ := List.mem_flatMap.1 hcolumn
    exact exists_format_of_rowFindings hrow
  · simp at hcolumn

end Localization

/-- Every text is transliterated where every run can be read. -/
theorem Pinyin.Transliterator.exists_convert_of_total {lexicon : Lexicon} (htotal : lexicon.IsTotal)
    (transliterator : Transliterator) (t : Text) :
    ∃ t', transliterator.convert lexicon t = .ok t' := by
  unfold convert
  split
  · exact ⟨[], rfl⟩
  · exact exists_romanizeFrom htotal _ [] rfl

namespace Logged

theorem result_bind_eq_error {α β : Type} {x : Logged α} {f : α → Logged β} {e : ConversionError}
    (h : (x >>= f).result = .error e) :
    x.result = .error e ∨ ∃ a, x.result = .ok a ∧ (f a).result = .error e := by
  obtain ⟨printed, entries, result⟩ := x
  cases result with
  | error cause => exact .inl (congrArg _ (Except.error.inj h))
  | ok a => exact .inr ⟨a, rfl, h⟩

end Logged

namespace Sheet

open Logged

variable {lexicon : Pinyin.Lexicon} {o : Options} {cause : ConversionError}

/-- The error is a fault of the template that the options have for keys. -/
def IsTemplateFault (o : Options) (cause : ConversionError) : Prop :=
  ∃ fault key label, cause = .template fault
    ∧ o.locTemplate.format key label = .error fault

theorem isTemplateFault_of_harvested {name : Text} {page : Page}
    (h : (harvested o name page).result = .error cause) : IsTemplateFault o cause := by
  unfold harvested at h
  rcases result_bind_eq_error h with h | ⟨-, -, h⟩
  · cases h
  rcases result_bind_eq_error h with h | ⟨-, -, h⟩
  · cases h
  split at h
  next fault hfault =>
    obtain ⟨key, label, hformat⟩ := Localization.exists_format_of_fault hfault
    exact ⟨fault, key, label, (Except.error.inj h).symm, hformat⟩
  next => cases h

/-- The fault of the harvest is that of a sheet that is no flat list. -/
theorem outputOf_of_fault {s : Sheet} {name : Text} {titles : Row} {page : Page}
    {fault : TemplateError} (hsimple : ¬ (o.autoSimple && page.schema.isSimple))
    (hfault : (Localization.harvest page o.locTemplate).fault = some fault) :
    (outputOf lexicon o s name titles page).result = .error (.template fault) := by
  have hharvested : (harvested o name page).result = .error (.template fault) := by
    rw [harvested]
    simp only [warn_eq, note, bind_ok]
    rw [hfault]
    rfl
  rw [outputOf_eq, warn_eq, bind_ok, result_bind, bodyOf, if_neg hsimple, objectBody, result_bind,
    hharvested]
  rfl

theorem isTemplateFault_of_bodyOf {name : Text} {page : Page}
    (h : (bodyOf o name page).result = .error cause) : IsTemplateFault o cause := by
  unfold bodyOf at h
  split at h
  next hsimple =>
    obtain ⟨keyCol, valueCol, hcols⟩ :=
      Schema.meaningful_of_isSimple (Bool.and_eq_true_iff.1 hsimple).2
    rw [flatBody, Page.flatLines, hcols] at h
    cases h
  next =>
    unfold objectBody at h
    rcases result_bind_eq_error h with h | ⟨found, -, h⟩
    · exact isTemplateFault_of_harvested h
    · obtain ⟨ws, nodes, hnodes⟩ := page.documentNodes_ok
      rw [Page.document_eq hnodes] at h
      cases h

section Total

variable (htotal : lexicon.IsTotal)

include htotal

theorem isTemplateFault_of_outputOf {s : Sheet} {name : Text} {titles : Row} {page : Page}
    (h : (outputOf lexicon o s name titles page).result = .error cause) :
    IsTemplateFault o cause := by
  rw [outputOf_eq] at h
  rcases result_bind_eq_error h with h | ⟨-, -, h⟩
  · cases h
  rcases result_bind_eq_error h with h | ⟨body, -, h⟩
  · exact isTemplateFault_of_bodyOf h
  obtain ⟨lines, hlines⟩ := exists_writtenLines
    ((transliterator o).exists_convert_of_total htotal) body.lines
  rw [result_bind, hlines] at h
  cases h

theorem isTemplateFault_of_convertNamed {s : Sheet} {name : Text}
    (h : (convertNamed lexicon o s name).result = .error cause) : IsTemplateFault o cause := by
  unfold convertNamed at h
  split at h
  · cases h
  · split at h
    · cases h
    next hheader =>
      obtain ⟨titles, notes, htitles, hnotes, hrows⟩ :=
        rows_of_hasHeaderRows (by simpa using hheader)
      rw [hrows, htitles, hnotes] at h
      simp only [lift_ok, bind_ok] at h
      split at h
      · cases h
      · rcases result_bind_eq_error h with h | ⟨output, -, h⟩
        · exact isTemplateFault_of_outputOf htotal h
        · cases h

/-- A sheet that is not converted has a template that cannot be filled in. -/
theorem exists_fault_of_convert {s : Sheet} (h : (convert lexicon o s).result = .error cause) :
    IsTemplateFault o cause := by
  unfold convert at h
  split at h
  · cases h
  · obtain ⟨name, hname⟩ := exists_writtenName
      ((transliterator o).exists_convert_of_total htotal) s.name
    rcases result_bind_eq_error h with h | ⟨other, -, h⟩
    · cases hname.symm.trans h
    · exact isTemplateFault_of_convertNamed htotal h

end Total

end Sheet

end MarkedSheet
