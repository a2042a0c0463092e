import MarkedSheet.Proofs.Conversion.Sheets
import MarkedSheet.Proofs.Localization.Harvested

/-!
# Flat lists give no localization entries

A sheet of two meaningful columns that is written as a flat list is not harvested, and the choice
makes no difference to what any other sheet gives (`autoSimple_entries`). So entries are lost in one
case only: the two columns are the primary column and a column of localized texts.
-/

namespace MarkedSheet

namespace Sheet

/-- Exactly two columns of the sheet are meaningful. -/
def IsFlat (s : Sheet) : Prop :=
  ∃ titles, s.titleRow = .ok titles ∧ (Schema.ofTitles titles).meaningful.length = 2

section Columns

variable {schema : Schema}

/-- Of two meaningful columns the primary column is one and a column of localized texts the
other. -/
theorem meaningful_of_loc (htwo : schema.meaningful.length = 2) {primary col : Nat} {kind : Kind}
    (hprimary : schema.primary? = some primary) (hloc : Localization.isLoc kind)
    (hkind : schema.kinds[col]? = some kind) :
    schema.meaningful = [primary, col] ∨ schema.meaningful = [col, primary] := by
  obtain ⟨own, hown, hholds⟩ := Schema.kind_primary hprimary
  have hannotates : kind.annotates = true ∧ kind ≠ .ignored := by
    cases kind <;> simp_all [Localization.isLoc, Kind.annotates]
  have hne : primary ≠ col := by
    rintro rfl
    rw [hown] at hkind
    cases hkind
    simp [hholds] at hannotates
  have hmem := Schema.primary_mem_meaningful hprimary
  have hmemCol := Schema.mem_meaningful hkind hannotates.2
  obtain ⟨a, b, hab⟩ := List.length_eq_two.1 htwo
  rw [hab] at hmem hmemCol ⊢
  simp only [List.mem_cons, List.not_mem_nil, or_false] at hmem hmemCol
  rcases hmem with rfl | rfl <;> rcases hmemCol with rfl | rfl <;> simp_all

end Columns

/-- With flat lists wanted, a sheet of two meaningful columns gives no localization entries, and
every other sheet gives those that it gives without. Where the entries differ, the two columns are
the primary column and one of localized texts. -/
theorem autoSimple_entries (lexicon : Pinyin.Lexicon) (o : Options) (s : Sheet) :
    (IsFlat s → (convert lexicon { o with autoSimple := true } s).entries = [])
    ∧ (¬ IsFlat s → (convert lexicon { o with autoSimple := true } s).entries
      = (convert lexicon { o with autoSimple := false } s).entries)
    ∧ ((convert lexicon { o with autoSimple := true } s).entries
        ≠ (convert lexicon { o with autoSimple := false } s).entries →
      ∃ titles primary col kind, s.titleRow = .ok titles
        ∧ (Schema.ofTitles titles).primary? = some primary
        ∧ Localization.isLoc kind ∧ (Schema.ofTitles titles).kinds[col]? = some kind
        ∧ ((Schema.ofTitles titles).meaningful = [primary, col]
          ∨ (Schema.ofTitles titles).meaningful = [col, primary])) := by
  have hon : convert lexicon { o with autoSimple := true } s
      = convert lexicon (styled o true o.transliterate) s := rfl
  have hoff : convert lexicon { o with autoSimple := false } s
      = convert lexicon (styled o false o.transliterate) s := rfl
  rw [hon, hoff]
  rcases convert_cases lexicon o s with h | ⟨name, titles, rows, notes, htitles, -, -, h⟩
  · rw [(h true _).1, (h false _).1]
    exact ⟨fun _ => rfl, fun _ => rfl, fun hne => absurd rfl hne⟩
  have hflat : IsFlat s ↔ (Schema.ofTitles titles).isSimple = true := by
    simp [IsFlat, htitles, Schema.isSimple]
  rw [(h true _).1, (h false _).1, outputOf_entries, outputOf_entries, hflat]
  have hpage : (page o s (.ofTitles titles) rows notes).schema = .ofTitles titles := rfl
  simp only [Bool.true_and, Bool.false_and, Bool.false_eq_true, if_false, hpage]
  by_cases hsimple : (Schema.ofTitles titles).isSimple = true
  · rw [if_pos hsimple]
    refine ⟨fun _ => rfl, fun hnot => absurd hsimple hnot, fun hne => ?_⟩
    obtain ⟨e, he⟩ := List.exists_mem_of_ne_nil _ (Ne.symm hne)
    obtain ⟨⟨primary, hprimary⟩, kind, col, hloc, hkind⟩ := Localization.exists_of_mem_entries he
    have htwo : (Schema.ofTitles titles).meaningful.length = 2 := by
      simpa [Schema.isSimple] using hsimple
    exact ⟨titles, primary, col, kind, htitles, hprimary, hloc, hkind,
      meaningful_of_loc htwo hprimary hloc hkind⟩
  · rw [if_neg hsimple]
    exact ⟨fun h => absurd h hsimple, fun _ => rfl, fun hne => absurd rfl hne⟩

/-- A sheet of keys and localized texts. -/
def talkSheet : Sheet where
  name := ['s']
  rows := [[], ["id", "#Loc\x7b\x7d_Lore"].map fun t => some t.toList,
    ["h", "text"].map fun t => some t.toList]
  source := []
  headerOffset := 0

/-- As a flat list the sheet gives up its entry. -/
theorem talkSheet_entries :
    (convert (.byPhrases ⟨[], []⟩) { bareOptions with autoSimple := true } talkSheet).entries = []
      ∧ (convert (.byPhrases ⟨[], []⟩) { bareOptions with autoSimple := false } talkSheet).entries
        = [⟨"h_Lore".toList, "text".toList⟩] := by
  decide +kernel

end Sheet

end MarkedSheet
