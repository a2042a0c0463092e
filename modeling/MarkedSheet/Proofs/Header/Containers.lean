import MarkedSheet.Header.Kind
import MarkedSheet.Proofs.Text.Between
import MarkedSheet.Proofs.Text.Trimmed

/-!
# Titles of containers

A title with the marker of a family at its end opens a container of that family, unless it is
reserved: for localized texts, or for a column that is not read (`Kind.ofTitle_eq_opening_iff`). The
name of the container and the title determine each other, up to blanks (`Family.headers_read_back`).
-/

namespace MarkedSheet

open Text (trim trimStart trimEnd isBlank)

namespace Kind

variable {title : Text} {family : Family}

/-- The title has the marker of localized texts in it, or starts with a sign that has its column
ignored. -/
def IsReserved (title : Text) : Prop :=
  locMarker <:+: title ∨ ['_'] <+: title ∨ ['#'] <+: title

instance (title : Text) : Decidable (IsReserved title) :=
  inferInstanceAs (Decidable (_ ∨ _ ∨ _))

theorem isReserved_locValuesTitle : IsReserved locValuesTitle := by decide

theorem isReserved_nameNoteTitle : IsReserved nameNoteTitle := by decide

/-- A reserved title never opens a container, whatever it ends with. -/
theorem annotates_of_isReserved (h : IsReserved title) : (ofTitle title).annotates := by
  unfold ofTitle
  split
  · rfl
  split
  · rfl
  split
  · rfl
  next hloc =>
  split
  · rfl
  split
  · rfl
  next hsign =>
    simp only [Bool.or_eq_true, List.isPrefixOf_iff_prefix] at hsign
    rw [Text.occursIn_iff] at hloc
    exact absurd h (not_or.2 ⟨hloc, hsign⟩)

theorem ofTitle_of_bracket {kind : Kind} (h : ¬ IsReserved title)
    (hbracket : ofBracket? title = some kind) : ofTitle title = kind := by
  have hne : title ≠ [] := by
    rintro rfl
    simp [ofBracket?, brackets, Family.openMarker, Family.closeMarker, List.isSuffixOf] at hbracket
  have hvalues : title ≠ locValuesTitle := fun heq => h (heq ▸ isReserved_locValuesTitle)
  have hname : title ≠ nameNoteTitle := fun heq => h (heq ▸ isReserved_nameNoteTitle)
  simp only [IsReserved, not_or] at h
  obtain ⟨hloc, hunder, hhash⟩ := h
  simp [ofTitle, hne, hvalues, hname, hloc, hunder, hhash, hbracket, Text.occursIn_iff]

theorem ofTitle_ne_opening (h : ofBracket? title = none) : ofTitle title ≠ .opening family := by
  unfold ofTitle
  simp only [h]
  repeat' split
  all_goals simp

theorem ofBracket?_append (family : Family) (name : Text) :
    ofBracket? (name ++ family.openMarker) = some (.opening family) := by
  -- Of two markers one ends with a character that the other does not end with, or has none before.
  cases family <;>
    simp [ofBracket?, brackets, Family.openMarker, Family.closeMarker, List.isSuffixOf]

theorem ofBracket?_eq_opening_iff :
    ofBracket? title = some (.opening family) ↔ family.openMarker <:+ title := by
  constructor
  · intro h
    obtain ⟨⟨marker, kind⟩, hmem, hkind⟩ := List.exists_of_findSome?_eq_some h
    simp only [Option.ite_none_right_eq_some, Option.some.injEq] at hkind
    obtain ⟨hsuffix, rfl⟩ := hkind
    obtain rfl : marker = family.openMarker := by
      cases family <;> simpa [brackets] using hmem
    exact List.isSuffixOf_iff_suffix.1 hsuffix
  · rintro ⟨name, rfl⟩
    exact ofBracket?_append family name

/-- A title without outer blanks opens a container exactly if it ends with the marker and is not
reserved. -/
theorem ofTitle_eq_opening_iff :
    ofTitle title = .opening family ↔ ¬ IsReserved title ∧ family.openMarker <:+ title := by
  constructor
  · intro h
    have hfree : ¬ IsReserved title := fun hreserved => by
      have := annotates_of_isReserved hreserved
      rw [h] at this
      simp [annotates] at this
    refine ⟨hfree, ofBracket?_eq_opening_iff.1 ?_⟩
    rcases hbracket : ofBracket? title with _ | kind
    · exact absurd h (ofTitle_ne_opening hbracket)
    · rw [← ofTitle_of_bracket hfree hbracket, h]
  · rintro ⟨hfree, hsuffix⟩
    exact ofTitle_of_bracket hfree (ofBracket?_eq_opening_iff.2 hsuffix)

end Kind

namespace Family

variable (family : Family)

theorem openMarker_ne_nil : family.openMarker ≠ [] := by
  cases family <;> simp [openMarker]

theorem trim_openMarker : trim family.openMarker = family.openMarker := by
  cases family <;> decide

theorem trim_append_openMarker (name : Text) :
    trim (name ++ family.openMarker) = trimStart name ++ family.openMarker := by
  have := Text.trim_around family.trim_openMarker family.openMarker_ne_nil name []
  rwa [List.append_nil, Text.trimEnd_nil, List.append_nil] at this

theorem dropEnding_append (name ending : Text) : (name ++ ending).dropEnding ending = name := by
  rw [Text.dropEnding, if_pos (List.isSuffixOf_iff_suffix.2 (List.suffix_append name ending))]
  simp

/-- The title that a name gets as a container of the family. -/
def headerOf (name : Text) : Cell :=
  some (name ++ family.openMarker)

theorem trimmed_headerOf (name : Text) :
    (family.headerOf name).trimmed = trimStart name ++ family.openMarker :=
  family.trim_append_openMarker name

theorem containerName_headerOf (name : Text) :
    family.containerName (family.headerOf name) = trim name := by
  rw [containerName, trimmed_headerOf, dropEnding_append, Text.trim_trimStart]

theorem containerName_congr {header other : Cell} (h : header.trimmed = other.trimmed) :
    family.containerName header = family.containerName other := by
  rw [containerName, h, containerName]

theorem suffix_trimmed_iff {header : Cell} : family.openMarker <:+ header.trimmed
    ↔ ∃ blanks, isBlank blanks
      ∧ header.trimmed = family.containerName header ++ (blanks ++ family.openMarker) := by
  constructor
  · rintro ⟨name, hname⟩
    have htrimmed : (family.headerOf name).trimmed = name ++ family.openMarker := by
      change trim (name ++ family.openMarker) = _
      rw [hname]
      exact Text.trim_trim header.text
    -- The title is trimmed, so its name has no blanks in front.
    have hstart : trimStart name = name := by
      rw [trimmed_headerOf] at htrimmed
      exact List.append_cancel_right htrimmed
    have hcontainer : family.containerName header = trimEnd name := by
      rw [family.containerName_congr (hname.symm.trans htrimmed.symm), containerName_headerOf,
        trim, hstart]
    obtain ⟨blanks, hblanks, hsplit⟩ := Text.exists_trimEnd name
    refine ⟨blanks, hblanks, ?_⟩
    rw [hcontainer, ← List.append_assoc, ← hsplit, hname]
  · rintro ⟨blanks, -, hsplit⟩
    exact ⟨family.containerName header ++ blanks, by rw [List.append_assoc, ← hsplit]⟩

/-- The title of a name opens a container of the family exactly if it is not reserved, and the name
is read back from it, trimmed. Only a title that is a name, blanks and the marker opens a container
of the family, and blanks around a title change nothing. -/
theorem headers_read_back :
    (∀ name : Text,
      (Kind.ofHeader (family.headerOf name) = .opening family
        ↔ ¬ Kind.IsReserved (family.headerOf name).trimmed)
      ∧ ((Kind.ofHeader (family.headerOf name)).opens? = some family
        ↔ ¬ Kind.IsReserved (family.headerOf name).trimmed)
      ∧ family.containerName (family.headerOf name) = trim name)
    ∧ (∀ header : Cell, Kind.ofHeader header = .opening family
      ↔ ¬ Kind.IsReserved header.trimmed ∧ ∃ blanks, isBlank blanks
        ∧ header.trimmed = family.containerName header ++ (blanks ++ family.openMarker))
    ∧ ∀ (header : Cell) (before after : Text), isBlank before → isBlank after →
      Kind.ofHeader (some (before ++ (header.text ++ after))) = Kind.ofHeader header
        ∧ family.containerName (some (before ++ (header.text ++ after)))
          = family.containerName header := by
  refine ⟨fun name => ?_, fun header => ?_, fun header before after hbefore hafter => ?_⟩
  · have hkind : Kind.ofHeader (family.headerOf name) = .opening family
        ↔ ¬ Kind.IsReserved (family.headerOf name).trimmed :=
      Kind.ofTitle_eq_opening_iff.trans
        (and_iff_left ⟨trimStart name, (family.trimmed_headerOf name).symm⟩)
    exact ⟨hkind, Kind.opens?_eq_some_iff.trans hkind, family.containerName_headerOf name⟩
  · rw [Kind.ofHeader, Kind.ofTitle_eq_opening_iff, suffix_trimmed_iff]
  · have htrimmed : Cell.trimmed (some (before ++ (header.text ++ after))) = header.trimmed := by
      rw [Cell.trimmed, Cell.text, Option.getD_some, Text.trim_append_of_isBlank hbefore,
        Text.trim_append_right_of_isBlank hafter, Cell.trimmed]
    exact ⟨by rw [Kind.ofHeader, htrimmed, Kind.ofHeader], family.containerName_congr htrimmed⟩

/-- A name with blanks around it, which the title keeps in front of the marker. -/
theorem modsHeader_read_back :
    ¬ Kind.IsReserved (arrayDown.headerOf " Mods ".toList).trimmed
    ∧ (Kind.ofHeader (arrayDown.headerOf " Mods ".toList)).opens? = some arrayDown
    ∧ arrayDown.containerName (arrayDown.headerOf " Mods ".toList) = "Mods".toList
    ∧ isBlank ['\t'] ∧ isBlank [' ']
    ∧ Kind.ofHeader (some (['\t'] ++ ((arrayDown.headerOf " Mods ".toList).text ++ [' '])))
      = .opening arrayDown := by
  have hfree : ¬ Kind.IsReserved (arrayDown.headerOf " Mods ".toList).trimmed := by
    decide +kernel
  obtain ⟨hnames, -, hblanks⟩ := arrayDown.headers_read_back
  obtain ⟨hkind, hopens, hname⟩ := hnames " Mods ".toList
  have houter := hblanks (arrayDown.headerOf " Mods ".toList) ['\t'] [' '] (by decide) (by decide)
  exact ⟨hfree, hopens.2 hfree, hname, by decide, by decide, houter.1.trans (hkind.2 hfree)⟩

end Family

end MarkedSheet
