import Mathlib.Tactic.SplitIfs
import MarkedSheet.Conversion.Discovery

/-!
# File names with an extension

A path whose text ends in an extension without a slash ends in a name with that extension
(`Path.exists_name_append`). From its last point on, such a name is what the extension is from its
last point on, so one look at the extension tells whether any of these names is that of a workbook
(`BookKind.ofName?_append`), and whether a sheet can be written over one (`ne_of_sparesBooks`).
-/

namespace MarkedSheet

theorem length_takeWhile_of_mem {t : Text} (h : '.' ∈ t) :
    (t.takeWhile (· != '.')).length < t.length := by
  refine Nat.lt_of_le_of_ne (List.takeWhile_prefix _).length_le fun heq => ?_
  have hall := List.all_takeWhile (l := t) (p := (· != '.'))
  rw [(List.takeWhile_prefix _).eq_of_length heq, List.all_eq_true] at hall
  simpa using hall _ h

/-- A name with an extension ends, from its last point on, as the extension does, unless nothing
stands before that point. -/
theorem suffixOf_append (stem : Text) {extension : Text} (h : '.' ∈ extension) :
    suffixOf (stem ++ extension) = []
      ∨ suffixOf (stem ++ extension) = suffixOf ('x' :: extension) := by
  have hlt := length_takeWhile_of_mem (List.mem_reverse.2 h)
  have hending : ∀ stem : Text, (stem ++ extension).reverse.takeWhile (· != '.')
      = extension.reverse.takeWhile (· != '.') := fun stem => by
    rw [List.reverse_append, List.takeWhile_append, if_neg (Nat.ne_of_lt hlt)]
  have hx := hending ['x']
  rw [List.length_reverse] at hlt
  simp only [List.singleton_append] at hx
  simp only [suffixOf, splitName, hending, hx]
  generalize extension.reverse.takeWhile (· != '.') = ending at hlt
  by_cases hnone : ending = []
  · simp [hnone]
  split
  · right
    rw [if_pos (by simp [hnone]; omega)]
    have hdrop : ∀ stem : Text,
        (stem ++ extension).drop ((stem ++ extension).length - ending.reverse.length - 1)
          = extension.drop (extension.length - ending.length - 1) := fun stem => by
      have hlength : (stem ++ extension).length - ending.reverse.length - 1
          = stem.length + (extension.length - ending.length - 1) := by
        simp only [List.length_append, List.length_reverse]
        omega
      rw [hlength, List.drop_append, List.drop_eq_nil_of_le (by omega), List.nil_append,
        Nat.add_sub_cancel_left]
    rw [hdrop stem]
    exact (hdrop ['x']).symm
  · exact .inl rfl

theorem BookKind.ofName?_append (stem : Text) {extension : Text} (h : '.' ∈ extension)
    (hx : ofName? ('x' :: extension) = none) : ofName? (stem ++ extension) = none := by
  rcases suffixOf_append stem h with hnone | hsame
  · rw [ofName?, hnone]
    rfl
  · rw [ofName?, hsame]
    exact hx

theorem BookKind.ofName?_of_book {name : Text} (h : FileRole.ofName name = .book) :
    (ofName? name).isSome := by
  unfold FileRole.ofName at h
  split_ifs at h with _ _ hname
  exact hname

namespace Path

theorem pieces_of_not_mem {t : Text} (h : '/' ∉ t) : pieces t = [t] := by
  induction t with
  | nil => rfl
  | cons c rest ih =>
    rw [List.mem_cons, not_or] at h
    rw [pieces, if_neg (Ne.symm h.1), ih h.2]

theorem exists_pieces_append (t : Text) {ending : Text} (h : '/' ∉ ending) :
    ∃ before last, pieces (t ++ ending) = before ++ [last ++ ending] := by
  induction t with
  | nil => exact ⟨[], [], pieces_of_not_mem h⟩
  | cons c rest ih =>
    obtain ⟨before, last, ih⟩ := ih
    by_cases hc : c = '/'
    · exact ⟨[] :: before, last, by rw [List.cons_append, pieces, if_pos hc, ih]; rfl⟩
    · rw [List.cons_append, pieces, if_neg hc, ih]
      cases before with
      | nil => exact ⟨[], c :: last, rfl⟩
      | cons piece others => exact ⟨(c :: piece) :: others, last, rfl⟩

/-- A path whose text ends in an extension ends in a name with it. A single point and two points are
no extensions: they would take the place of a name. -/
theorem exists_name_append (folder : Path) (t : Text) {extension : Text}
    (hslash : '/' ∉ extension) (hnil : extension ≠ []) (hpoint : extension ≠ ['.'])
    (hparent : extension ≠ parentPart) :
    ∃ last, (folder.append (.ofText (t ++ extension))).name = last ++ extension
      ∧ last ++ extension ≠ [] ∧ last ++ extension ≠ parentPart := by
  obtain ⟨before, last, hpieces⟩ := exists_pieces_append t hslash
  have hne : ∀ part, part = [] ∨ part = ['.'] ∨ part = parentPart → last ++ extension ≠ part := by
    rintro part (rfl | rfl | rfl) heq
    · exact hnil (List.append_eq_nil_iff.1 heq).2
    · rcases List.append_eq_singleton_iff.1 heq with ⟨-, h⟩ | ⟨-, h⟩
      · exact hpoint h
      · exact hnil h
    · match last, heq with
      | [], heq => exact hparent heq
      | [_], heq => exact hpoint (List.cons.inj heq).2
      | _ :: _ :: rest, heq =>
        have hrest := (List.cons.inj (List.cons.inj heq).2).2
        exact hnil (List.append_eq_nil_iff.1 hrest).2
  have hkept : (last ++ extension != [] && last ++ extension != ['.']) = true := by
    simp only [bne_iff_ne, Bool.and_eq_true]
    exact ⟨hne _ (.inl rfl), hne _ (.inr (.inl rfl))⟩
  have hparts : (ofText (t ++ extension)).parts
      = (before.filter fun piece => piece != [] && piece != ['.']) ++ [last ++ extension] := by
    rw [ofText, hpieces, List.filter_append,
      List.filter_cons_of_pos (p := fun piece => piece != [] && piece != ['.']) hkept,
      List.filter_nil]
  refine ⟨last, ?_, hne _ (.inl rfl), hne _ (.inr (.inr rfl))⟩
  unfold append
  split
  · rw [name, hparts, List.getLastD_concat]
  · rw [name, hparts, ← List.append_assoc, List.getLastD_concat]

end Path

/-- No file with this extension is a workbook, whatever stands before it. -/
def sparesBooks (extension : Text) : Bool :=
  extension.contains '.' && !(extension.contains '/') && extension != ['.']
    && extension != parentPart && (BookKind.ofName? ('x' :: extension)).isNone

/-- With an extension that spares workbooks, no sheet is written where a workbook is, unless a link
stands for one of them. -/
theorem ne_of_sparesBooks {extension : Text} (h : sparesBooks extension) {tree : FileTree}
    {folder book : Path} {t : Text} {target place : Location}
    (htarget : tree.locate (folder.append (.ofText (t ++ extension))) = .ok target)
    (hkeeps : tree.keepsName (folder.append (.ofText (t ++ extension))))
    (hplace : tree.find? book = .ok place) (hlink : tree.endsInLink book = false)
    (hbook : (BookKind.ofName? book.name).isSome) : target ≠ place := by
  simp only [sparesBooks, Bool.and_eq_true, List.contains_iff_mem, Bool.not_eq_true',
    bne_iff_ne, Option.isNone_iff_eq_none] at h
  obtain ⟨⟨⟨⟨hdot, hslash⟩, hpoint⟩, hparent⟩, hx⟩ := h
  have hslash : '/' ∉ extension := by simpa using hslash
  obtain ⟨last, hname, hnil, hout⟩ := Path.exists_name_append folder t hslash
    (List.ne_nil_of_mem hdot) hpoint hparent
  have hlast := Ground.getLast?_of_locate htarget hkeeps (hname ▸ hnil) (hname ▸ hout)
  rw [hname] at hlast
  have hbookName : ∀ name, BookKind.ofName? name = none → book.name ≠ name := by
    rintro name hnone rfl
    simp [hnone] at hbook
  have hbookLast := Ground.getLast?_of_followPath hlink (hbookName [] rfl)
    (hbookName parentPart rfl) (FileTree.followPath_of_find? hplace)
  rintro rfl
  rw [hlast, Option.some.injEq] at hbookLast
  exact hbookName _ (BookKind.ofName?_append last hdot hx) hbookLast.symm

end MarkedSheet
