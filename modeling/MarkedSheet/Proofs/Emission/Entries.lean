import MarkedSheet.Proofs.Emission.Gives

/-!
# What the rows of a column give

Within the rows of a page no look-up fails, and the forests of plain columns, ability slots and
pairs are the entries of their rows, one after another.
-/

namespace MarkedSheet

namespace Page

open KeyValues (Node Place)

variable (page : Page)

/-- The cell in a row and a column; nothing where the row does not exist. -/
def cellAt (r col : Nat) : Cell :=
  ((page.rows[r]?).map fun row => row.cell col).join

theorem cell_eq {r : Nat} (hr : r < page.rows.length) (col : Nat) :
    page.cell r col = .ok (page.cellAt r col) := by
  simp [cell, cellAt, hr]

theorem cellAt_eq {r : Nat} {row : Row} (hrow : page.rows[r]? = some row) (col : Nat) :
    page.cellAt r col = row.cell col := by
  simp [cellAt, hrow]

/-- What a plain column has for a row. -/
def plainEntry (r col : Nat) : List Node :=
  if (page.cellAt r col).isBlank then []
  else page.noteComment r col
    ++ [.pair ⟨r, col⟩ (page.schema.title col) (page.written (page.cellAt r col))]

/-- The value that is written for a cell: nothing for a blank one. -/
def shownValue (r col : Nat) : Text :=
  if (page.cellAt r col).isBlank then [] else page.written (page.cellAt r col)

/-- What a column of ability slots has for a row. -/
def abilityEntry (r col : Nat) : List Node :=
  page.noteComment r col ++ [.pair ⟨r, col⟩ (page.schema.title col) (page.shownValue r col)]

/-- What a key column and its value column have for a row. -/
def pairEntry (keyCol valueCol r : Nat) : List Node :=
  if (page.cellAt r keyCol).isBlank || (page.cellAt r valueCol).isBlank then []
  else [.pair ⟨r, keyCol⟩ (page.written (page.cellAt r keyCol))
    (page.written (page.cellAt r valueCol))]

/-- The name of the object in a row, as it stands before the container of the object. -/
def nameEntry (r : Nat) : List Node :=
  match page.schema.nameNote? with
  | none => []
  | some col =>
    if (page.cellAt r col).isBlank then [] else [.comment (page.cellAt r col).trimmed]

theorem noteComment_cases (r col : Nat) :
    page.noteComment r col = [] ∨ ∃ content, page.noteComment r col = [.comment content] := by
  unfold noteComment
  split
  · exact .inl rfl
  · simp only
    split
    · exact .inl rfl
    · exact .inr ⟨_, rfl⟩

section Rows

open Reported

variable {page : Page} {start stop : Nat}

/-- A loop over rows that each give their entry gives the entries one after another. -/
theorem gives_entries (entry : Nat → List Node) {f : Nat → Reported (List Node)}
    (h : ∀ r, start ≤ r → r < stop → (f r).Gives fun _ nodes => nodes = entry r) :
    (Reported.collect f (rowRange start stop)).Gives
      fun _ nodes => nodes = (rowRange start stop).flatMap entry := by
  refine gives_collect (P := fun r _ nodes => nodes = entry r)
    (Q := fun rs _ nodes => nodes = rs.flatMap entry) (by simp) ?_ _ fun r hr => ?_
  · rintro r rest ws nodes ws' nodes' rfl rfl
    simp
  · obtain ⟨hstart, hlt⟩ := mem_rowRange hr
    exact h r hstart hlt

theorem gives_nameComment {r : Nat} (hr : r < page.rows.length) :
    (page.nameComment r).Gives fun ws nodes => ws = [] ∧ nodes = page.nameEntry r := by
  unfold nameComment nameEntry
  rcases page.schema.nameNote? with _ | col
  · exact gives_pure ⟨rfl, rfl⟩
  · simp only [page.cell_eq hr]
    exact gives_mk ⟨rfl, rfl⟩

theorem gives_mapTitle {r : Nat} (hr : r < page.rows.length) (family : Family) (col : Nat) :
    (page.mapTitle family col r).Gives fun ws _ => ws = [] := by
  unfold mapTitle
  rw [page.cell_eq hr]
  exact gives_mk rfl

variable (hstop : stop ≤ page.rows.length)

include hstop

theorem gives_plainNodes (col : Nat) :
    (page.plainNodes col start stop).Gives
      fun _ nodes => nodes = (rowRange start stop).flatMap (page.plainEntry · col) := by
  refine gives_entries _ fun r _ hlt => ?_
  rw [page.cell_eq (Nat.lt_of_lt_of_le hlt hstop)]
  unfold plainEntry
  split
  next hblank => simp [hblank, gives_mk]
  next hblank => simp [hblank, checkSpace, warnIf_eq, gives_mk]

theorem gives_abilityNodes (col : Nat) :
    (page.abilityNodes col start stop).Gives
      fun _ nodes => nodes = (rowRange start stop).flatMap (page.abilityEntry · col) := by
  refine gives_entries _ fun r _ hlt => ?_
  rw [page.cell_eq (Nat.lt_of_lt_of_le hlt hstop)]
  simp [checkSpace, warnIf_eq, gives_mk, abilityEntry, shownValue]

/-- The columns passed over are all told. -/
theorem gives_pairNodes (keyCol valueCol : Nat) (unwritten : List Nat) :
    (page.pairNodes keyCol valueCol unwritten start stop).Gives fun ws nodes =>
      (∀ col ∈ unwritten, Warning.unwritten col (page.schema.title col) keyCol valueCol ∈ ws)
        ∧ nodes = (rowRange start stop).flatMap (page.pairEntry keyCol valueCol) := by
  refine Gives.bind (P := fun ws _ => ws = unwritten.map fun col =>
      .unwritten col (page.schema.title col) keyCol valueCol) (gives_mk rfl) fun ws _ hws => ?_
  refine (gives_entries (page.pairEntry keyCol valueCol) fun r _ hlt => ?_).mono
    fun more nodes h => ⟨fun col hcol => ?_, h⟩
  · have hr := Nat.lt_of_lt_of_le hlt hstop
    rw [page.cell_eq hr, page.cell_eq hr]
    simp only [lift_ok, bind_ok, List.nil_append, pairEntry]
    split
    · exact gives_mk rfl
    · simp [checkSpace, warnIf_eq, gives_mk]
  · rw [hws]
    exact List.mem_append_left _ (List.mem_map.2 ⟨col, hcol, rfl⟩)

theorem gives_loneKeyNodes (col : Nat) :
    (page.loneKeyNodes col start stop).Gives fun _ nodes => nodes = [] := by
  refine (gives_entries (fun _ => []) fun r _ hlt => ?_).mono fun ws nodes h => by simp [h]
  rw [page.cell_eq (Nat.lt_of_lt_of_le hlt hstop)]
  simp [warnIf_eq, gives_mk]

end Rows

end Page

end MarkedSheet
