import MarkedSheet.Proofs.Emission.Forests
import MarkedSheet.Proofs.Emission.Lines

/-!
# Blocks are rendered forests

The lines of a block, which its columns write one after another with the depth they are given, are
those of a forest (`Page.block_eq`): a comment and a pair take a line each, a container has its
children between its two brackets, and how far a line is indented tells how many containers are
around it (`Renders`). The forest and the warnings do not depend on the depth, so a block one level
deeper has the same lines after one more step of indentation (`block_renders_forest`).
-/

namespace MarkedSheet

namespace KeyValues

/-- A line without its indentation, and how many containers are around it. -/
structure LevelLine where
  level : Nat
  text : Text
  deriving DecidableEq, Repr

/-- What a line is indented by for each level: the unit, or a tab if that is empty. -/
def indentStep (unit : Text) : Text :=
  if unit.isEmpty then ['\t'] else unit

/-- The line in a forest at a depth. -/
def LevelLine.write (unit : Text) (depth : Nat) (line : LevelLine) : Text :=
  (List.replicate (depth + line.level) (indentStep unit)).flatten ++ line.text

/-- The lines render the forest, where so many containers are around it. -/
inductive Renders : Nat → List Node → List LevelLine → Prop
  | nil (level : Nat) : Renders level [] []
  | comment {level : Nat} (content : Text) {rest : List Node} {lines : List LevelLine}
      (hrest : Renders level rest lines) :
      Renders level (.comment content :: rest) (⟨level, commentText content⟩ :: lines)
  | pair {level : Nat} (place : Place) (key value : Text) {rest : List Node}
      {lines : List LevelLine} (hrest : Renders level rest lines) :
      Renders level (.pair place key value :: rest) (⟨level, pairText key value⟩ :: lines)
  | container {level : Nat} (name : Text) {children rest : List Node}
      {inside lines : List LevelLine} (hchildren : Renders (level + 1) children inside)
      (hrest : Renders level rest lines) :
      Renders level (.container name children :: rest)
        (⟨level, openText name⟩ :: inside ++ ⟨level, closeText⟩ :: lines)

section Levels

variable (unit : Text)

theorem indentation_eq (depth : Nat) :
    indentation unit depth = (List.replicate depth (indentStep unit)).flatten := by
  simp [indentation, indentStep]

theorem write_succ (depth : Nat) (line : LevelLine) :
    line.write unit (depth + 1) = indentStep unit ++ line.write unit depth := by
  rw [LevelLine.write, LevelLine.write, Nat.add_right_comm, List.replicate_succ, List.flatten_cons,
    List.append_assoc]

mutual

theorem Node.exists_renders (level : Nat) : ∀ node : Node, ∀ {rest : List Node}
    {lines : List LevelLine}, Renders level rest lines →
      ∃ lines', Renders level (node :: rest) lines'
  | .comment content, _, _, hrest => ⟨_, .comment content hrest⟩
  | .pair place key value, _, _, hrest => ⟨_, .pair place key value hrest⟩
  | .container name children, _, _, hrest =>
    let ⟨_, hchildren⟩ := exists_renders (level + 1) children
    ⟨_, .container name hchildren hrest⟩

theorem exists_renders (level : Nat) : ∀ nodes : List Node, ∃ lines, Renders level nodes lines
  | [] => ⟨[], .nil level⟩
  | node :: rest =>
    let ⟨_, hrest⟩ := exists_renders level rest
    Node.exists_renders level node hrest

end

variable {unit} {level : Nat} {nodes : List Node} {lines : List LevelLine}

theorem Renders.map_write (h : Renders level nodes lines) (depth : Nat) :
    lines.map (LevelLine.write unit depth) = linesOf unit (depth + level : Nat) nodes := by
  induction h with
  | nil => rfl
  | comment content _ ih | pair place key value _ ih =>
    rw [List.map_cons, ih, linesOf, Node.lines, indentation_eq]
    rfl
  | container name _ _ ihChildren ihRest =>
    rw [List.cons_append, List.map_cons, List.map_append, List.map_cons, ihChildren, ihRest,
      linesOf, Node.lines, indentation_eq]
    simp [LevelLine.write, Int.add_assoc]

theorem Renders.head_text (h : Renders level nodes lines) :
    ∀ line ∈ lines, ∃ c rest, line.text = c :: rest ∧ isBlankChar c = false := by
  induction h with
  | nil => simp
  | comment content _ ih => exact List.forall_mem_cons.2 ⟨⟨_, _, rfl, rfl⟩, ih⟩
  | pair place key value _ ih => exact List.forall_mem_cons.2 ⟨⟨'"', _, rfl, rfl⟩, ih⟩
  | container name _ _ ihChildren ihRest =>
    rw [List.cons_append, List.forall_mem_cons, List.forall_mem_append, List.forall_mem_cons]
    exact ⟨⟨'"', _, rfl, rfl⟩, ihChildren, ⟨_, _, rfl, rfl⟩, ihRest⟩

end Levels

end KeyValues

namespace Page

open KeyValues

/-- A block renders a forest that does not depend on the depth: at depth `d` a line with `n`
containers of the forest around it has `d + n` steps of indentation and then no blank. One level
deeper every line has one step more, and the warnings are the same. -/
theorem block_renders_forest (page : Page) (unit : Text) {rowStart rowStop colStart colStop : Nat}
    (hrow : rowStart < rowStop) (hrows : rowStop ≤ page.rows.length)
    (hcols : colStop ≤ page.schema.width) :
    ∃ ws nodes lines, page.blockNodes rowStart rowStop colStart colStop = ⟨ws, .ok nodes⟩
      ∧ Renders 0 nodes lines
      ∧ (∀ line ∈ lines, ∃ c rest, line.text = c :: rest ∧ isBlankChar c = false)
      ∧ ∀ depth : Nat, ∃ written,
        page.block unit rowStart rowStop colStart colStop depth = ⟨ws, .ok written⟩
          ∧ written = lines.map (LevelLine.write unit depth)
          ∧ page.block unit rowStart rowStop colStart colStop (depth + 1 : Nat)
            = ⟨ws, .ok (written.map (indentStep unit ++ ·))⟩ := by
  obtain ⟨ws, nodes, hblock⟩ := page.exists_blockNodes hrow hrows colStart hcols
  obtain ⟨lines, hlines⟩ := exists_renders 0 nodes
  have hwritten : ∀ depth : Nat, page.block unit rowStart rowStop colStart colStop depth
      = ⟨ws, .ok (lines.map (LevelLine.write unit depth))⟩ := by
    intro depth
    rw [block_eq, hblock, hlines.map_write depth]
    simp
  refine ⟨ws, nodes, lines, hblock, hlines, hlines.head_text,
    fun depth => ⟨_, hwritten depth, rfl, ?_⟩⟩
  rw [hwritten, List.map_map]
  congr 3
  funext line
  exact write_succ unit depth line

/-- An array with a map inside that is never closed. -/
def openPage : Page where
  schema := .ofTitles (["a[↓", "x", "m\x7b", "y", "↓]"].map fun t => some t.toList)
  rows := [["p", "1", "", "2", ""], ["q", "", "t", "", ""]].map (List.map fun t => some t.toList)

theorem openPage_blockNodes : openPage.blockNodes 0 2 0 5
    = ⟨[], .ok [.container ['a'] [
      .container ['p'] [.pair ⟨0, 1⟩ ['x'] ['1'], .container ['m'] [.pair ⟨0, 3⟩ ['y'] ['2']]],
      .container ['q'] [.container ['t'] []]]]⟩ := by
  have houtline : outline openPage.schema.kinds 0 5
      = [.container .arrayDown 0 4 [.plain 1, .container .mapAcross 2 4 [.plain 3]]] :=
    Laid.outline_eq (.container (by decide) (by decide) (by decide)
      (.plain (by decide) (by decide) (.container (by decide) (by decide) (by decide)
        (.plain (by decide) (by decide) (.done (by decide))) (.done (by decide))))
      (.done (by decide)))
  rw [blockNodes, houtline]
  rfl

theorem openPage_renders_forest :
    0 < 2 ∧ 2 ≤ openPage.rows.length ∧ 5 ≤ openPage.schema.width
      ∧ ∃ written : List Text, written = ["\t\"a\" \x7b", "\t\t\"p\" \x7b",
          "\t\t\t\"x\" \"1\"", "\t\t\t\"m\" \x7b", "\t\t\t\t\"y\" \"2\"", "\t\t\t\x7d",
          "\t\t\x7d", "\t\t\"q\" \x7b", "\t\t\t\"t\" \x7b", "\t\t\t\x7d", "\t\t\x7d",
          "\t\x7d"].map String.toList
        ∧ openPage.block [] 0 2 0 5 (1 : Nat) = ⟨[], .ok written⟩
        ∧ openPage.block [] 0 2 0 5 (2 : Nat) = ⟨[], .ok (written.map (['\t'] ++ ·))⟩ := by
  obtain ⟨ws, nodes, lines, hblock, hlines, -, hdepths⟩ := openPage.block_renders_forest []
    (by decide : 0 < 2) (by decide) (Nat.le_refl 5 : 5 ≤ openPage.schema.width)
  rw [openPage_blockNodes] at hblock
  cases hblock
  obtain ⟨written, hone, hwritten, htwo⟩ := hdepths 1
  refine ⟨by decide, by decide, by decide, written, ?_, hone, htwo⟩
  rw [hwritten, hlines.map_write]
  decide

end Page

end MarkedSheet
