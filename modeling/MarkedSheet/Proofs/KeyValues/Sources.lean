import Mathlib.Data.List.Forall2
import MarkedSheet.KeyValues.Node

/-!
# Where the lines of a forest come from

Every line of a pair can be told from the lines of comments and brackets by the place it was taken
from. The lines with a place are the pairs at that place (`linesFrom_sourcedLines`), and without the
places they are the lines of the forest (`text_sourcedLines`).
-/

namespace MarkedSheet

namespace KeyValues

/-- A line, with the place of the cell it shows if it is the line of a pair. -/
structure SourcedLine where
  place? : Option Place
  text : Text
  deriving DecidableEq, Repr

mutual

/-- The keys and values of the pairs at a place. -/
def Node.pairsAt (place : Place) : Node → List (Text × Text)
  | .comment _ => []
  | .pair own key value => if own = place then [(key, value)] else []
  | .container _ children => pairsAt place children

/-- The keys and values of the pairs at a place, in their order. -/
def pairsAt (place : Place) : List Node → List (Text × Text)
  | [] => []
  | node :: rest => node.pairsAt place ++ pairsAt place rest

end

mutual

/-- The lines of a node with their places. -/
def Node.sourcedLines (unit : Text) (depth : Int) : Node → List SourcedLine
  | .comment content => [⟨none, indentation unit depth ++ commentText content⟩]
  | .pair place key value => [⟨some place, indentation unit depth ++ pairText key value⟩]
  | .container name children =>
    ⟨none, indentation unit depth ++ openText name⟩ :: sourcedLines unit (depth + 1) children
      ++ [⟨none, indentation unit depth ++ closeText⟩]

/-- The lines of a forest with their places. -/
def sourcedLines (unit : Text) (depth : Int) : List Node → List SourcedLine
  | [] => []
  | node :: rest => node.sourcedLines unit depth ++ sourcedLines unit depth rest

end

/-- The lines that show the cell at a place. -/
def linesFrom (place : Place) (lines : List SourcedLine) : List Text :=
  (lines.filter fun line => line.place? = some place).map (·.text)

section Pairs

variable (place : Place)

@[simp] theorem pairsAt_append (s t : List Node) :
    pairsAt place (s ++ t) = pairsAt place s ++ pairsAt place t := by
  induction s with
  | nil => simp [pairsAt]
  | cons node rest ih => simp [pairsAt, ih]

@[simp] theorem pairsAt_container (name : Text) (children : List Node) :
    pairsAt place [.container name children] = pairsAt place children := by
  simp [pairsAt, Node.pairsAt]

@[simp] theorem pairsAt_comment (content : Text) : pairsAt place [.comment content] = [] := by
  simp [pairsAt, Node.pairsAt]

@[simp] theorem linesFrom_append (s t : List SourcedLine) :
    linesFrom place (s ++ t) = linesFrom place s ++ linesFrom place t := by
  simp [linesFrom]

end Pairs

section Lines

variable (unit : Text)

mutual

theorem Node.text_sourcedLines (depth : Int) :
    ∀ node : Node, (node.sourcedLines unit depth).map (·.text) = node.lines unit depth
  | .comment _ => rfl
  | .pair .. => rfl
  | .container name children => by
    have ih := text_sourcedLines (depth + 1) children
    simp [Node.sourcedLines, Node.lines, ih]

theorem text_sourcedLines (depth : Int) :
    ∀ nodes : List Node, (sourcedLines unit depth nodes).map (·.text) = linesOf unit depth nodes
  | [] => rfl
  | node :: rest => by
    have ih := text_sourcedLines depth rest
    simp [sourcedLines, linesOf, Node.text_sourcedLines depth node, ih]

end

/-- The line shows the key and the value at some level from `depth` on. -/
def Shows (depth : Int) (line : Text) (entry : Text × Text) : Prop :=
  ∃ level, depth ≤ level ∧ line = indentation unit level ++ pairText entry.1 entry.2

theorem Shows.mono {unit : Text} {depth depth' : Int} {line : Text} {entry : Text × Text}
    (h : Shows unit depth' line entry) (hle : depth ≤ depth') : Shows unit depth line entry := by
  obtain ⟨level, hlevel, rfl⟩ := h
  exact ⟨level, Int.le_trans hle hlevel, rfl⟩

variable (place : Place)

mutual

theorem Node.linesFrom_sourcedLines (depth : Int) : ∀ node : Node,
    List.Forall₂ (Shows unit depth) (linesFrom place (node.sourcedLines unit depth))
      (node.pairsAt place)
  | .comment content => by simp [Node.sourcedLines, Node.pairsAt, linesFrom]
  | .pair own key value => by
    by_cases hown : own = place
    · simp only [Node.sourcedLines, Node.pairsAt, linesFrom, hown, decide_true, List.filter_cons,
        if_true, List.filter_nil, List.map_cons, List.map_nil]
      exact .cons ⟨depth, Int.le_refl _, rfl⟩ .nil
    · simp [Node.sourcedLines, Node.pairsAt, linesFrom, hown]
  | .container name children => by
    have ih := linesFrom_sourcedLines (depth + 1) children
    have hlines : linesFrom place ((Node.container name children).sourcedLines unit depth)
        = linesFrom place (sourcedLines unit (depth + 1) children) := by
      simp [Node.sourcedLines, linesFrom]
    rw [hlines, Node.pairsAt]
    exact ih.imp fun _ _ h => h.mono (by omega)

theorem linesFrom_sourcedLines (depth : Int) : ∀ nodes : List Node,
    List.Forall₂ (Shows unit depth) (linesFrom place (sourcedLines unit depth nodes))
      (pairsAt place nodes)
  | [] => .nil
  | node :: rest => by
    rw [sourcedLines, pairsAt, linesFrom_append]
    exact List.rel_append (Node.linesFrom_sourcedLines depth node)
      (linesFrom_sourcedLines depth rest)

end

variable {unit place} {depth : Int} {nodes : List Node}

theorem linesFrom_eq_nil (h : pairsAt place nodes = []) :
    linesFrom place (sourcedLines unit depth nodes) = [] := by
  have hlines := linesFrom_sourcedLines unit place depth nodes
  rw [h] at hlines
  exact List.forall₂_nil_right_iff.1 hlines

theorem linesFrom_eq_singleton {key value : Text} (h : pairsAt place nodes = [(key, value)]) :
    ∃ level, depth ≤ level ∧ linesFrom place (sourcedLines unit depth nodes)
      = [indentation unit level ++ pairText key value] := by
  have hlines := linesFrom_sourcedLines unit place depth nodes
  rw [h] at hlines
  obtain ⟨line, rest, ⟨level, hlevel, rfl⟩, hrest, heq⟩ := List.forall₂_cons_right_iff.1 hlines
  rw [List.forall₂_nil_right_iff.1 hrest] at heq
  exact ⟨level, hlevel, heq⟩

end Lines

end KeyValues

end MarkedSheet
