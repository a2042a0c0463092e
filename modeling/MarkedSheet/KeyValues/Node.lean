import MarkedSheet.KeyValues.Line

/-!
# Forests of key-value nodes

What is written for a sheet is a forest of comments, pairs and named containers. A pair remembers
the cell its key or value was taken from. The lines of a forest follow its nesting: a node at level
`n` of a forest at depth `d` is indented `n + d` times.
-/

namespace MarkedSheet

namespace KeyValues

/-- A row and a column of the data. -/
structure Place where
  row : Nat
  col : Nat
  deriving DecidableEq, Repr

/-- A node of a forest. -/
inductive Node
  /-- A comment on a line of its own. -/
  | comment (content : Text)
  /-- A key with its value. -/
  | pair (place : Place) (key value : Text)
  /-- A named container. -/
  | container (name : Text) (children : List Node)
  deriving Repr

mutual

/-- The lines of a node. -/
def Node.lines (unit : Text) (depth : Int) : Node → List Text
  | .comment content => [indentation unit depth ++ commentText content]
  | .pair _ key value => [indentation unit depth ++ pairText key value]
  | .container name children =>
    (indentation unit depth ++ openText name) :: linesOf unit (depth + 1) children
      ++ [indentation unit depth ++ closeText]

/-- The lines of a forest. -/
def linesOf (unit : Text) (depth : Int) : List Node → List Text
  | [] => []
  | node :: rest => node.lines unit depth ++ linesOf unit depth rest

end

theorem linesOf_append (unit : Text) (depth : Int) (s t : List Node) :
    linesOf unit depth (s ++ t) = linesOf unit depth s ++ linesOf unit depth t := by
  induction s with
  | nil => simp [linesOf]
  | cons node rest ih => simp [linesOf, ih]

end KeyValues

end MarkedSheet
