import MarkedSheet.KeyValues.Line

/-!
# Dropping empty containers

A line that opens a container goes together with the line that closes it when nothing stands between
them, and then the next container around may be empty in turn. One pass with the kept lines as a
stack does all of it.
-/

namespace MarkedSheet

namespace KeyValues

/-- The line opens a container. -/
def opensContainer (line : Text) : Bool :=
  ['{'].isSuffixOf line.trim

/-- The line closes a container. -/
def closesContainer (line : Text) : Bool :=
  line.trim = closeText

/-- The kept lines, last first, after one more line. -/
def keepLine (kept : List Text) (line : Text) : List Text :=
  match kept with
  | top :: below => if closesContainer line && opensContainer top then below else line :: kept
  | [] => [line]

/-- The lines without the containers that have nothing in them. -/
def collapse (lines : List Text) : List Text :=
  (lines.foldl keepLine []).reverse

@[simp] theorem collapse_nil : collapse [] = [] := rfl

end KeyValues

end MarkedSheet
