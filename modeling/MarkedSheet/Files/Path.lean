import MarkedSheet.Text.Basic

/-!
# Paths

A path starts from the root or from the current folder. It is the list of its parts, as it was given
but for empty parts and single points. Two points lead out of a folder; a path from the current
folder that starts with a tilde leads to somebody's home. A location is where a path ends: the names
of the folders down from the root, and of what is there. Nothing of a text is lost between its
slashes (`join_pieces`).
-/

namespace MarkedSheet

/-- A path from the root or from the current folder. -/
structure Path where
  /-- The slashes of the root: one, or the two that a text starts with, or none in a path from the
  current folder. -/
  root : Text := []
  parts : List Text
  deriving DecidableEq, Repr

/-- The names from the root down to a file or folder. -/
abbrev Location := List Text

/-- The part that leads out of a folder. -/
def parentPart : Text := ['.', '.']

namespace Path

/-- The pieces of a text between slashes. -/
def pieces : Text → List Text
  | [] => [[]]
  | c :: rest =>
    if c = '/' then [] :: pieces rest
    else match pieces rest with
      | [] => [[c]]
      | piece :: others => (c :: piece) :: others

/-- The slashes that stand for the root at the front of a text. Two are kept apart from one, more
than two count as one. -/
def rootOf (t : Text) : Text :=
  let slashes := t.takeWhile (· = '/')
  if slashes.length = 2 then slashes else slashes.take 1

/-- The path that a text names. -/
def ofText (t : Text) : Path :=
  ⟨rootOf t, (pieces t).filter fun piece => piece != [] && piece != ['.']⟩

/-- The path starts from the root. -/
def isAbsolute (path : Path) : Bool :=
  !path.root.isEmpty

/-- The path in writing. -/
def text (path : Path) : Text :=
  if path.root.isEmpty && path.parts.isEmpty then ['.']
  else path.root ++ Text.join ['/'] path.parts

/-- The last part. -/
def name (path : Path) : Text :=
  path.parts.getLastD []

/-- The path without its last part. -/
def parent (path : Path) : Path :=
  { path with parts := path.parts.dropLast }

/-- One path after another. A path from the root stands for itself. -/
def append (path other : Path) : Path :=
  if other.isAbsolute then other else { path with parts := path.parts ++ other.parts }

/-- A part holds the null character. -/
def holdsNull (path : Path) : Bool :=
  path.parts.any (·.contains '\x00')

/-- The path starts with a tilde. -/
def leadsHome (path : Path) : Bool :=
  !path.isAbsolute && path.parts.head?.any fun part => part.head? = some '~'

/-- The location that a path starts from. -/
def start (path : Path) (current : Location) : Location :=
  if path.isAbsolute then [] else current

/-- Where parts lead from a location, if nothing on the way is a link. -/
def resolveFrom (location : Location) (parts : List Text) : Location :=
  parts.foldl (fun location part =>
    if part = parentPart then location.dropLast else location ++ [part]) location

/-- The order of paths that start alike, part by part. -/
def le (a b : Path) : Bool :=
  partsLe a.parts b.parts
where
  /-- The order of lists of parts. -/
  partsLe : List Text → List Text → Bool
    | [], _ => true
    | _ :: _, [] => false
    | a :: as, b :: bs => if a = b then partsLe as bs else Text.le a b

theorem pieces_ne_nil (t : Text) : pieces t ≠ [] := by
  cases t with
  | nil => simp [pieces]
  | cons c rest =>
    unfold pieces
    split
    · simp
    · split <;> simp

theorem join_pieces (t : Text) : Text.join ['/'] (pieces t) = t := by
  induction t with
  | nil => rfl
  | cons c rest ih =>
    unfold pieces
    split
    next hc =>
      match hp : pieces rest with
      | [] => exact absurd hp (pieces_ne_nil rest)
      | piece :: others => rw [hp] at ih; simp [Text.join, ih, hc]
    next =>
      match hp : pieces rest with
      | [] => exact absurd hp (pieces_ne_nil rest)
      | [piece] => rw [hp] at ih; simpa [Text.join] using ih
      | piece :: next :: others => rw [hp] at ih; simpa [Text.join] using ih

theorem parts_eq_concat (path : Path) (h : path.name ≠ []) :
    path.parts = path.parts.dropLast ++ [path.name] := by
  rcases List.eq_nil_or_concat path.parts with hparts | ⟨before, last, hparts⟩
  · simp [name, hparts] at h
  · simp [name, hparts]

/-- What is put after a path decides nothing about where the path starts, unless it starts from the
root. -/
theorem leadsHome_append {path : Path} (hhome : path.leadsHome = false) (hne : path.parts ≠ [])
    (other : Path) : (path.append other).leadsHome = false := by
  unfold append
  split
  next habsolute => simp [leadsHome, habsolute]
  next =>
    obtain ⟨root, _ | ⟨part, rest⟩⟩ := path
    · exact absurd rfl hne
    · exact hhome

end Path

/-- A name cut before its last point. A point at the very front or at the very end does not
count. -/
def splitName (name : Text) : Text × Text :=
  let ending := (name.reverse.takeWhile (· != '.')).reverse
  let before := name.length - ending.length - 1
  if 0 < before && !ending.isEmpty then
    (name.take before, name.drop before)
  else (name, [])

/-- What a name ends in, from its last point on. -/
def suffixOf (name : Text) : Text :=
  (splitName name).2

/-- The name without what it ends in. -/
def stemOf (name : Text) : Text :=
  (splitName name).1

theorem stemOf_append_suffixOf (name : Text) : stemOf name ++ suffixOf name = name := by
  simp only [stemOf, suffixOf, splitName]
  split <;> simp

end MarkedSheet
