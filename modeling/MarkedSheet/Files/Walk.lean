import MarkedSheet.Files.Tree

/-!
# Where paths lead

A path is followed part by part, and where a link stands, the path of the link is followed in its
place. What is there is found if every part of the path is there (`FileTree.find?`). A path resolves
to a location also if nothing is there yet (`Ground.resolve`), and where something is found at the
end of a path, it resolves to the location of that (`FileTree.resolve_of_find?`). Where a link leads
back to itself, what comes after it is taken as it is written: two points lead out of it again, and
else it is told as such.
-/

namespace MarkedSheet

/-- How parts are followed: what is looked at before each part, and what is told of a link that
leads back to itself, with the parts that would come after it. -/
structure Guide (ε : Type) where
  check : Location → Text → Option ε
  loop : Location → ε
  along : ε → List Text → ε

/-- Why nothing is found at the end of a path. -/
inductive Astray
  /-- A part of the path is not there. -/
  | nowhere
  /-- A name, or the path, is too long. -/
  | tooLong
  deriving DecidableEq, Repr

namespace Ground

section Follow

variable (ground : Ground) {ε : Type} (guide : Guide ε)

/-- Follows parts from a location; `enter` follows the links. -/
def followParts (enter : Location → Location → Path → Except ε Location) :
    Location → List Text → Except ε Location
  | location, [] => .ok location
  | location, part :: rest =>
    match guide.check location part with
    | some e => .error e
    | none =>
      if part = parentPart then followParts enter location.dropLast rest
      else match ground.links.get? (location ++ [part]) with
        | none => followParts enter (location ++ [part]) rest
        | some target => match enter location (location ++ [part]) target with
          | .ok inside => followParts enter inside rest
          | .error e => .error (guide.along e rest)

/-- Follows parts from a location, and links within links, of which these are open. Links that do
not lead back to themselves are within one another no deeper than there are links. -/
def follow : Nat → List Location → Location → List Text → Except ε Location
  | 0, _ => ground.followParts guide fun _ link _ => .error (guide.loop link)
  | depth + 1, opened => ground.followParts guide fun location link target =>
    if link ∈ opened then .error (guide.loop link)
    else follow depth (link :: opened) (target.start location) target.parts

/-- Follows a path. -/
def followPath (path : Path) : Except ε Location :=
  ground.follow guide ground.links.length [] (path.start ground.current) path.parts

end Follow

/-- Looks at nothing on the way. Of a link that leads back to itself it is told where the parts after
it would lead if nothing else were a link. -/
def freely : Guide Location where
  check _ _ := none
  loop link := link
  along link rest := Path.resolveFrom link rest

/-- A link stands at the location or on the way to it. -/
def passesLink (ground : Ground) (location : Location) : Bool :=
  (FileTree.pathTo location).any fun place => (ground.links.get? place).isSome

/-- The location that a path resolves to, whatever is there. -/
def resolve (ground : Ground) (path : Path) : Except FileError Location :=
  if path.holdsNull then .error .nullCharacter
  else match ground.followPath freely path with
    | .ok location => .ok location
    | .error location =>
      if ground.passesLink location then .error (.loop (ground.fullPath location))
      else .ok location

/-- The path with the home that it starts from. -/
def expandHome (ground : Ground) (path : Path) : Except FileError Path :=
  if path.leadsHome then
    match path.parts with
    | [] => .ok path
    | part :: rest =>
      if part.contains '\x00' then .error .nullCharacter
      else match ground.homes.get? part.tail with
        | none => .error .noHome
        | some home =>
          let home := (home.reverse.dropWhile (· = '/')).reverse
          if home.head? = some '~' then .error .noHome
          else .ok ((Path.ofText (if home.isEmpty then ['/'] else home)).append ⟨[], rest⟩)
  else .ok path

/-- The location that a path resolves to, from a home if it starts with a tilde. -/
def locate (ground : Ground) (path : Path) : Except FileError Location := do
  let path ← ground.expandHome path
  ground.resolve path

/-- A link stands in the place of the last part of the path. -/
def endsInLink (ground : Ground) (path : Path) : Bool :=
  match ground.follow freely ground.links.length [] (path.start ground.current)
      path.parts.dropLast with
  | .ok folder => (ground.links.get? (folder ++ [path.name])).isSome
  | .error _ => false

end Ground

/-- The path leads to what has the name that it ends in: it does not end in a link, and is more than
the home of a user. -/
def Ground.keepsName (ground : Ground) (path : Path) : Bool :=
  match ground.expandHome path with
  | .ok whole => whole.name = path.name && !ground.endsInLink whole
  | .error _ => true

namespace FileTree

/-- Looks for what is on the way. Parts lead on from folders alone. -/
def closely (tree : FileTree) : Guide Astray where
  check location part :=
    if !tree.isFolder location then some .nowhere
    else if part = parentPart then none
    else if tree.nameLimit < Encoding.size part then some .tooLong
    else if (tree.links.get? (location ++ [part])).isSome || tree.has (location ++ [part]) then none
    else some .nowhere
  loop _ := .nowhere
  along e _ := e

/-- The location at the end of a path, if every part of it is there. -/
def find? (tree : FileTree) (path : Path) : Except Astray Location :=
  if path.holdsNull then .error .nowhere
  else if tree.pathLimit < Encoding.size path.text then .error .tooLong
  else tree.followPath tree.closely path

end FileTree

namespace Ground

section Resolve

variable {ground : Ground} {ε : Type} {guide : Guide ε}

theorem followParts_freely_of_ok {enter : Location → Location → Path → Except ε Location}
    {enterFreely : Location → Location → Path → Except Location Location}
    (henter : ∀ {location link target found}, enter location link target = .ok found →
      enterFreely location link target = .ok found) :
    ∀ {parts : List Text} {location found : Location},
      ground.followParts guide enter location parts = .ok found →
      ground.followParts freely enterFreely location parts = .ok found
  | [], _, _, h => by
    cases h
    rfl
  | part :: rest, location, found, h => by
    rw [followParts] at h ⊢
    have hcheck : freely.check location part = none := rfl
    simp only [hcheck]
    split at h
    · cases h
    · split at h
      next hpart =>
        rw [if_pos hpart]
        exact followParts_freely_of_ok henter h
      next hpart =>
        rw [if_neg hpart]
        split at h
        next => exact followParts_freely_of_ok henter h
        next target _ =>
          split at h
          next inside hinside =>
            simp only [henter hinside]
            exact followParts_freely_of_ok henter h
          next => cases h

theorem follow_freely_of_ok : ∀ {depth : Nat} {opened : List Location} {location found : Location}
    {parts : List Text}, ground.follow guide depth opened location parts = .ok found →
      ground.follow freely depth opened location parts = .ok found
  | 0, _, _, _, _, h => followParts_freely_of_ok (fun h => by cases h) h
  | depth + 1, opened, location, found, parts, h => by
    rw [follow] at h ⊢
    refine followParts_freely_of_ok (fun {location link target found} h => ?_) h
    split at h
    · cases h
    next hopened =>
      rw [if_neg hopened]
      exact follow_freely_of_ok h

theorem resolve_eq_ok {path : Path} {location : Location} (h : ground.resolve path = .ok location) :
    ground.followPath freely path = .ok location
      ∨ ground.followPath freely path = .error location ∧ ground.passesLink location = false := by
  unfold resolve at h
  split at h
  · cases h
  · split at h
    next hfollow => exact .inl (by rw [hfollow, Except.ok.inj h])
    next hfollow =>
      split at h
      · cases h
      next hfree =>
        obtain rfl := Except.ok.inj h
        exact .inr ⟨hfollow, eq_false_of_ne_true hfree⟩

theorem followParts_append {enter : Location → Location → Path → Except ε Location}
    (first rest : List Text) (location : Location) {found : Location}
    (h : ground.followParts guide enter location (first ++ rest) = .ok found) :
    ∃ inside, ground.followParts guide enter location first = .ok inside
      ∧ ground.followParts guide enter inside rest = .ok found := by
  induction first generalizing location with
  | nil => exact ⟨location, rfl, h⟩
  | cons part others ih =>
    rw [List.cons_append, followParts] at h
    rw [followParts]
    split at h
    · cases h
    · split at h
      next hpart =>
        rw [if_pos hpart]
        exact ih _ h
      next hpart =>
        rw [if_neg hpart]
        split at h
        next => exact ih _ h
        next target _ =>
          split at h
          next inside hinside =>
            exact ih _ h
          next => cases h

/-- A link that leads back to itself stands before the last part, or where the last part leads. -/
theorem followParts_concat_of_error {enter : Location → Location → Path → Except Location Location}
    (first : List Text) (last : Text) (location : Location) {e : Location}
    (h : ground.followParts freely enter location (first ++ [last]) = .error e) :
    (∃ link, ground.followParts freely enter location first = .error link
      ∧ e = Path.resolveFrom link [last])
    ∨ ∃ inside, ground.followParts freely enter location first = .ok inside
      ∧ ground.followParts freely enter inside [last] = .error e := by
  induction first generalizing location with
  | nil => exact .inr ⟨location, rfl, h⟩
  | cons part others ih =>
    rw [List.cons_append, followParts] at h
    rw [followParts]
    simp only [show freely.check location part = none from rfl] at h ⊢
    split at h
    next hpart =>
      rw [if_pos hpart]
      exact ih _ h
    next hpart =>
      rw [if_neg hpart]
      split at h
      next => exact ih _ h
      next target _ =>
        split at h
        next inside hinside => exact ih _ h
        next link hlink =>
          refine .inl ⟨_, rfl, ?_⟩
          rw [← Except.error.inj h]
          simp [freely, Path.resolveFrom]

/-- The depth and the links that are open only matter to the links themselves. -/
theorem follow_eq_followParts (guide : Guide ε) (depth : Nat) (opened : List Location) :
    ∃ enter, ground.follow guide depth opened = ground.followParts guide enter := by
  cases depth with
  | zero => exact ⟨_, rfl⟩
  | succ depth => exact ⟨_, rfl⟩

section Last

variable {path : Path} {location : Location} (hlink : ground.endsInLink path = false)
  (hnil : path.name ≠ []) (hparent : path.name ≠ parentPart)

include hlink hnil hparent

/-- A path that does not end in a link leads to what has the name it ends in. -/
theorem getLast?_of_followPath (h : ground.followPath freely path = .ok location) :
    location.getLast? = some path.name := by
  obtain ⟨enter, henter⟩ := ground.follow_eq_followParts freely ground.links.length []
  rw [followPath, henter, path.parts_eq_concat hnil] at h
  obtain ⟨folder, hfolder, hlast⟩ := followParts_append _ _ _ h
  rw [endsInLink, henter, hfolder] at hlink
  simp only [Option.isSome_eq_false_iff, Option.isNone_iff_eq_none] at hlink
  rw [followParts] at hlast
  simp only [freely, if_neg hparent, hlink, followParts] at hlast
  rw [← Except.ok.inj hlast, List.getLast?_concat]

/-- Nor does a path that leads out of a link again. -/
theorem getLast?_of_followPath_error (h : ground.followPath freely path = .error location) :
    location.getLast? = some path.name := by
  obtain ⟨enter, henter⟩ := ground.follow_eq_followParts freely ground.links.length []
  rw [followPath, henter, path.parts_eq_concat hnil] at h
  rcases followParts_concat_of_error _ _ _ h with ⟨link, -, rfl⟩ | ⟨folder, hfolder, hlast⟩
  · simp [Path.resolveFrom, hparent]
  · -- The last part would be a link.
    rw [endsInLink, henter, hfolder] at hlink
    simp only [Option.isSome_eq_false_iff, Option.isNone_iff_eq_none] at hlink
    rw [followParts] at hlast
    simp only [freely, if_neg hparent, hlink, followParts] at hlast
    cases hlast

end Last

/-- A path that does not end in a link resolves to what has the name it ends in. -/
theorem getLast?_of_resolve {path : Path} {location : Location}
    (h : ground.resolve path = .ok location) (hlink : ground.endsInLink path = false)
    (hnil : path.name ≠ []) (hparent : path.name ≠ parentPart) :
    location.getLast? = some path.name := by
  rcases resolve_eq_ok h with hfollow | ⟨hfollow, -⟩
  · exact getLast?_of_followPath hlink hnil hparent hfollow
  · exact getLast?_of_followPath_error hlink hnil hparent hfollow

theorem expandHome_of_not_leadsHome {path : Path} (h : path.leadsHome = false) :
    ground.expandHome path = .ok path := by
  rw [expandHome, h]
  rfl

theorem locate_of_not_leadsHome {path : Path} (h : path.leadsHome = false) :
    ground.locate path = ground.resolve path := by
  rw [locate, expandHome_of_not_leadsHome h]
  rfl

theorem endsInLink_of_links (hlinks : ground.links = []) (path : Path) :
    ground.endsInLink path = false := by
  unfold endsInLink
  rw [hlinks]
  split <;> rfl

theorem keepsName_of_links (hlinks : ground.links = []) {path : Path} (h : path.leadsHome = false) :
    ground.keepsName path := by
  simp [keepsName, expandHome_of_not_leadsHome h, endsInLink_of_links hlinks]

theorem getLast?_of_locate {path : Path} {location : Location}
    (h : ground.locate path = .ok location) (hkeeps : ground.keepsName path)
    (hnil : path.name ≠ []) (hparent : path.name ≠ parentPart) :
    location.getLast? = some path.name := by
  unfold keepsName at hkeeps
  unfold locate at h
  cases hwhole : ground.expandHome path with
  | error e =>
    rw [hwhole] at h
    cases h
  | ok whole =>
    rw [hwhole] at h hkeeps
    simp only [Bool.and_eq_true, decide_eq_true_eq, Bool.not_eq_true'] at hkeeps
    obtain ⟨hname, hlink⟩ := hkeeps
    rw [← hname] at hnil hparent ⊢
    exact getLast?_of_resolve h hlink hnil hparent

end Resolve

end Ground

namespace FileTree

variable {tree : FileTree} {path : Path} {found location : Location}

theorem followPath_of_find? (hfind : tree.find? path = .ok found) :
    tree.followPath Ground.freely path = .ok found := by
  unfold find? at hfind
  split at hfind
  · cases hfind
  · split at hfind
    · cases hfind
    · exact Ground.follow_freely_of_ok hfind

/-- What is found at the end of a path is where the path resolves to. -/
theorem resolve_of_find? (hfind : tree.find? path = .ok found)
    (hresolve : tree.resolve path = .ok location) : location = found := by
  have hfollow := followPath_of_find? hfind
  rcases Ground.resolve_eq_ok hresolve with h | ⟨h, -⟩
  · exact Except.ok.inj (h.symm.trans hfollow)
  · cases h.symm.trans hfollow

end FileTree

end MarkedSheet
