import MarkedSheet.Sheet.Cell
import MarkedSheet.Text.Digit

/-!
# Kinds of headers

The title of a column says by its markers what the column is for. `Kind.ofHeader` reads the markers:
the localization and name markers come first, then the columns to ignore, then the brackets at the
end of the title, and what has no marker is a plain column.
-/

namespace MarkedSheet

/-- The four families of containers. Each is closed by its own marker only. -/
inductive Family
  /-- An array with its elements side by side, `[`. -/
  | arrayAcross
  /-- An array with its elements one below another, `[↓`. -/
  | arrayDown
  /-- A map, `{`. -/
  | mapAcross
  /-- A map that spans the rows of its object, `{↓`. -/
  | mapDown
  deriving DecidableEq, Repr

/-- What a column is for. -/
inductive Kind
  /-- Not read at all. -/
  | ignored
  /-- Localized texts, one for each object. -/
  | locSingle
  /-- Localized texts for the value on the left. -/
  | locValues
  /-- Opens a container. -/
  | opening (family : Family)
  /-- Closes a container. -/
  | closing (family : Family)
  /-- Keys of pairs. -/
  | key
  /-- Values of pairs. -/
  | value
  /-- Names of the objects, for comments. -/
  | nameNote
  /-- A numbered ability slot, which is always written. -/
  | ability
  /-- Values under the title itself. -/
  | plain
  deriving DecidableEq, Repr

namespace Family

/-- The marker that opens a container, at the end of a title. -/
def openMarker : Family → Text
  | .arrayAcross => ['[']
  | .arrayDown => ['[', '↓']
  | .mapAcross => ['{']
  | .mapDown => ['{', '↓']

/-- The marker that closes a container, at the end of a title. -/
def closeMarker : Family → Text
  | .arrayAcross => [']']
  | .arrayDown => ['↓', ']']
  | .mapAcross => ['}']
  | .mapDown => ['↓', '}']

/-- The name of a container: its title without the marker. -/
def containerName (family : Family) (header : Cell) : Text :=
  ((header.trimmed).dropEnding family.openMarker).trim

end Family

namespace Kind

/-- The marker of localized texts. -/
def locMarker : Text := "#Loc".toList

/-- The title of localized texts for the value on the left. -/
def locValuesTitle : Text := "#LocValues".toList

/-- The title of the names of the objects. -/
def nameNoteTitle : Text := "#name".toList

/-- The brackets at the end of a title; where two end alike, the longer comes first. -/
def brackets : List (Text × Kind) :=
  [(Family.arrayDown.closeMarker, .closing .arrayDown),
   (Family.mapDown.closeMarker, .closing .mapDown),
   (Family.arrayAcross.closeMarker, .closing .arrayAcross),
   (Family.mapAcross.closeMarker, .closing .mapAcross),
   (Family.arrayDown.openMarker, .opening .arrayDown),
   (Family.mapDown.openMarker, .opening .mapDown),
   (Family.arrayAcross.openMarker, .opening .arrayAcross),
   (Family.mapAcross.openMarker, .opening .mapAcross)]

/-- The kind that the bracket at the end of a title gives. -/
def ofBracket? (title : Text) : Option Kind :=
  brackets.findSome? fun (marker, kind) => if marker.isSuffixOf title then some kind else none

/-- The title starts with the word for an ability slot and a digit. -/
def isAbilityTitle (title : Text) : Bool :=
  let word := "Ability".toList
  word.isPrefixOf title && ((title.drop word.length).head?.elim false isDigitChar)

/-- The kind of a title without outer blanks. -/
def ofTitle (title : Text) : Kind :=
  if title.isEmpty then .ignored
  else if title = locValuesTitle then .locValues
  else if locMarker.occursIn title then .locSingle
  else if title = nameNoteTitle then .nameNote
  else if ['_'].isPrefixOf title || ['#'].isPrefixOf title then .ignored
  else match ofBracket? title with
    | some kind => kind
    | none =>
      if title = "k".toList || title = "key".toList then .key
      else if title = "v".toList || title = "value".toList then .value
      else if isAbilityTitle title then .ability
      else .plain

/-- The kind of a column by its title cell. -/
def ofHeader (header : Cell) : Kind :=
  ofTitle header.trimmed

/-- The family of the container that a column of this kind opens. -/
def opens? : Kind → Option Family
  | .opening family => some family
  | _ => none

/-- The column says something about its row but cannot hold the key of the row. -/
def annotates : Kind → Bool
  | .ignored | .nameNote | .locSingle | .locValues => true
  | _ => false

theorem opens?_eq_some_iff {kind : Kind} {family : Family} :
    kind.opens? = some family ↔ kind = .opening family := by
  cases kind <;> simp [opens?]

end Kind

end MarkedSheet
