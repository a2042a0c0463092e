import MarkedSheet.Header.Kind

/-!
# Localization entries

A localized text stands under a key. The key of a text in a column of its own is the title without
its marker, where the first pair of braces is exchanged for the key of the object.
-/

namespace MarkedSheet

namespace Localization

/-- A localized text under its key. -/
structure Entry where
  key : Text
  text : Text
  deriving DecidableEq, Repr

/-- The language of the texts unless another is chosen. -/
def defaultLanguage : Text := "SChinese".toList

/-- The place in a title where the key of the object goes. -/
def keyPlace : Text := ['{', '}']

/-- The key of a text in a column with this title, for the object with this key. -/
def singleKey (title primary : Text) : Text :=
  Text.trim (Text.replaceFirst keyPlace primary (Text.replaceFirst Kind.locMarker [] title))

end Localization

end MarkedSheet
