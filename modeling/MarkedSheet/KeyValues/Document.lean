import MarkedSheet.KeyValues.Quote

/-!
# Documents

A document is a head of three comment lines, the name of the root block, and the body between
braces. The root name is one that the game knows if the body has its telling words.
-/

namespace MarkedSheet

namespace KeyValues

/-- A root name and the words in a body that call for it: the first, and one of the others if there
are any. -/
structure RootRule where
  name : Text
  required : Text
  oneOf : List Text

/-- The rules for root names, the first that fits counts. -/
def rootRules : List RootRule :=
  [⟨"DOTAHeroes".toList, "override_hero".toList, []⟩,
   ⟨"DOTAUnits".toList, "AttackCapabilities".toList, []⟩,
   ⟨"DOTAItems".toList, "BaseClass".toList, ["item_lua".toList, "item_datadriven".toList]⟩,
   ⟨"DOTAAbilities".toList, "BaseClass".toList,
    ["ability_lua".toList, "ability_datadriven".toList]⟩]

/-- The body has the words that the rule asks for. -/
def RootRule.fits (rule : RootRule) (body : Text) : Bool :=
  rule.required.occursIn body
    && (rule.oneOf.isEmpty || rule.oneOf.any fun word => word.occursIn body)

/-- The root name for a body. -/
def rootName (body ownName : Text) : Text :=
  match rootRules.find? fun rule => rule.fits body with
  | some rule => rule.name
  | none => ownName

/-- The lines of a body as one text. -/
def bodyText (lines : List Text) : Text :=
  Text.join ['\n'] lines

/-- The head of a document. -/
def headText (source sheet : Text) : Text :=
  "// this file is auto-generated by sheetkv from\n// ".toList ++ source ++ ' ' :: sheet
    ++ "\n// edit the source workbook instead of this file\n".toList

/-- The root block around a body. -/
def rootBlock (root body : Text) : Text :=
  quote root ++ "\n\x7b\n".toList ++ (if body.isEmpty then [] else body ++ ['\n'])
    ++ "\x7d\n".toList

/-- A whole document. Every carriage return before a line feed is dropped. -/
def document (source sheet root : Text) (lines : List Text) : Text :=
  Text.replaceAll ['\r', '\n'] ['\n']
    (headText source sheet ++ rootBlock root (bodyText lines))

end KeyValues

end MarkedSheet
