import MarkedSheet.Localization.Harvest
import MarkedSheet.Options.Value
import MarkedSheet.Text.Case

/-!
# Settings

Settings give every option a value, whatever its type. They are read from members with names: a name
may be written with capitals in place of low lines, some options have earlier names, and the number
of the title row stands for the header offset. `set_set_comm` says that the order of different
options does not matter.
-/

namespace MarkedSheet

/-- The options. -/
inductive Field
  | sheetsIgnore
  | verbose
  | transliterate
  | aliases
  | customPinyins
  | indent
  | autoSimple
  | headerOffset
  | extension
  | emptyToken
  | noteComments
  | inferRootName
  | locPath
  | locLanguage
  | locTemplate
  deriving DecidableEq, Repr

namespace Field

/-- All options in their order. -/
def all : List Field := [
  .sheetsIgnore, .verbose, .transliterate, .aliases, .customPinyins, .indent, .autoSimple,
  .headerOffset, .extension, .emptyToken, .noteComments, .inferRootName, .locPath, .locLanguage,
  .locTemplate]

/-- The name of an option. -/
def name : Field → String
  | sheetsIgnore => "sheets_ignore"
  | verbose => "verbose"
  | transliterate => "transliterate"
  | aliases => "aliases"
  | customPinyins => "custom_pinyins"
  | indent => "indent"
  | autoSimple => "auto_simple_kv"
  | headerOffset => "header_row_offset"
  | extension => "kv_file_ext"
  | emptyToken => "force_empty_token"
  | noteComments => "note_comments"
  | inferRootName => "infer_root_name"
  | locPath => "loc_csv_path"
  | locLanguage => "loc_default_lang"
  | locTemplate => "loc_values_template"

/-- The option with a name. -/
def ofName? (t : Text) : Option Field :=
  all.find? fun field => field.name.toList = t

/-- The value of an option that is not set. -/
def default : Field → Value
  | sheetsIgnore => .text "^\\s*$".toList
  | verbose => .truth false
  | transliterate => .truth false
  | aliases => .object []
  | customPinyins => .object []
  | indent => .text "    ".toList
  | autoSimple => .truth true
  | headerOffset => .whole 0
  | extension => .text ".txt".toList
  | emptyToken => .text KeyValues.defaultEmptyToken
  | noteComments => .truth false
  | inferRootName => .truth true
  | locPath => .null
  | locLanguage => .text Localization.defaultLanguage
  | locTemplate => .text Localization.defaultTemplate

end Field

/-- Earlier names of options. -/
def formerNames : List (String × Field) := [
  ("chinese_to_pinyin", .transliterate), ("alias_list", .aliases), ("auto_simple_k_v", .autoSimple),
  ("addon_c_s_v_path", .locPath), ("addon_csv_path", .locPath),
  ("addon_c_s_v_default_lang", .locLanguage), ("addon_csv_default_lang", .locLanguage)]

/-- What a name in an options file means. -/
inductive Target
  /-- An option. -/
  | field (f : Field)
  /-- The number of the title row, counted from one. -/
  | titleRow
  deriving DecidableEq, Repr

namespace Target

/-- A capital of the Latin alphabet. -/
def isCapital (c : Char) : Bool :=
  'A' ≤ c && c ≤ 'Z'

/-- The name with a low line before every capital but the first character. -/
def splitCapitals : Text → Text
  | [] => []
  | c :: rest => c :: rest.flatMap fun d => if isCapital d then ['_', d] else [d]

/-- What a name means, once its capitals are resolved. -/
def ofPlainName? (t : Text) : Option Target :=
  if t = "key_row_number".toList then some .titleRow
  else match formerNames.find? fun (name, _) => name.toList = t with
    | some (_, f) => some (.field f)
    | none => (Field.ofName? t).map .field

/-- What a name means. -/
def ofName? (t : Text) : Option Target :=
  ofPlainName? (splitCapitals t).lower

end Target

/-- A value for every option. -/
def Settings := Field → Value

namespace Settings

/-- The settings without any option set. -/
def default : Settings :=
  Field.default

/-- The settings with one option set. -/
def set (s : Settings) (field : Field) (value : Value) : Settings :=
  fun other => if other = field then value else s other

/-- Settings that were read, or why they could not, with the names that mean nothing. -/
structure Loading where
  unknown : List Text
  result : Except IntegerError Settings

/-- Sets what members name, one after another. The title row is two rows below the header offset. -/
def setAll (s : Settings) : Mapping Text Value → Loading
  | [] => ⟨[], .ok s⟩
  | (name, value) :: rest =>
    match Target.ofName? name with
    | none =>
      let loading := setAll s rest
      { loading with unknown := name :: loading.unknown }
    | some (.field field) => setAll (s.set field value) rest
    | some .titleRow =>
      match value.toInt with
      | .ok number => setAll (s.set .headerOffset (.whole (number - 2))) rest
      | .error e => ⟨[], .error e⟩

/-- The settings that members give. -/
def ofMembers (members : Mapping Text Value) : Loading :=
  setAll default members

/-- The line that is printed for a name that means nothing. -/
def unknownLine (name : Text) : Text :=
  "[sheetkv] WARNING: unknown option '".toList ++ name ++ "' ignored".toList

/-- The lines that are printed while settings are read. -/
def Loading.printed (loading : Loading) : List Text :=
  loading.unknown.map unknownLine

theorem set_set_self (s : Settings) (field : Field) (v w : Value) :
    (s.set field v).set field w = s.set field w := by
  funext other
  by_cases h : other = field <;> simp [set, h]

theorem set_set_comm (s : Settings) {f g : Field} (v w : Value) (h : f ≠ g) :
    (s.set f v).set g w = (s.set g w).set f v := by
  funext other
  by_cases hf : other = f <;> by_cases hg : other = g <;> simp_all [set]

end Settings

end MarkedSheet
