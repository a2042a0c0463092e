import MarkedSheet.Text.Digit
import MarkedSheet.Text.Literal

/-!
# Key templates

A template is a text with fields in braces. A field names the key of the object or the label of the
value, may take a part of it, may show it as a literal, and may cut it and fill it up to a width.
Doubled braces stand for themselves. The pieces of a template are read and written from left to
right, so of several faults the first one counts (`Template.format`). What texts have for parts
beside their characters, the system says that the program runs on (`Attributes`).
-/

namespace MarkedSheet

/-- Why a template cannot be filled in. -/
inductive TemplateError
  /-- A brace closes nothing. -/
  | loneClose
  /-- A brace opens at the very end. -/
  | loneOpen
  /-- A brace opens inside the name of a field. -/
  | openInName
  /-- The text ends inside the name of a field. -/
  | nameUnended
  /-- The text ends where a conversion should stand. -/
  | conversionMissing
  /-- Something else than a colon follows a conversion. -/
  | colonMissing
  /-- The text ends inside the format of a field. -/
  | formatUnended
  /-- Fields are nested too deeply. -/
  | tooDeep
  /-- A field has a name that is not known. -/
  | unknownName (name : Text)
  /-- A field has a number, or no name at all. -/
  | positional (index : Nat)
  /-- A number has too many digits. -/
  | tooManyDigits
  /-- The name of a part is empty. -/
  | emptyPart
  /-- Something else than a part follows a bracket. -/
  | strayAfterBracket
  /-- A bracket is not closed. -/
  | bracketUnended
  /-- There is no part of this name. -/
  | noAttribute (owner name : Text)
  /-- The text has no character in that place. -/
  | indexRange
  /-- A place is not a number. -/
  | indexNotNumber
  /-- The conversion is not known. -/
  | unknownConversion (c : Char)
  /-- Two group separators. -/
  | bothSeparators
  /-- A group separator for something that is not a number. -/
  | separatorWith (separator type : Char)
  /-- A point without a number after it. -/
  | precisionMissing
  /-- More than a type is left of the format. -/
  | invalidFormat (format : Text)
  /-- The type is not known for texts. -/
  | unknownType (c : Char)
  /-- A sign for a text. -/
  | sign
  /-- A space for a sign of a text. -/
  | signSpace
  /-- A treatment of zeros for a text. -/
  | negativeZero
  /-- An alternate form for a text. -/
  | alternateForm
  /-- An alignment that is for numbers. -/
  | numberAlignment
  /-- A part that is no text refuses what is asked of it. -/
  | foreign (isValue : Bool) (message : Text)
  deriving DecidableEq, Repr

/-- A character as an error message shows it: itself if it is visible ASCII up to `last`. -/
def shownChar (last : Nat) (c : Char) : String :=
  if 32 < c.toNat && c.toNat ≤ last then c.toString
  else "\\x" ++ String.ofList (Nat.toDigits 16 c.toNat)

/-- The description of an error. -/
def TemplateError.message : TemplateError → String
  | .loneClose => "Single '\x7d' encountered in format string"
  | .loneOpen => "Single '\x7b' encountered in format string"
  | .openInName => "unexpected '\x7b' in field name"
  | .nameUnended => "expected '\x7d' before end of string"
  | .conversionMissing => "end of string while looking for conversion specifier"
  | .colonMissing => "expected ':' after conversion specifier"
  | .formatUnended => "unmatched '\x7b' in format spec"
  | .tooDeep => "Max string recursion exceeded"
  | .unknownName name => String.ofList name.literal
  | .positional index => s!"Replacement index {index} out of range for positional args tuple"
  | .tooManyDigits => "Too many decimal digits in format string"
  | .emptyPart => "Empty attribute in format string"
  | .strayAfterBracket => "Only '.' or '[' may follow ']' in format field specifier"
  | .bracketUnended => "Missing ']' in format string"
  | .noAttribute owner name =>
    s!"{String.ofList owner} has no attribute '{String.ofList name}'"
  | .indexRange => "string index out of range"
  | .indexNotNumber => "string indices must be integers, not 'str'"
  | .unknownConversion c => "Unknown conversion specifier " ++ shownChar 126 c
  | .bothSeparators => "Cannot specify both ',' and '_'."
  | .separatorWith separator type =>
    s!"Cannot specify '{separator}' with '{shownChar 127 type}'."
  | .precisionMissing => "Format specifier missing precision"
  | .invalidFormat format =>
    s!"Invalid format specifier '{String.ofList format}' for object of type 'str'"
  | .unknownType c => s!"Unknown format code '{shownChar 127 c}' for object of type 'str'"
  | .sign => "Sign not allowed in string format specifier"
  | .signSpace => "Space not allowed in string format specifier"
  | .negativeZero => "Negative zero coercion (z) not allowed in string format specifier"
  | .alternateForm => "Alternate form (#) not allowed in string format specifier"
  | .numberAlignment => "'=' alignment not allowed in string format specifier"
  | .foreign _ message => String.ofList message

/-- A part that is taken of a value. -/
inductive Part
  /-- The part of a name. -/
  | attribute (name : Text)
  /-- The part in a place. -/
  | place (i : Nat)
  /-- The part of a key. -/
  | item (key : Text)
  deriving DecidableEq, Repr

/-- What texts have for parts beside their characters, and what these have, as far as a template can
tell. The parts are those taken one after another, the first one by its name. -/
structure Attributes where
  /-- Why the last of the parts is not there, if it is not. -/
  fault? (t : Text) (parts : List Part) : Option TemplateError
  /-- The last of the parts after a conversion that is known. -/
  converted (t : Text) (parts : List Part) (conversion : Char) : Except TemplateError Text
  /-- The last of the parts in a format. -/
  formatted (t : Text) (parts : List Part) (format : Text) : Except TemplateError Text

/-- A template, for the values that a system has. -/
structure Template where
  source : Text
  attributes : Attributes

namespace Template

/-- A field: its name with the parts taken of it, its conversion and its format. -/
structure Field where
  name : Text
  conversion : Option Char
  format : Text
  deriving DecidableEq, Repr

/-- A piece of a template. -/
inductive Piece
  /-- Characters that stand for themselves. -/
  | literal (t : Text)
  /-- A field. -/
  | field (f : Field)
  /-- The template cannot be read any further. -/
  | fault (e : TemplateError)
  deriving DecidableEq, Repr

/-- The name of a field, the character that ends it, and the rest. Inside brackets no character ends
the name. -/
def scanName : Bool → Text → Except TemplateError (Text × Char × Text)
  | _, [] => .error .nameUnended
  | inBracket, c :: rest =>
    if inBracket then
      (scanName (c != ']') rest).map fun (name, last, rest) => (c :: name, last, rest)
    else if c = '{' then .error .openInName
    else if c = '}' || c = ':' || c = '!' then .ok ([], c, rest)
    else (scanName (c = '[') rest).map fun (name, last, rest) => (c :: name, last, rest)

/-- The format of a field, up to the brace that closes the field; fields inside it may be nested
`depth` deep already. -/
def scanFormat : Nat → Text → Except TemplateError (Text × Text)
  | _, [] => .error .formatUnended
  | depth, c :: rest =>
    if c = '{' then (scanFormat (depth + 1) rest).map fun (t, rest) => (c :: t, rest)
    else if c = '}' then
      match depth with
      | 0 => .ok ([], rest)
      | depth + 1 => (scanFormat depth rest).map fun (t, rest) => (c :: t, rest)
    else (scanFormat depth rest).map fun (t, rest) => (c :: t, rest)

/-- A field after its opening brace, and the rest. -/
def scanField (t : Text) : Except TemplateError (Field × Text) := do
  let (name, last, rest) ← scanName false t
  if last = '}' then return (⟨name, none, []⟩, rest)
  if last = ':' then
    let (format, rest) ← scanFormat 0 rest
    return (⟨name, none, format⟩, rest)
  match rest with
  | [] => .error .conversionMissing
  | c :: '}' :: rest => return (⟨name, some c, []⟩, rest)
  | c :: ':' :: rest =>
    let (format, rest) ← scanFormat 0 rest
    return (⟨name, some c, format⟩, rest)
  | [_] => .error .formatUnended
  | _ :: _ :: _ => .error .colonMissing

/-- The pieces of a template of at most `fuel` characters. -/
def piecesWithin : Nat → Text → List Piece
  | 0, _ => []
  | _ + 1, [] => []
  | fuel + 1, c :: rest =>
    if c = '}' then
      match rest with
      | '}' :: rest => .literal ['}'] :: piecesWithin fuel rest
      | _ => [.fault .loneClose]
    else if c = '{' then
      match rest with
      | [] => [.fault .loneOpen]
      | '{' :: rest => .literal ['{'] :: piecesWithin fuel rest
      | _ => match scanField rest with
        | .ok (f, rest) => .field f :: piecesWithin fuel rest
        | .error e => [.fault e]
    else .literal [c] :: piecesWithin fuel rest

/-- The pieces of a template. -/
def pieces (t : Text) : List Piece :=
  piecesWithin t.length t

/-- The greatest number that a field may hold. -/
def greatestNumber : Nat := Nat.pow 2 63 - 1

/-- A text of digits as a number; none if it is empty or has other characters. -/
def number? (t : Text) : Except TemplateError (Option Nat) :=
  if t.isEmpty || !t.all isDigitChar then .ok none
  else if greatestNumber < digitsValue t then .error .tooManyDigits
  else .ok (some (digitsValue t))

/-- What a field stands for: a text, or, after some parts, what they come to. -/
structure Subject where
  text : Text
  parts : List Part := []
  deriving DecidableEq, Repr

section Parts

variable (attributes : Attributes)

/-- A part of a subject. -/
def Subject.take (subject : Subject) (part : Part) : Except TemplateError Subject :=
  match subject.parts, part with
  | [], .place i => match subject.text[i]? with
    | none => .error .indexRange
    | some c => .ok { text := [c] }
  | [], .item _ => .error .indexNotNumber
  | parts, part => match attributes.fault? subject.text (parts ++ [part]) with
    | some e => .error e
    | none => .ok { subject with parts := parts ++ [part] }

/-- The parts taken of a subject, one after another. -/
def takeParts : Nat → Text → Subject → Except TemplateError Subject
  | 0, _, subject => .ok subject
  | _ + 1, [], subject => .ok subject
  | fuel + 1, c :: rest, subject =>
    if c = '.' then do
      let name := rest.takeWhile fun c => c != '.' && c != '['
      if name.isEmpty then .error .emptyPart
      let subject ← subject.take attributes (.attribute name)
      takeParts fuel (rest.dropWhile fun c => c != '.' && c != '[') subject
    else if c = '[' then
      let name := rest.takeWhile (· != ']')
      match rest.dropWhile (· != ']') with
      | [] => .error .bracketUnended
      | _ :: rest => do
        let index ← number? name
        if name.isEmpty then .error .emptyPart
        let subject ← subject.take attributes (match index with
          | none => .item name
          | some i => .place i)
        takeParts fuel rest subject
    else .error .strayAfterBracket

/-- What a field names. -/
def lookUp (values : List (Text × Text)) (name : Text) : Except TemplateError Subject := do
  let first := name.takeWhile fun c => c != '.' && c != '['
  let parts := name.dropWhile fun c => c != '.' && c != '['
  if first.isEmpty then .error (.positional 0)
  match ← number? first with
  | some index => .error (.positional index)
  | none => match values.lookup first with
    | none => .error (.unknownName first)
    | some value => takeParts attributes parts.length parts { text := value }

/-- The subject after a conversion, which makes it a text. -/
def Subject.convert (subject : Subject) : Option Char → Except TemplateError Subject
  | none => .ok subject
  | some c =>
    if !"sra".toList.contains c then .error (.unknownConversion c)
    else match subject.parts with
      | [] => .ok { text :=
          if c = 'r' then subject.text.literal
          else if c = 'a' then subject.text.asciiLiteral
          else subject.text }
      | parts => (attributes.converted subject.text parts c).map fun t => { text := t }

end Parts

/-- How a text is cut and filled up. -/
structure Layout where
  fill : Char
  align : Char
  width : Nat
  precision : Option Nat
  deriving DecidableEq, Repr

/-- A character that says on which side a text is filled up. -/
def isAlignment (c : Char) : Bool :=
  c = '<' || c = '>' || c = '^' || c = '='

/-- The fill character and the alignment at the front of a format, and the rest. -/
def scanAlignment : Text → Option Char × Option Char × Text
  | fill :: align :: rest =>
    if isAlignment align then (some fill, some align, rest)
    else if isAlignment fill then (none, some fill, align :: rest)
    else (none, none, fill :: align :: rest)
  | [c] => if isAlignment c then (none, some c, []) else (none, none, [c])
  | [] => (none, none, [])

/-- Whether a format starts with the character, and the rest after it. -/
def scanMark (mark : Char) : Text → Bool × Text
  | [] => (false, [])
  | c :: rest => if c = mark then (true, rest) else (false, c :: rest)

/-- The number at the front of a format, and the rest. -/
def scanNumber (t : Text) : Except TemplateError (Option Nat × Text) :=
  (number? (t.takeWhile isDigitChar)).map fun n => (n, t.dropWhile isDigitChar)

/-- The group separator of a format, and the rest. -/
def scanSeparator (t : Text) : Except TemplateError (Option Char × Text) := do
  let (comma, t) := scanMark ',' t
  let (line, t) := scanMark '_' t
  if comma && line then .error .bothSeparators
  if line && (scanMark ',' t).1 then .error .bothSeparators
  return (if comma then some ',' else if line then some '_' else none, t)

/-- A separator goes with the types of numbers only. -/
def checkSeparator (separator : Option Char) (type : Char) : Except TemplateError Unit :=
  match separator with
  | none => .ok ()
  | some c =>
    if "defgEG%F".toList.contains type || (c = '_' && "boxX".toList.contains type) then .ok ()
    else .error (.separatorWith c type)

/-- Reads a format that is not empty. -/
def readLayout (format : Text) : Except TemplateError Layout := do
  let (fill, align, t) := scanAlignment format
  let (plus, t) := scanMark '+' t
  let (minus, t) := if plus then (false, t) else scanMark '-' t
  let (space, t) := if plus || minus then (false, t) else scanMark ' ' t
  let (zero, t) := scanMark 'z' t
  let (alternate, t) := scanMark '#' t
  let (zeros, t) := if fill.isSome then (false, t) else scanMark '0' t
  let (width, t) ← scanNumber t
  let (separator, t) ← scanSeparator t
  let (point, t) := scanMark '.' t
  let (precision, t) ← if point then scanNumber t else pure (none, t)
  if point && precision.isNone then .error .precisionMissing
  let type ← match t with
    | [] => pure 's'
    | [c] => pure c
    | _ => .error (.invalidFormat format)
  checkSeparator separator type
  if type != 's' then .error (.unknownType type)
  if space then .error .signSpace
  if plus || minus then .error .sign
  if zero then .error .negativeZero
  if alternate then .error .alternateForm
  if align = some '=' then .error .numberAlignment
  return ⟨fill.getD (if zeros then '0' else ' '), align.getD '<', width.getD 0, precision⟩

/-- A text cut and filled up. -/
def Layout.apply (layout : Layout) (value : Text) : Text :=
  let value := match layout.precision with
    | some n => value.take n
    | none => value
  let missing := layout.width - value.length
  let before :=
    if layout.align = '>' then missing
    else if layout.align = '^' then missing / 2
    else 0
  List.replicate before layout.fill ++ value ++ List.replicate (missing - before) layout.fill

/-- A text in a format. -/
def applyFormat (format value : Text) : Except TemplateError Text :=
  if format.isEmpty then .ok value else (readLayout format).map fun layout => layout.apply value

section Filled

variable (attributes : Attributes)

/-- A subject in a format. -/
def Subject.format (subject : Subject) (format : Text) : Except TemplateError Text :=
  match subject.parts with
  | [] => applyFormat format subject.text
  | parts => attributes.formatted subject.text parts format

/-- The pieces of a template filled in, where fields may be nested `depth` deep. -/
def fill (values : List (Text × Text)) : Nat → List Piece → Except TemplateError Text
  | _, [] => .ok []
  | _, .fault e :: _ => .error e
  | depth, .literal t :: rest => (fill values depth rest).map (t ++ ·)
  | 0, .field f :: rest => do
    let subject ← lookUp attributes values f.name
    let subject ← subject.convert attributes f.conversion
    if f.format.contains '{' then .error .tooDeep
    let value ← subject.format attributes f.format
    return value ++ (← fill values 0 rest)
  | depth + 1, .field f :: rest => do
    let subject ← lookUp attributes values f.name
    let subject ← subject.convert attributes f.conversion
    let format ←
      if f.format.contains '{' then fill values depth (pieces f.format) else pure f.format
    let value ← subject.format attributes format
    return value ++ (← fill values (depth + 1) rest)
termination_by depth pieces => (depth, pieces.length)

end Filled

/-- The template filled in with the key of an object and the label of a value. -/
def format (template : Template) (key label : Text) : Except TemplateError Text :=
  fill template.attributes [("key".toList, key), ("label".toList, label)] 1
    (pieces template.source)

end Template

namespace Attributes

/-- What the program knows of a part. -/
inductive Known
  | text (t : Text)
  /-- The class of texts. -/
  | textClass
  deriving DecidableEq, Repr

/-- The names of the class of texts. -/
def classNames : List (Text × Text) := [
  ("__name__".toList, "str".toList),
  ("__qualname__".toList, "str".toList),
  ("__module__".toList, "builtins".toList)]

namespace Known

/-- A part of a part. -/
def take : Known → Part → Except TemplateError Known
  | text t, .place i => match t[i]? with
    | none => .error .indexRange
    | some c => .ok (text [c])
  | text _, .item _ => .error .indexNotNumber
  | text _, .attribute name =>
    if name = "__class__".toList then .ok textClass
    else .error (.noAttribute "'str' object".toList name)
  | textClass, .attribute name => match classNames.lookup name with
    | none => .error (.noAttribute "type object 'str'".toList name)
    | some t => .ok (text t)
  | textClass, _ => .error (.foreign false "type 'str' is not subscriptable".toList)

/-- How the class of texts is shown. -/
def shownClass : Text := "<class 'str'>".toList

/-- The part after a conversion. -/
def convert (conversion : Char) : Known → Text
  | text t =>
    if conversion = 'r' then t.literal else if conversion = 'a' then t.asciiLiteral else t
  | textClass => shownClass

/-- The part in a format. -/
def format (format : Text) : Known → Except TemplateError Text
  | text t => Template.applyFormat format t
  | textClass =>
    if format.isEmpty then .ok shownClass
    else .error (.foreign false "unsupported format string passed to type.__format__".toList)

end Known

/-- The last of the parts taken of a text. -/
def known (t : Text) (parts : List Part) : Except TemplateError Known :=
  parts.foldlM Known.take (.text t)

/-- The parts that the program knows itself. -/
def usual : Attributes where
  fault? t parts := match known t parts with
    | .error e => some e
    | .ok _ => none
  converted t parts conversion := (known t parts).map (·.convert conversion)
  formatted t parts format := known t parts >>= (·.format format)

end Attributes

end MarkedSheet
