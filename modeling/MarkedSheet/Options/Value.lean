import MarkedSheet.Mapping
import MarkedSheet.Number.Integer
import MarkedSheet.Text.Literal

/-!
# Values of options

What an options file may give to an option. Every value counts as true or false, and some can be
taken as a whole number.
-/

namespace MarkedSheet

/-- A value in an options file. -/
inductive Value
  /-- No value. -/
  | null
  /-- A truth value. -/
  | truth (b : Bool)
  /-- A whole number. -/
  | whole (i : Int)
  /-- A number with a fraction or an exponent. -/
  | real (x : Double)
  /-- A text. -/
  | text (t : Text)
  /-- A list of values. -/
  | list (items : List Value)
  /-- Values with names, in the order in which the names first came. -/
  | object (members : List (Text × Value))
  deriving Inhabited, Repr

/-- Why a value cannot be taken as a whole number. -/
inductive IntegerError
  /-- The text is no numeral of a whole number. -/
  | notNumeral (t : Text)
  /-- The number is none. -/
  | notNumber
  /-- The number is infinite. -/
  | infinite
  /-- The value is neither a number nor a text. -/
  | wrongType (name : String)
  deriving DecidableEq, Repr

/-- The description of an error. -/
def IntegerError.message : IntegerError → String
  | .notNumeral t => s!"invalid literal for int() with base 10: {String.ofList t.literal}"
  | .notNumber => "cannot convert float NaN to integer"
  | .infinite => "cannot convert float infinity to integer"
  | .wrongType name =>
    s!"int() argument must be a string, a bytes-like object or a real number, not '{name}'"

/-- The whole number next to a double towards zero. -/
def Double.truncate : Double → Except IntegerError Int
  | .nan => .error .notNumber
  | .signed _ .infinite => .error .infinite
  | .signed negative x => .ok (if negative then -(x.wholePart : Int) else x.wholePart)

namespace Value

/-- The name of the type of a value. -/
def typeName : Value → String
  | null => "NoneType"
  | truth _ => "bool"
  | whole _ => "int"
  | real _ => "float"
  | text _ => "str"
  | list _ => "list"
  | object _ => "dict"

/-- The value counts as true: it is neither empty nor zero. -/
def isTrue : Value → Bool
  | null => false
  | truth b => b
  | whole i => i != 0
  | real (.signed _ (.finite 0 _)) => false
  | real _ => true
  | text t => !t.isEmpty
  | list items => !items.isEmpty
  | object members => !members.isEmpty

/-- The value as a whole number. -/
def toInt : Value → Except IntegerError Int
  | truth b => .ok (if b then 1 else 0)
  | whole i => .ok i
  | real x => x.truncate
  | text t => match readInt? t with
    | some i => .ok i
    | none => .error (.notNumeral t)
  | v => .error (.wrongType v.typeName)

/-- How a value that does not count as true is shown. -/
def emptyText : Value → Text
  | null => "None".toList
  | truth _ => "False".toList
  | whole _ => "0".toList
  | real (.signed true _) => "-0.0".toList
  | real _ => "0.0".toList
  | text _ => []
  | list _ => ['[', ']']
  | object _ => ['{', '}']

end Value

end MarkedSheet
