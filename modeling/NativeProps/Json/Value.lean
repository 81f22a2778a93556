import NativeProps.Number.Notation
import NativeProps.Text.Quoted

/-!
# JSON values

* `Value`: a JSON value; whole numbers and floating-point numbers are told apart, and an object
  keeps its members in the order of their first appearance.
* `Value.kind`: the seven kinds of value and their names.
* `Value.isTrue`: the truth value of any value: zeros, empty texts, arrays and objects, and `null`
  are false.
* `Value.literal`: a value written out, texts quoted.
* `Value.text`: a value as it appears inside a sentence or an identifier, a text as itself.
* `Value.get?`: the member of an object.
* `Value.elements?`: the sequence that a value can be gone through as.
-/

namespace NativeProps

/-- A JSON value. -/
inductive Value where
  | null
  | bool (b : Bool)
  | int (n : Int)
  | float (x : Double)
  | string (s : String)
  | array (items : List Value)
  | object (members : List (String × Value))
  deriving Repr, Inhabited

/-- The members of an object. -/
abbrev Members := List (String × Value)

/-! ### Kinds -/

/-- The kind of a value. -/
inductive Kind where
  | null
  | bool
  | int
  | float
  | string
  | array
  | object
  deriving DecidableEq, Repr

/-- The name of a kind in messages. -/
def Kind.name : Kind → String
  | .null => "NoneType"
  | .bool => "bool"
  | .int => "int"
  | .float => "float"
  | .string => "str"
  | .array => "list"
  | .object => "dict"

namespace Value

/-- The kind of a value. -/
def kind : Value → Kind
  | .null => .null
  | .bool _ => .bool
  | .int _ => .int
  | .float _ => .float
  | .string _ => .string
  | .array _ => .array
  | .object _ => .object

/-- The truth value of a value. -/
def isTrue : Value → Bool
  | .null => false
  | .bool b => b
  | .int n => n != 0
  | .float x => !x.isZero
  | .string s => !s.isEmpty
  | .array items => !items.isEmpty
  | .object members => !members.isEmpty

/-! ### Written values -/

/-- The decimal digits of a whole number after its sign. -/
def intText (n : Int) : String :=
  String.ofList (Double.signText (decide (n < 0)) ++ Decimal.digitsOf n.natAbs)

/-- Texts with a comma and a space between neighbours. -/
def commaSeparated (texts : List String) : String := ", ".intercalate texts

mutual

/-- A value written out, with texts quoted. -/
def literal : Value → String
  | .null => "None"
  | .bool true => "True"
  | .bool false => "False"
  | .int n => intText n
  | .float x => x.text
  | .string s => Text.quoted s
  | .array items => "[" ++ commaSeparated (literals items) ++ "]"
  | .object members => "\x7b" ++ commaSeparated (memberLiterals members) ++ "\x7d"

/-- The items of an array written out. -/
def literals : List Value → List String
  | [] => []
  | v :: rest => literal v :: literals rest

/-- The members of an object written out. -/
def memberLiterals : List (String × Value) → List String
  | [] => []
  | (key, v) :: rest => (Text.quoted key ++ ": " ++ literal v) :: memberLiterals rest

end

/-- A value as part of a text: a text stands for itself, all else is written out. -/
def text : Value → String
  | .string s => s
  | v => v.literal

@[simp] theorem text_string (s : String) : text (.string s) = s := rfl

/-! ### Parts -/

/-- The member of an object with a key, if the value is an object that has one. -/
def get? (key : String) : Value → Option Value
  | .object members => members.lookup key
  | _ => none

@[simp] theorem get?_object (key : String) (members : Members) :
    get? key (.object members) = members.lookup key := rfl

/-- The sequence of a value: the items of an array, the characters of a text or the keys of an
object. Other values are no sequence. -/
def elements? : Value → Option (List Value)
  | .array items => some items
  | .string s => some (s.toList.map fun c => .string c.toString)
  | .object members => some (members.map fun m => .string m.1)
  | _ => none

end Value

end NativeProps
