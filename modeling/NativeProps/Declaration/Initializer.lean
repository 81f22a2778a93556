import NativeProps.Declaration.Identifier
import NativeProps.Number.Numeral
import NativeProps.Outcome
import NativeProps.Schema.Annotation

/-!
# Initializers

The text that initializes a property with its default. An empty text means that nothing is written.

* `Value.toDouble`: the double that a value stands for; whole numbers are rounded.
* `floatingLiteral`: the floating literal of a value.
* `initializer`: the initializer of a property.
-/

namespace NativeProps

/-- What an option holds, or the misuse of its holding nothing. -/
def orMisuse {α : Type} (m : Misuse) : Option α → Except Failure α
  | some a => .ok a
  | none => .error (.misuse m)

/-- The double that a value stands for. -/
def Value.toDouble : Value → Except Failure Double
  | .float x => .ok x
  | .bool b => .ok (if b then .ofQuotient false Double.one 1 else .zero)
  | .int n => orMisuse .outOfRange (Double.ofInt? n)
  | .string s => orMisuse (.notNumeral s) (Double.ofText? s)
  | v => .error (.misuse (.notNumber v.kind))

/-- The floating literal of a value. -/
def floatingLiteral (v : Value) : Except Failure String := do
  return (← v.toDouble).literal

/-- A member of the enumeration of a property. -/
def enumMember (component : String) (property member : Value) : Except Failure String := do
  let enumeration ← enumName component property
  return enumeration ++ "::" ++ (← fragmentOf member)

/-- The default that a need cannot do without. -/
def requireDefault (need : Need) (property : Value) : Value → Except Failure Value
  | .null => .error (.fault (.missingDefault need property))
  | v => .ok v

/-- The initializer of a scalar property. -/
def scalarInitializer (s : Scalar) (property default : Value) : Except Failure String :=
  match s with
  | .boolean => .ok (if default.isTrue then "true" else "false")
  | .string =>
    match default with
    | .null => .ok ""
    | v => .ok ("\"" ++ v.text ++ "\"")
  | .int32 => do return (← requireDefault (.scalar s) property default).text
  | .double | .float => do floatingLiteral (← requireDefault (.scalar s) property default)

/-- The initializer of a property of a component, by its annotation. -/
def initializerOf (component : String) (property : Value) : Annotation → Outcome String
  | .scalar s default => scalarInitializer s property default
  | .native name =>
    match name.primitive? with
    | some _ => return ""
    | none => .fault (.unknownPrimitive name.toValue)
  | .array (.stringEnum default _) => do
    let member ← requireDefault .enumArray property default
    let mask := maskName (← enumName component property)
    return "static_cast<" ++ mask ++ ">(" ++ (← enumMember component property member) ++ ")"
  | .array _ => return ""
  | .object _ => return ""
  | .stringEnum default _ => do
    enumMember component property (← requireDefault .stringEnum property default)
  | .raw v => do
    .log .error .defaults
      ("Cannot render default for " ++ component ++ "." ++ property.text ++ ": " ++ v.literal)
    .fault (.unknownType v)

/-- The initializer of a property of a component. -/
def initializer (component : String) (p : Property) : Outcome String := do
  .log .debug .defaults ("Rendering default for " ++ component ++ "." ++ p.name.text)
  initializerOf component p.name p.type

end NativeProps
