import NativeProps.Config.Basic
import NativeProps.Declaration.Identifier
import NativeProps.Outcome
import NativeProps.Schema.Annotation

/-!
# Declared types

* `Annotation.tagValue`: what an annotation gives as its tag.
* `scalarTypeOf`: the type name of a scalar tag; no other value has one.
* `declaredType`: the type that a property is declared with. Native primitives and arrays of
  anything but enumerations have none here.
-/

namespace NativeProps

/-- The tag of an annotation as a value; a raw value is its own tag. -/
def Annotation.tagValue : Annotation → Value
  | .raw v => v
  | .scalar s _ => .string s.name
  | .native _ => .string Tag.native.name
  | .stringEnum _ _ => .string Tag.stringEnum.name
  | .array _ => .string Tag.array.name
  | .object _ => .string Tag.object.name

/-- The scalar annotation whose name a value is. -/
def scalarOf? : Value → Option Scalar
  | .string s =>
    match Tag.ofName? s with
    | some (.scalar s) => some s
    | _ => none
  | _ => none

/-- The type name of a scalar tag. -/
def scalarTypeOf (c : Config) (tag : Value) : Outcome String :=
  match scalarOf? tag with
  | some s => return c.scalarType s
  | none => do
    .log .error .types ("No C++ type for typeAnnotation " ++ tag.literal)
    .fault (.unknownType tag)

/-- The type that a property of a component is declared with. -/
def declaredType (component : String) (c : Config) (p : Property) : Outcome (Option String) :=
  match p.type with
  | .stringEnum _ _ => do return some (← enumName component p.name)
  | .array (.stringEnum _ _) => do return some (maskName (← enumName component p.name))
  | .array _ => return none
  | .object _ => do return some (← structName component [p.name])
  | .native _ => return none
  | a => do return some (← scalarTypeOf c a.tagValue)

end NativeProps
