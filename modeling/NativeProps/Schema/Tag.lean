/-!
# Annotation tags

The names by which a schema tells the variants of a type annotation apart.

* `Scalar`: the annotations of a single value.
* `Tag`: all nine variants, with `Tag.name` and `Tag.ofName?`.
* `Primitive`: the platform types that a native primitive can name, with `Primitive.name` and
  `Primitive.ofName?`.
-/

namespace NativeProps

/-- An annotation of a single value. -/
inductive Scalar where
  | boolean
  | string
  | int32
  | double
  | float
  deriving DecidableEq, Repr

/-- The name of a scalar annotation. -/
def Scalar.name : Scalar → String
  | .boolean => "BooleanTypeAnnotation"
  | .string => "StringTypeAnnotation"
  | .int32 => "Int32TypeAnnotation"
  | .double => "DoubleTypeAnnotation"
  | .float => "FloatTypeAnnotation"

/-- A variant of type annotation. -/
inductive Tag where
  | scalar (s : Scalar)
  | native
  | stringEnum
  | array
  | object
  deriving DecidableEq, Repr

namespace Tag

/-- The name of a variant. -/
def name : Tag → String
  | .scalar s => s.name
  | .native => "NativePrimitiveTypeAnnotation"
  | .stringEnum => "StringEnumTypeAnnotation"
  | .array => "ArrayTypeAnnotation"
  | .object => "ObjectTypeAnnotation"

/-- All variants. -/
def all : List Tag :=
  [.scalar .boolean, .scalar .string, .scalar .int32, .scalar .double, .scalar .float, .native,
    .stringEnum, .array, .object]

/-- The variant of a name. -/
def ofName? (s : String) : Option Tag := all.find? fun t => t.name == s

theorem mem_all (t : Tag) : t ∈ all := by
  rcases t with ⟨⟨⟩⟩ | _ | _ | _ | _ <;> decide

@[simp] theorem ofName?_name (t : Tag) : ofName? t.name = some t := by
  rcases t with ⟨⟨⟩⟩ | _ | _ | _ | _ <;> decide

theorem name_of_ofName? {s : String} {t : Tag} (h : ofName? s = some t) : t.name = s := by
  simpa using List.find?_some h

end Tag

/-- A platform type with native code of its own. -/
inductive Primitive where
  | color
  | point
  | imageSource
  deriving DecidableEq, Repr

namespace Primitive

/-- The name of a primitive in a schema. -/
def name : Primitive → String
  | .color => "ColorPrimitive"
  | .point => "PointPrimitive"
  | .imageSource => "ImageSourcePrimitive"

/-- All primitives. -/
def all : List Primitive := [.color, .point, .imageSource]

/-- The primitive of a name. -/
def ofName? (s : String) : Option Primitive := all.find? fun p => p.name == s

@[simp] theorem ofName?_name (p : Primitive) : ofName? p.name = some p := by
  cases p <;> decide

theorem name_of_ofName? {s : String} {p : Primitive} (h : ofName? s = some p) : p.name = s := by
  simpa using List.find?_some h

end Primitive

end NativeProps
