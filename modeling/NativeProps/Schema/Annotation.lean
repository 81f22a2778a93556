import NativeProps.Json.Value
import NativeProps.Schema.Tag

/-!
# Typed properties

* `PrimitiveRef`: what a native primitive names: a known primitive or any other value.
* `Annotation`, `Property`: the type annotations of a schema and the properties that have them. The
  variant `Annotation.raw` is a value that stands where an annotation belongs.
* `Scalar.initial`: the default of a scalar annotation that gives none.
-/

namespace NativeProps

/-- What a native primitive names. -/
inductive PrimitiveRef where
  | known (p : Primitive)
  | value (v : Value)
  deriving Repr

namespace PrimitiveRef

/-- The primitive that is named; a text counts as the primitive of that name. -/
def primitive? : PrimitiveRef → Option Primitive
  | .known p => some p
  | .value (.string s) => Primitive.ofName? s
  | .value _ => none

@[simp] theorem primitive?_known (p : Primitive) : (known p).primitive? = some p := rfl

/-- The reference as a value. -/
def toValue : PrimitiveRef → Value
  | .known p => .string p.name
  | .value v => v

end PrimitiveRef

mutual

/-- The type annotation of a property. -/
inductive Annotation where
  | scalar (s : Scalar) (default : Value)
  | native (name : PrimitiveRef)
  | stringEnum (default : Value) (options : List Value)
  | array (element : Annotation)
  | object (properties : List Property)
  | raw (v : Value)

/-- A property of a component. -/
structure Property where
  name : Value
  type : Annotation
  optional : Bool := false

end

instance : Inhabited Annotation := ⟨.raw .null⟩

instance : Inhabited Property := ⟨⟨.null, .raw .null, false⟩⟩

deriving instance Repr for Annotation, Property

/-- The variant of an annotation. -/
def Annotation.tag? : Annotation → Option Tag
  | .scalar s _ => some (.scalar s)
  | .native _ => some .native
  | .stringEnum _ _ => some .stringEnum
  | .array _ => some .array
  | .object _ => some .object
  | .raw _ => none

/-- The default of a scalar annotation that gives none. -/
def Scalar.initial : Scalar → Value
  | .boolean => .bool false
  | .string => .null
  | .int32 => .int 0
  | .double => .float .zero
  | .float => .float .zero

end NativeProps
