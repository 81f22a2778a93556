import NativeProps.Schema.Annotation

/-!
# Writing schema data

* `Annotation.encode`, `Property.encode`: the JSON form of typed properties, with every member
  written out and each option as an object with its name.
-/

namespace NativeProps

/-- An option of an enumeration as an object. -/
def encodeOption (v : Value) : Value := .object [("name", v)]

mutual

/-- The JSON form of an annotation. -/
def Annotation.encode : Annotation → Value
  | .scalar s default => .object [("type", .string s.name), ("default", default)]
  | .native name => .object [("type", .string Tag.native.name), ("name", name.toValue)]
  | .stringEnum default options =>
    .object [("type", .string Tag.stringEnum.name), ("default", default),
      ("options", .array (options.map encodeOption))]
  | .array element =>
    .object [("type", .string Tag.array.name), ("elementType", element.encode)]
  | .object properties =>
    .object [("type", .string Tag.object.name), ("properties", .array (encodeEach properties))]
  | .raw v => v

/-- The JSON form of properties. -/
def encodeEach : List Property → List Value
  | [] => []
  | p :: rest => p.encode :: encodeEach rest

/-- The JSON form of a property. -/
def Property.encode : Property → Value
  | ⟨name, annotation, optional⟩ =>
    .object [("name", name), ("optional", .bool optional), ("typeAnnotation", annotation.encode)]

end

end NativeProps
