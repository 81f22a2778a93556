import NativeProps.Config.Basic
import NativeProps.Outcome
import NativeProps.Schema.Annotation

/-!
# Headers

The include statements that properties need for their native primitives. A primitive is seen where
it annotates a property or the elements of an array property, in the list itself and inside object
annotations.

* `headerOf`: the header of a primitive, if it needs one.
* `headers`: the headers of a list of properties, each once, in the order in which they are met.
-/

namespace NativeProps

/-- The header that a primitive needs. -/
def Primitive.header? (c : Config) : Primitive → Option String
  | .color => none
  | .point => none
  | .imageSource => some c.imageSourceHeader

/-- The header that a reference to a primitive needs. -/
def headerOf (c : Config) (name : PrimitiveRef) : Except Failure (Option String) :=
  match name.primitive? with
  | some p => .ok (p.header? c)
  | none => .error (.fault (.unknownPrimitive name.toValue))

/-- A known primitive in log records. -/
def Primitive.logText : Primitive → String
  | .color => "NativePrimitiveName.COLOR"
  | .point => "NativePrimitiveName.POINT"
  | .imageSource => "NativePrimitiveName.IMAGE_SOURCE"

/-- A reference to a primitive in log records. -/
def PrimitiveRef.logText : PrimitiveRef → String
  | .known p => p.logText
  | .value v => v.text

/-- The headers found so far and that of a primitive, unless it is among them. -/
def addHeader (c : Config) (name : PrimitiveRef) (found : List String) :
    Outcome (List String) := do
  match ← headerOf c name with
  | none => return found
  | some header =>
    if header ∈ found then return found
    else do
      .log .debug .headers ("Native primitive " ++ name.logText ++ " needs " ++ header)
      return found ++ [header]

mutual

/-- The headers found so far and those of an annotation. -/
def collectHeaders (c : Config) (found : List String) : Annotation → Outcome (List String)
  | .native name => addHeader c name found
  | .array (.native name) => addHeader c name found
  | .object properties => collectAllHeaders c found properties
  | _ => return found

/-- The headers found so far and those of properties. -/
def collectAllHeaders (c : Config) (found : List String) :
    List Property → Outcome (List String)
  | [] => return found
  | p :: rest => do
    let found ← collectPropertyHeaders c found p
    collectAllHeaders c found rest

/-- The headers found so far and those of a property. -/
def collectPropertyHeaders (c : Config) (found : List String) :
    Property → Outcome (List String)
  | ⟨_, annotation, _⟩ => collectHeaders c found annotation

end

/-- The headers that properties need. -/
def headers (c : Config) (properties : List Property) : Outcome (List String) :=
  collectAllHeaders c [] properties

end NativeProps
