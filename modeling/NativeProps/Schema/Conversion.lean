import NativeProps.Outcome
import NativeProps.Schema.Annotation

/-!
# Reading schema data

From the JSON form of a schema to typed properties. The readers of a member go through the members
of an object up to the one they look for, so that reading follows the structure of the data.

* `Schema.readType`, `Schema.readProperty`, `Schema.readProperties`: an annotation, a property
  and a list of properties.
* `Schema.readOptions`: the options of an enumeration, given as any sequence.
* `Schema.extractProperties`: the property list of a schema document.
-/

namespace NativeProps.Schema

/-- The member that is required at a place. -/
def require (key : String) (place : Place) (members : Members) : Except Failure Value :=
  match members.lookup key with
  | some v => .ok v
  | none => .error (.fault (.schema (.missingKey key place)))

/-- The primitive of a value. -/
def readPrimitive (name : Value) : Except Failure Primitive :=
  match (PrimitiveRef.value name).primitive? with
  | some p => .ok p
  | none => .error (.fault (.unknownPrimitive name))

/-- An option of an enumeration: an object stands for its name. -/
def readOption : Value → Except Failure Value
  | .object members =>
    match members.lookup "name" with
    | some name => .ok name
    | none => .error (.misuse .unnamedOption)
  | v => .ok v

/-- The options of an enumeration. -/
def readOptions (members : Members) : Except Failure (List Value) :=
  match members.lookup "options" with
  | none => .ok []
  | some options =>
    match options.elements? with
    | some elements => elements.mapM readOption
    | none => .error (.misuse (.notSequence options.kind))

/-- The default of an annotation, `null` if it gives none. -/
def readDefault (members : Members) : Value := (members.lookup "default").getD .null

/-- The default of a scalar annotation: without one, or with `null`, the initial one. -/
def readScalarDefault (s : Scalar) (members : Members) : Value :=
  match readDefault members with
  | .null => s.initial
  | v => v

/-- The variant that the tag of an annotation names. -/
def readTag (members : Members) : Outcome Tag := do
  let tag ← require "type" .type members
  let known? := match tag with
    | .string s => Tag.ofName? s
    | _ => none
  match known? with
  | some t => return t
  | none => do
    .log .error .schema ("Unknown typeAnnotation tag in schema input: " ++ tag.literal)
    .fault (.unknownType tag)

mutual

/-- Reads a type annotation. -/
def readType : Value → Outcome Annotation
  | .object members => do
    match ← readTag members with
    | .scalar s => return .scalar s (readScalarDefault s members)
    | .native => do
      let name ← require "name" (.variant .native) members
      return .native (.known (← readPrimitive name))
    | .stringEnum => return .stringEnum (readDefault members) (← readOptions members)
    | .array => return .array (← readElement members)
    | .object => return .object (← readNested members)
  | v => .fault (.schema (.expectedObject .type v.kind))

/-- Reads the annotation of the elements of an array. -/
def readElement : List (String × Value) → Outcome Annotation
  | [] => .fault (.schema (.missingKey "elementType" (.variant .array)))
  | (key, v) :: rest => if key = "elementType" then readType v else readElement rest

/-- Reads the properties of an object annotation. -/
def readNested : List (String × Value) → Outcome (List Property)
  | [] => .fault (.schema (.missingKey "properties" (.variant .object)))
  | (key, v) :: rest => if key = "properties" then readProperties v else readNested rest

/-- Reads a list of properties. -/
def readProperties : Value → Outcome (List Property)
  | .array items => do
    let properties ← readEach items
    .log .debug .schema
      ("Converted " ++ Value.intText properties.length ++ " properties")
    return properties
  | v => .fault (.schema (.expectedProperties v.kind))

/-- Reads properties one after the other. -/
def readEach : List Value → Outcome (List Property)
  | [] => return []
  | v :: rest => do
    let property ← readProperty v
    return property :: (← readEach rest)

/-- Reads a property. -/
def readProperty : Value → Outcome Property
  | .object members => do
    let name ← require "name" .property members
    let annotation ← readTyped name members
    return ⟨name, annotation, ((members.lookup "optional").getD (.bool false)).isTrue⟩
  | v => .fault (.schema (.expectedObject .property v.kind))

/-- Reads the annotation of the property of a name. -/
def readTyped (name : Value) : List (String × Value) → Outcome Annotation
  | [] => .fault (.schema (.missingKey "typeAnnotation" (.namedProperty name)))
  | (key, v) :: rest => if key = "typeAnnotation" then readType v else readTyped name rest

end

/-- The property list of a document: the document itself, or its member `props`. -/
def extractProperties : Value → Except Failure (List Value)
  | .array items => .ok items
  | v =>
    match v.get? "props" with
    | some (.array items) => .ok items
    | _ => .error (.fault (.source .noProperties))

end NativeProps.Schema
