import NativeProps.Failure
import NativeProps.Text.Split
import NativeProps.Text.Upper

/-!
# Identifiers

Schema names are segments between hyphens (`resize-mode`); identifiers run the segments together,
each with its first character in upper case (`ResizeMode`).

* `pascal?`: the identifier fragment of a name, none if a segment is empty.
* `fragment`, `fragmentOf`: the same for a text and for any value, with the failure.
* `structName`, `enumName`, `maskName`: the names of the types declared for a component.
-/

namespace NativeProps

/-- The segments of a name. -/
def segments (name : List Char) : List (List Char) := Text.splitOn '-' name

/-- The fragment of a name. -/
def pascal? (name : List Char) : Option (List Char) :=
  if (segments name).all (· ≠ []) then some ((segments name).flatMap Text.capitalize) else none

/-- The fragment of a name, or the fault of its empty segment. -/
def fragment (name : String) : Except Failure String :=
  match pascal? name.toList with
  | some cs => .ok (String.ofList cs)
  | none => .error (.fault (.emptySegment name))

/-- The fragment of a value, which has to be a text. -/
def fragmentOf : Value → Except Failure String
  | .string name => fragment name
  | v => .error (.misuse (.lacks v.kind "split"))

@[simp] theorem fragmentOf_string (name : String) : fragmentOf (.string name) = fragment name := rfl

/-- A word with its first character in upper case. A value that is no text has no such form; which
operation it lacks depends on what its first part is. -/
def capitalized (v : Value) : Except Failure String :=
  if v.isTrue then
    match v with
    | .string s => .ok (String.ofList (Text.capitalize s.toList))
    | .array (.string _ :: _) => .error (.misuse .notJoined)
    | .array (first :: _) => .error (.misuse (.lacks first.kind "upper"))
    | .object _ => .error (.misuse .noFirstMember)
    | v => .error (.misuse (.notIndexed v.kind))
  else .error (.fault .emptyWord)

/-! ### Names of declared types -/

/-- The name of the structure of a component for the properties named by `parts`. -/
def structName (component : String) (parts : List Value) : Except Failure String := do
  let fragments ← parts.mapM fragmentOf
  return component ++ String.join fragments ++ "Struct"

/-- The name of the structure of a component for the parts of a sequence. -/
def structNameOf (component : String) (parts : Value) : Except Failure String :=
  match parts.elements? with
  | some parts => structName component parts
  | none => .error (.misuse (.notSequence parts.kind))

/-- The name of the enumeration of a component for a property. -/
def enumName (component : String) (property : Value) : Except Failure String := do
  return component ++ (← fragmentOf property)

/-- The name of the bit mask of an enumeration. -/
def maskName (enumeration : String) : String := enumeration ++ "Mask"

end NativeProps
