import NativeProps.Declaration.Initializer
import NativeProps.Declaration.TypeName

/-!
# Summaries

* `Summary`: what is derived from a property: its tag, its declared type and its initializer.
* `describe`: the summary of each property of a component, in order.
-/

namespace NativeProps

/-- What is derived from a property. -/
structure Summary where
  name : Value
  tag : Tag
  type? : Option String
  initializer : String
  deriving Repr

/-- The summary of a property. The tag is looked at before the type, and the type before the
initializer. -/
def Property.summary (component : String) (c : Config) (p : Property) : Outcome Summary :=
  match p.type.tag? with
  | none => .misuse (.lacks p.type.tagValue.kind "type")
  | some tag => do
    let type? ← declaredType component c p
    let text ← initializer component p
    return ⟨p.name, tag, type?, text⟩

/-- The summaries of properties. -/
def describe (component : String) (c : Config) : List Property → Outcome (List Summary)
  | [] => return []
  | p :: rest => do
    let summary ← p.summary component c
    return summary :: (← describe component c rest)

end NativeProps
