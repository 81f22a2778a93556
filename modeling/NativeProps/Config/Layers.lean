import NativeProps.Config.Basic
import NativeProps.Failure
import NativeProps.Text.Blank

/-!
# Layered configurations

A configuration is put together from layers of members, of which the upper ones win.

* `Config.winner?`: the value that the layers give a key.
* `Config.unknownKeys`: the keys of the layers that are no field, sorted, each once.
* `Config.merge`: the defaults, the members of a file and the overrides in one configuration.
  Unknown keys are reported before values, and the first bad value in field order before others.
* `Config.overrides`: the overrides that a value gives: the members of an object, or pairs.
-/

namespace NativeProps.Config

/-- The value of a key in the uppermost layer that has it. -/
def winner? (layers : List Members) (key : String) : Option Value :=
  layers.findSome? fun layer => layer.lookup key

@[simp] theorem winner?_nil (key : String) : winner? [] key = none := rfl

theorem winner?_cons (layer : Members) (layers : List Members) (key : String) :
    winner? (layer :: layers) key = (layer.lookup key).or (winner? layers key) := by
  rw [winner?, List.findSome?_cons]
  cases layer.lookup key <;> rfl

/-- The keys of the layers that are no field of a configuration. -/
def unknownKeys (layers : List Members) : List String :=
  let keys := layers.flatMap fun layer => layer.map Prod.fst
  ((keys.filter fun key => (Field.ofKey? key).isNone).eraseDups).mergeSort
    fun a b => decide (a ≤ b)

/-- A value that a field can have: a text that is not blank. -/
def fieldText? : Value → Option String
  | .string s => if Text.isBlankText s then none else some s
  | _ => none

/-- The text that the layers give a field above the defaults. -/
def settle (defaults : Config) (layers : List Members) (f : Field) : Except Failure String :=
  match fieldText? ((winner? layers f.key).getD (.string (defaults.get f))) with
  | some s => .ok s
  | none => .error (.fault (.config (.invalidValue f.key)))

/-- One configuration from the defaults, a file and overrides. -/
def merge (defaults : Config) (file overrides : Members) : Except Failure Config :=
  let layers := [overrides, file]
  match unknownKeys layers with
  | [] => do
    return {
      boolType := ← settle defaults layers .boolType
      stringType := ← settle defaults layers .stringType
      intType := ← settle defaults layers .intType
      doubleType := ← settle defaults layers .doubleType
      floatType := ← settle defaults layers .floatType
      imageSourceHeader := ← settle defaults layers .imageSourceHeader }
  | keys => .error (.fault (.config (.unknownKeys keys)))

/-! ### Overrides -/

/-- A key and a value from a sequence of two at a place among the overrides. A key can be anything
that is not itself a collection. -/
def overridePair (v : Value) (place : Nat) : Except Failure (Value × Value) :=
  match v.elements? with
  | none => .error (.misuse (.overrideNotSequence place))
  | some [.array _, _] => .error (.misuse (.keyNotHashable .array))
  | some [.object _, _] => .error (.misuse (.keyNotHashable .object))
  | some [key, v] => .ok (key, v)
  | some parts => .error (.misuse (.overrideNotPair place parts.length))

/-- The member of a pair whose key is a text. -/
def overrideMember : Value × Value → Except Failure (String × Value)
  | (.string key, v) => .ok (key, v)
  | _ => .error (.misuse .keyNotText)

/-- The overrides that a value gives. False values give none; of repeated keys the last counts. -/
def overrides (v : Value) : Except Failure Members :=
  if v.isTrue then
    match v with
    | .object members => .ok members
    | _ =>
      match v.elements? with
      | none => .error (.misuse (.notSequence v.kind))
      | some elements => do
        let pairs ← elements.zipIdx.mapM fun (v, place) => overridePair v place
        return (← pairs.mapM overrideMember).reverse
  else .ok []

end NativeProps.Config
