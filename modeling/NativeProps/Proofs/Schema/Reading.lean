import NativeProps.Schema.Conversion

/-!
# Reading as a recursion on the members of objects

A reader of schema data searches an object for the members it goes on with. Here each search is a
lookup, and each reader an equation between results, so that later proofs never follow a search.

* `Value.induction_parts`: induction on a value through the values inside it.
* `readElement_eq`, `readNested_eq`, `readTyped_eq`: the searches as lookups.
* `HasTag`: the members of an object name a variant.
* `result_readType`, `result_readProperty`, `result_readProperties`: what a reader comes to.
-/

namespace NativeProps

theorem mem_of_lookup_eq_some {key : String} {v : Value} {members : Members}
    (h : members.lookup key = some v) : (key, v) ∈ members := by
  obtain ⟨before, after, rfl, -⟩ := List.lookup_eq_some_iff.mp h
  simp

/-- What holds of a value as soon as it holds of the values inside it. -/
theorem Value.induction_parts {motive : Value → Prop}
    (array : ∀ items : List Value, (∀ v ∈ items, motive v) → motive (.array items))
    (object : ∀ members : Members, (∀ key v, members.lookup key = some v → motive v) →
      motive (.object members))
    (plain : ∀ v : Value, v.kind ≠ .array → v.kind ≠ .object → motive v) (v : Value) :
    motive v := by
  -- on the size, since a lookup leads to a value that is no immediate part of the object
  induction h : sizeOf v using Nat.strongRecOn generalizing v with
  | ind n ih =>
    subst h
    cases v with
    | array items =>
      refine array items fun w hw => ih _ ?_ w rfl
      have := List.sizeOf_lt_of_mem hw
      simp only [Value.array.sizeOf_spec]
      omega
    | object members =>
      refine object members fun key w hw => ih _ ?_ w rfl
      have := List.sizeOf_lt_of_mem (mem_of_lookup_eq_some hw)
      simp only [Value.object.sizeOf_spec, Prod.mk.sizeOf_spec] at this ⊢
      omega
    | _ => exact plain _ (by simp [kind]) (by simp [kind])

namespace Schema

variable {members : Members}

/-! ### Searches -/

/-- A search through members for a key is a lookup. -/
theorem search_eq_lookup {α : Type} {key : String} {search : Members → α} {absent : α}
    {found : Value → α} (nil : search [] = absent)
    (cons : ∀ k v rest, search ((k, v) :: rest) = if k = key then found v else search rest)
    (members : Members) :
    search members = ((members.lookup key).map found).getD absent := by
  induction members with
  | nil => exact nil
  | cons m rest ih =>
    obtain ⟨k, v⟩ := m
    rw [cons, List.lookup_cons]
    by_cases h : k = key
    · simp [h]
    · have hb : (key == k) = false := by simpa using Ne.symm h
      simp [h, hb, ih]

theorem readElement_eq (members : Members) :
    readElement members = ((members.lookup "elementType").map readType).getD
      (.fault (.schema (.missingKey "elementType" (.variant .array)))) :=
  search_eq_lookup (by rw [readElement]) (fun _ _ _ => by rw [readElement]) members

theorem readNested_eq (members : Members) :
    readNested members = ((members.lookup "properties").map readProperties).getD
      (.fault (.schema (.missingKey "properties" (.variant .object)))) :=
  search_eq_lookup (by rw [readNested]) (fun _ _ _ => by rw [readNested]) members

theorem readTyped_eq (name : Value) (members : Members) :
    readTyped name members = ((members.lookup "typeAnnotation").map readType).getD
      (.fault (.schema (.missingKey "typeAnnotation" (.namedProperty name)))) :=
  search_eq_lookup (by rw [readTyped]) (fun _ _ _ => by rw [readTyped]) members

/-! ### Tags and names -/

theorem require_of_some {key : String} {v : Value} (place : Place)
    (h : members.lookup key = some v) : require key place members = .ok v := by
  rw [require, h]

theorem require_of_none {key : String} (place : Place) (h : members.lookup key = none) :
    require key place members = .error (.fault (.schema (.missingKey key place))) := by
  rw [require, h]

/-- The members of an object name a variant. -/
def HasTag (members : Members) (t : Tag) : Prop :=
  members.lookup "type" = some (.string t.name)

theorem result_readTag {t : Tag} (h : HasTag members t) : (readTag members).result = .ok t := by
  simp [readTag, Outcome.result_bind, require_of_some _ h, Except.bind]

theorem result_readTag_of_none (h : members.lookup "type" = none) :
    (readTag members).result = .error (.fault (.schema (.missingKey "type" .type))) := by
  simp [readTag, Outcome.result_bind, require_of_none _ h, Except.bind]

theorem result_readTag_of_unknown {v : Value} (h : members.lookup "type" = some v)
    (hv : ∀ t : Tag, v ≠ .string t.name) :
    (readTag members).result = .error (.fault (.unknownType v)) := by
  cases v with
  | string s =>
    cases hs : Tag.ofName? s with
    | none => simp [readTag, Outcome.result_bind, require_of_some _ h, Except.bind, hs]
    | some t => exact absurd (by rw [Tag.name_of_ofName? hs]) (hv t)
  | _ => simp [readTag, Outcome.result_bind, require_of_some _ h, Except.bind]

theorem readPrimitive_name (p : Primitive) : readPrimitive (.string p.name) = .ok p := by
  simp [readPrimitive, PrimitiveRef.primitive?]

theorem readPrimitive_of_unknown {v : Value} (hv : ∀ p : Primitive, v ≠ .string p.name) :
    readPrimitive v = .error (.fault (.unknownPrimitive v)) := by
  cases v with
  | string s =>
    cases hs : Primitive.ofName? s with
    | none => simp [readPrimitive, PrimitiveRef.primitive?, hs]
    | some p => exact absurd (by rw [Primitive.name_of_ofName? hs]) (hv p)
  | _ => rfl

/-! ### Results of readers -/

/-- What comes after the tag of an annotation. -/
theorem result_readType {t : Tag} (h : HasTag members t) :
    (readType (.object members)).result =
      match t with
      | .scalar s => .ok (.scalar s (readScalarDefault s members))
      | .native => (require "name" (.variant .native) members).bind fun name =>
          (readPrimitive name).map fun p => .native (.known p)
      | .stringEnum => (readOptions members).map (.stringEnum (readDefault members))
      | .array => (readElement members).result.map .array
      | .object => (readNested members).result.map .object := by
  rw [readType, Outcome.result_bind, result_readTag h]
  cases t <;> simp [Except.bind, Outcome.result_bind]

theorem result_readType_of_error {f : Failure} (h : (readTag members).result = .error f) :
    (readType (.object members)).result = .error f := by
  rw [readType, Outcome.result_bind, h]
  rfl

theorem readType_of_kind {v : Value} (h : v.kind ≠ .object) :
    readType v = .fault (.schema (.expectedObject .type v.kind)) := by
  cases v <;> simp [Value.kind, readType] at h ⊢

theorem result_readType_of_kind {v : Value} (h : v.kind ≠ .object) :
    (readType v).result = .error (.fault (.schema (.expectedObject .type v.kind))) := by
  rw [readType_of_kind h]
  rfl

theorem result_readProperty (members : Members) :
    (readProperty (.object members)).result =
      (require "name" .property members).bind fun name =>
        (readTyped name members).result.map fun a =>
          ⟨name, a, ((members.lookup "optional").getD (.bool false)).isTrue⟩ := by
  rw [readProperty, Outcome.result_bind]
  simp

theorem readProperty_of_kind {v : Value} (h : v.kind ≠ .object) :
    readProperty v = .fault (.schema (.expectedObject .property v.kind)) := by
  cases v <;> simp [Value.kind, readProperty] at h ⊢

theorem result_readProperty_of_kind {v : Value} (h : v.kind ≠ .object) :
    (readProperty v).result = .error (.fault (.schema (.expectedObject .property v.kind))) := by
  rw [readProperty_of_kind h]
  rfl

theorem result_readEach_cons (v : Value) (rest : List Value) :
    (readEach (v :: rest)).result =
      (readProperty v).result.bind fun p => (readEach rest).result.map (p :: ·) := by
  rw [readEach, Outcome.result_bind]
  simp

/-- The record that is written at the end of a list has no influence on its result. -/
theorem result_readProperties (items : List Value) :
    (readProperties (.array items)).result = (readEach items).result := by
  rw [readProperties, Outcome.result_bind]
  cases (readEach items).result <;> simp [Except.bind, Except.map]

theorem readProperties_of_kind {v : Value} (h : v.kind ≠ .array) :
    readProperties v = .fault (.schema (.expectedProperties v.kind)) := by
  cases v <;> simp [Value.kind, readProperties] at h ⊢

theorem result_readProperties_of_kind {v : Value} (h : v.kind ≠ .array) :
    (readProperties v).result = .error (.fault (.schema (.expectedProperties v.kind))) := by
  rw [readProperties_of_kind h]
  rfl

end Schema

end NativeProps
