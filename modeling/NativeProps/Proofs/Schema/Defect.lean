import Mathlib.Logic.Relation
import NativeProps.Proofs.Schema.Offence

/-!
# What is wrong where reading fails

The first offence of schema data lies in one part of it, at whatever depth, and only what is wrong
with that part itself decides how it is reported.

* `Part`, `LeadsTo`: the parts of schema data, and from which to which of them reading goes on.
* `Part.Misshapen`, `Part.Unknown`, `Part.BadOptions`: the defects of a part itself. A wrong kind or
  a missing key is a fault of the schema, a tag or a primitive without a meaning is unknown, and
  options that cannot be gone through are a misuse.
* `Part.offends_iff`: an offence is a defect of a part that is reached.
* `readProperties_reports`: reading fails with the defect that it reaches, and reports it as a
  schema problem unless it lies in the options of an enumeration.
-/

namespace NativeProps.Schema

/-! ### Parts -/

/-- Schema data with what it is read as. -/
inductive Part where
  | list (v : Value)
  | property (v : Value)
  | type (v : Value)

/-- Reading goes on from one part to another. In a list it comes to an element only behind elements
that follow the grammar. -/
inductive LeadsTo : Part → Part → Prop
  | element {xs zs : List Value} {y : Value} (before : ∀ x ∈ xs, PropertyForm x) :
      LeadsTo (.list (.array (xs ++ y :: zs))) (.property y)
  | type {members : Members} {n v : Value} (name : members.lookup "name" = some n)
      (type : members.lookup "typeAnnotation" = some v) :
      LeadsTo (.property (.object members)) (.type v)
  | elementType {members : Members} {v : Value} (tag : HasTag members .array)
      (element : members.lookup "elementType" = some v) :
      LeadsTo (.type (.object members)) (.type v)
  | properties {members : Members} {v : Value} (tag : HasTag members .object)
      (properties : members.lookup "properties" = some v) :
      LeadsTo (.type (.object members)) (.list v)

/-- Reading comes from one part to another. -/
def Reaches : Part → Part → Prop := Relation.ReflTransGen LeadsTo

namespace Part

/-! ### Defects -/

/-- A part of the wrong kind, or without a key that it has to have. -/
inductive Misshapen : Part → SchemaFault → Prop
  | list {v : Value} (h : v.kind ≠ .array) : Misshapen (.list v) (.expectedProperties v.kind)
  | property {v : Value} (h : v.kind ≠ .object) :
      Misshapen (.property v) (.expectedObject .property v.kind)
  | type {v : Value} (h : v.kind ≠ .object) : Misshapen (.type v) (.expectedObject .type v.kind)
  | noName {members : Members} (name : members.lookup "name" = none) :
      Misshapen (.property (.object members)) (.missingKey "name" .property)
  | noType {members : Members} {n : Value} (name : members.lookup "name" = some n)
      (type : members.lookup "typeAnnotation" = none) :
      Misshapen (.property (.object members)) (.missingKey "typeAnnotation" (.namedProperty n))
  | noTag {members : Members} (tag : members.lookup "type" = none) :
      Misshapen (.type (.object members)) (.missingKey "type" .type)
  | noPrimitive {members : Members} (tag : HasTag members .native)
      (name : members.lookup "name" = none) :
      Misshapen (.type (.object members)) (.missingKey "name" (.variant .native))
  | noElement {members : Members} (tag : HasTag members .array)
      (element : members.lookup "elementType" = none) :
      Misshapen (.type (.object members)) (.missingKey "elementType" (.variant .array))
  | noProperties {members : Members} (tag : HasTag members .object)
      (properties : members.lookup "properties" = none) :
      Misshapen (.type (.object members)) (.missingKey "properties" (.variant .object))

/-- An annotation with a tag, or a native primitive with a name, that has no meaning. -/
inductive Unknown : Part → Fault → Prop
  | tag {members : Members} {v : Value} (tag : members.lookup "type" = some v)
      (unknown : ∀ t : Tag, v ≠ .string t.name) :
      Unknown (.type (.object members)) (.unknownType v)
  | primitive {members : Members} {v : Value} (tag : HasTag members .native)
      (name : members.lookup "name" = some v) (unknown : ∀ p : Primitive, v ≠ .string p.name) :
      Unknown (.type (.object members)) (.unknownPrimitive v)

/-- An enumeration whose options are no sequence, or hold an object without a name. -/
inductive BadOptions : Part → Misuse → Prop
  | mk {members : Members} {m : Misuse} (tag : HasTag members .stringEnum)
      (offence : OptionsOffence (members.lookup "options") (.misuse m)) :
      BadOptions (.type (.object members)) m

/-- What is wrong with a part itself, and the failure that says so. -/
inductive Defect (part : Part) : Failure → Prop
  | misshapen {fault : SchemaFault} (h : part.Misshapen fault) :
      Defect part (.fault (.schema fault))
  | unknown {fault : Fault} (h : part.Unknown fault) : Defect part (.fault fault)
  | options {m : Misuse} (h : part.BadOptions m) : Defect part (.misuse m)

/-! ### Offences and defects -/

/-- The first offence of a part, as what it is read. -/
def Offends : Part → Failure → Prop
  | .list v => ListOffence v
  | .property v => PropertyOffence v
  | .type v => TypeOffence v

/-- A defect is the first offence of its part. -/
theorem Defect.offends {part : Part} {f : Failure} (h : part.Defect f) : part.Offends f := by
  cases h with
  | misshapen h =>
    cases h with
    | list h => exact ListOffence.kind h
    | property h => exact PropertyOffence.kind h
    | type h => exact TypeOffence.kind h
    | noName name => exact PropertyOffence.noName name
    | noType name type => exact PropertyOffence.noType name type
    | noTag tag => exact TypeOffence.noTag tag
    | noPrimitive tag name => exact TypeOffence.noPrimitive tag name
    | noElement tag element => exact TypeOffence.noElement tag element
    | noProperties tag properties => exact TypeOffence.noProperties tag properties
  | unknown h =>
    cases h with
    | tag tag unknown => exact TypeOffence.unknownTag tag unknown
    | primitive tag name unknown => exact TypeOffence.unknownPrimitive tag name unknown
  | options h =>
    cases h with
    | mk tag offence => exact TypeOffence.options tag offence

/-- The first offence of a part that reading goes on with is that of the part it comes from. -/
theorem offends_of_leadsTo {part next : Part} {f : Failure} (h : LeadsTo part next)
    (offence : next.Offends f) : part.Offends f := by
  cases h with
  | element before => exact ListOffence.element before offence
  | type name type => exact PropertyOffence.type name type offence
  | elementType tag element => exact TypeOffence.element tag element offence
  | properties tag properties => exact TypeOffence.properties tag properties offence

/-- A defect of a part that is reached. -/
def Meets (part : Part) (f : Failure) : Prop := ∃ reached, Reaches part reached ∧ reached.Defect f

theorem Defect.meets {part : Part} {f : Failure} (h : part.Defect f) : part.Meets f :=
  ⟨part, .refl, h⟩

theorem Meets.of_leadsTo {part next : Part} {f : Failure} (h : LeadsTo part next)
    (meets : next.Meets f) : part.Meets f := by
  obtain ⟨reached, way, defect⟩ := meets
  exact ⟨reached, .head h way, defect⟩

/-- The options of an enumeration offend only with a misuse. -/
theorem meets_of_options {members : Members} {f : Failure} (tag : HasTag members .stringEnum)
    (offence : OptionsOffence (members.lookup "options") f) :
    (Part.type (.object members)).Meets f := by
  have misuse : ∃ m, f = .misuse m := by
    generalize members.lookup "options" = options at offence
    cases offence with
    | kind notText notArray notObject => exact ⟨_, rfl⟩
    | unnamed mem name => exact ⟨_, rfl⟩
  obtain ⟨m, rfl⟩ := misuse
  exact (Defect.options (.mk tag offence)).meets

mutual

theorem meets_of_typeOffence {v : Value} {f : Failure} :
    TypeOffence v f → (Part.type v).Meets f
  | .kind h => (Defect.misshapen (.type h)).meets
  | .noTag tag => (Defect.misshapen (.noTag tag)).meets
  | .unknownTag tag unknown => (Defect.unknown (.tag tag unknown)).meets
  | .noPrimitive tag name => (Defect.misshapen (.noPrimitive tag name)).meets
  | .unknownPrimitive tag name unknown => (Defect.unknown (.primitive tag name unknown)).meets
  | .options tag offence => meets_of_options tag offence
  | .noElement tag element => (Defect.misshapen (.noElement tag element)).meets
  | .element tag element offence =>
    (meets_of_typeOffence offence).of_leadsTo (.elementType tag element)
  | .noProperties tag properties => (Defect.misshapen (.noProperties tag properties)).meets
  | .properties tag properties offence =>
    (meets_of_listOffence offence).of_leadsTo (.properties tag properties)

theorem meets_of_propertyOffence {v : Value} {f : Failure} :
    PropertyOffence v f → (Part.property v).Meets f
  | .kind h => (Defect.misshapen (.property h)).meets
  | .noName name => (Defect.misshapen (.noName name)).meets
  | .noType name absent => (Defect.misshapen (.noType name absent)).meets
  | .type name given offence => (meets_of_typeOffence offence).of_leadsTo (.type name given)

theorem meets_of_listOffence {v : Value} {f : Failure} :
    ListOffence v f → (Part.list v).Meets f
  | .kind h => (Defect.misshapen (.list h)).meets
  | .element before offence => (meets_of_propertyOffence offence).of_leadsTo (.element before)

end

/-- **The first offence of a part is a defect of a part that reading reaches from it.** -/
theorem offends_iff (part : Part) (f : Failure) : part.Offends f ↔ part.Meets f := by
  constructor
  · intro h
    cases part with
    | list v => exact meets_of_listOffence h
    | property v => exact meets_of_propertyOffence h
    | type v => exact meets_of_typeOffence h
  · rintro ⟨reached, way, defect⟩
    -- from the defect back along the way to it
    induction way using Relation.ReflTransGen.head_induction_on with
    | refl => exact defect.offends
    | head first _ ih => exact offends_of_leadsTo first ih

end Part

/-! ### Reports -/

theorem result_readProperties_error_iff_meets {data : Value} {f : Failure} :
    (readProperties data).result = .error f ↔ (Part.list data).Meets f :=
  result_readProperties_error_iff.trans (Part.offends_iff (.list data) f)

/-- A failure that says what is wrong with the schema: its shape, or a value it does not know. -/
inductive Problem : Failure → Prop
  | shape (fault : SchemaFault) : Problem (.fault (.schema fault))
  | unknown {f : Failure} (h : f.Unknown) : Problem f

theorem Part.Defect.problem {part : Part} {f : Failure} (h : part.Defect f)
    (noOptions : ∀ m, ¬part.BadOptions m) : Problem f := by
  cases h with
  | misshapen h => exact .shape _
  | unknown h =>
    cases h with
    | tag tag unknown => exact .unknown (.type _)
    | primitive tag name unknown => exact .unknown (.primitive _)
  | options h => exact absurd h (noOptions _)

theorem not_problem_misuse (m : Misuse) : ¬Problem (.misuse m) := by
  rintro (_ | ⟨⟨⟩⟩)

/-- **Reading fails with the defect that it reaches**, at whatever depth: with a fault of the schema
for a wrong kind or a missing key, and as unknown for a tag or a primitive without a meaning. All of
these say what is wrong with the schema. Only defects in the options of an enumeration do not. -/
theorem readProperties_reports (data : Value) :
    (∀ f, (readProperties data).result = .error f ↔
      ∃ part, Reaches (.list data) part ∧ part.Defect f) ∧
    ∀ f, (readProperties data).result = .error f →
      (Problem f ↔ ∀ part, Reaches (.list data) part → ∀ m, ¬part.BadOptions m) := by
  refine ⟨fun f => result_readProperties_error_iff_meets, fun f fails => ⟨?_, fun never => ?_⟩⟩
  · intro problem part way m bad
    -- there is one failure, and bad options that are reached make it a misuse
    have misuse := result_readProperties_error_iff_meets.2 ⟨part, way, .options bad⟩
    obtain rfl := Except.error.inj (fails.symm.trans misuse)
    exact not_problem_misuse m problem
  · obtain ⟨part, way, defect⟩ := result_readProperties_error_iff_meets.1 fails
    exact defect.problem (never part way)

/-- A key that is missing below the elements of an array is reported, whatever comes behind it. -/
theorem readProperties_reports_nested :
    let size : Value := .object [("name", .string "size")]
    let group : Value := .object [("type", .string "ObjectTypeAnnotation"),
      ("properties", .array [size, .null])]
    let data : Value := .array [.object [("name", .string "boxes"), ("typeAnnotation", .object
      [("type", .string "ArrayTypeAnnotation"), ("elementType", group)])]]
    let f : Failure := .fault
      (.schema (.missingKey "typeAnnotation" (.namedProperty (.string "size"))))
    (readProperties data).result = .error f ∧
      ∀ part, Reaches (.list data) part → ∀ m, ¬part.BadOptions m := by
  intro size group data f
  have fails : (readProperties data).result = .error f := rfl
  exact ⟨fails, ((readProperties_reports data).2 f fails).1 (.shape _)⟩

/-- Not every failure of reading says what is wrong with the schema: an option without a name is a
key that is missing, and ends in a misuse. -/
theorem readProperties_unnamed_option :
    ¬∀ (data : Value) (f : Failure), (readProperties data).result = .error f → Problem f := by
  intro h
  let fits : Value := .object [("type", .string "StringEnumTypeAnnotation"),
    ("options", .array [.object []])]
  let data : Value := .array [.object [("name", .string "fit"), ("typeAnnotation", fits)]]
  have fails : (readProperties data).result = .error (.misuse .unnamedOption) := rfl
  exact not_problem_misuse _ (h data _ fails)

end NativeProps.Schema
