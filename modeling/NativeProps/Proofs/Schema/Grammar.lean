import Mathlib.Data.List.Forall2
import NativeProps.Proofs.Failing
import NativeProps.Proofs.Schema.Reading

/-!
# The grammar of schema data

Which values are annotations, properties and lists of properties, and what they describe. Both are
said without the readers.

* `OptionsForm`, `TypeForm`, `PropertyForm`, `ListForm`: the grammar.
* `DescribesOptions`, `DescribesType`, `DescribesProperty`, `DescribesList`: what a value of the
  grammar stands for. A list describes one property for each of its elements, in their order.
* `ListForm.describes`: a value of the grammar describes something.
* `DescribesList.result`: a value is read as what it describes.
-/

namespace NativeProps.Schema

/-! ### The grammar -/

/-- The options of an enumeration: none at all, a text, an object, or a list in which every object
has a name. -/
inductive OptionsForm : Option Value → Prop
  | absent : OptionsForm none
  | text (s : String) : OptionsForm (some (.string s))
  | object (members : Members) : OptionsForm (some (.object members))
  | list {items : List Value}
      (named : ∀ members : Members, .object members ∈ items → ∃ n, members.lookup "name" = some n) :
      OptionsForm (some (.array items))

mutual

/-- Annotations. -/
inductive TypeForm : Value → Prop
  | scalar {members : Members} {s : Scalar} (tag : HasTag members (.scalar s)) :
      TypeForm (.object members)
  | native {members : Members} {p : Primitive} (tag : HasTag members .native)
      (name : members.lookup "name" = some (.string p.name)) : TypeForm (.object members)
  | stringEnum {members : Members} (tag : HasTag members .stringEnum)
      (options : OptionsForm (members.lookup "options")) : TypeForm (.object members)
  | array {members : Members} {v : Value} (tag : HasTag members .array)
      (element : members.lookup "elementType" = some v) (form : TypeForm v) :
      TypeForm (.object members)
  | object {members : Members} {items : List Value} (tag : HasTag members .object)
      (properties : members.lookup "properties" = some (.array items))
      (forms : ∀ v ∈ items, PropertyForm v) : TypeForm (.object members)

/-- Properties. Their name can be anything. -/
inductive PropertyForm : Value → Prop
  | mk {members : Members} {n v : Value} (name : members.lookup "name" = some n)
      (type : members.lookup "typeAnnotation" = some v) (form : TypeForm v) :
      PropertyForm (.object members)

end

/-- Lists of properties. -/
inductive ListForm : Value → Prop
  | mk {items : List Value} (forms : ∀ v ∈ items, PropertyForm v) : ListForm (.array items)

/-! ### What is described -/

/-- An object stands for its name as an option, any other value for itself. -/
inductive DescribesOption : Value → Value → Prop
  | named {members : Members} {n : Value} (name : members.lookup "name" = some n) :
      DescribesOption (.object members) n
  | plain {v : Value} (h : v.kind ≠ .object) : DescribesOption v v

/-- A text gives its characters as options, an object its keys and a list its items. -/
inductive DescribesOptions : Option Value → List Value → Prop
  | absent : DescribesOptions none []
  | text (s : String) :
      DescribesOptions (some (.string s)) (s.toList.map fun c => .string c.toString)
  | object (members : Members) :
      DescribesOptions (some (.object members)) (members.map fun m => .string m.1)
  | list {items options : List Value} (each : List.Forall₂ DescribesOption items options) :
      DescribesOptions (some (.array items)) options

mutual

/-- The annotation that a value describes. Without a default, or with `null`, a scalar annotation
has its initial one. -/
inductive DescribesType : Value → Annotation → Prop
  | scalar {members : Members} {s : Scalar} {d : Value} (tag : HasTag members (.scalar s))
      (given : members.lookup "default" = some d) (notNull : d ≠ .null) :
      DescribesType (.object members) (.scalar s d)
  | initial {members : Members} {s : Scalar} (tag : HasTag members (.scalar s))
      (absent : (members.lookup "default").getD .null = .null) :
      DescribesType (.object members) (.scalar s s.initial)
  | native {members : Members} {p : Primitive} (tag : HasTag members .native)
      (name : members.lookup "name" = some (.string p.name)) :
      DescribesType (.object members) (.native (.known p))
  | stringEnum {members : Members} {options : List Value} (tag : HasTag members .stringEnum)
      (described : DescribesOptions (members.lookup "options") options) :
      DescribesType (.object members)
        (.stringEnum ((members.lookup "default").getD .null) options)
  | array {members : Members} {v : Value} {a : Annotation} (tag : HasTag members .array)
      (element : members.lookup "elementType" = some v) (described : DescribesType v a) :
      DescribesType (.object members) (.array a)
  | object {members : Members} {items : List Value} {ps : List Property}
      (tag : HasTag members .object)
      (properties : members.lookup "properties" = some (.array items))
      (described : DescribesEach items ps) : DescribesType (.object members) (.object ps)

/-- The property that a value describes. Any value tells by its truth whether it is optional. -/
inductive DescribesProperty : Value → Property → Prop
  | mk {members : Members} {n v : Value} {a : Annotation}
      (name : members.lookup "name" = some n)
      (type : members.lookup "typeAnnotation" = some v) (described : DescribesType v a) :
      DescribesProperty (.object members)
        ⟨n, a, ((members.lookup "optional").getD (.bool false)).isTrue⟩

/-- The properties that values describe, one each. -/
inductive DescribesEach : List Value → List Property → Prop
  | nil : DescribesEach [] []
  | cons {v : Value} {p : Property} {rest : List Value} {ps : List Property}
      (head : DescribesProperty v p) (tail : DescribesEach rest ps) :
      DescribesEach (v :: rest) (p :: ps)

end

/-- The properties that a list describes. -/
inductive DescribesList : Value → List Property → Prop
  | mk {items : List Value} {ps : List Property} (each : DescribesEach items ps) :
      DescribesList (.array items) ps

/-! ### Values of the grammar describe something -/

theorem exists_describesOption {v : Value}
    (named : ∀ members : Members, v = .object members → ∃ n, members.lookup "name" = some n) :
    ∃ o, DescribesOption v o := by
  by_cases h : v.kind = .object
  · cases v <;> cases h
    obtain ⟨n, hn⟩ := named _ rfl
    exact ⟨n, .named hn⟩
  · exact ⟨v, .plain h⟩

theorem OptionsForm.describes {o : Option Value} (h : OptionsForm o) :
    ∃ options, DescribesOptions o options := by
  cases h with
  | absent => exact ⟨_, .absent⟩
  | text s => exact ⟨_, .text s⟩
  | object members => exact ⟨_, .object members⟩
  | @list items named =>
    have all : ∃ options, List.Forall₂ DescribesOption items options := by
      induction items with
      | nil => exact ⟨[], .nil⟩
      | cons v rest ih =>
        obtain ⟨o, ho⟩ := exists_describesOption (v := v) fun members hv =>
          named members (by simp [hv])
        obtain ⟨os, hos⟩ := ih fun members hm => named members (List.mem_cons_of_mem v hm)
        exact ⟨o :: os, .cons ho hos⟩
    obtain ⟨options, h⟩ := all
    exact ⟨options, .list h⟩

theorem describesEach_of_forall {items : List Value}
    (h : ∀ v ∈ items, ∃ p, DescribesProperty v p) : ∃ ps, DescribesEach items ps := by
  induction items with
  | nil => exact ⟨[], .nil⟩
  | cons v rest ih =>
    obtain ⟨p, hp⟩ := h v List.mem_cons_self
    obtain ⟨ps, hps⟩ := ih fun w hw => h w (List.mem_cons_of_mem v hw)
    exact ⟨p :: ps, .cons hp hps⟩

mutual

theorem TypeForm.describes {v : Value} : TypeForm v → ∃ a, DescribesType v a
  | @TypeForm.scalar members s tag => by
    cases hd : members.lookup "default" with
    | none => exact ⟨_, .initial tag (by rw [hd]; rfl)⟩
    | some d =>
      by_cases hn : d = .null
      · exact ⟨_, .initial tag (by rw [hd, hn]; rfl)⟩
      · exact ⟨_, .scalar tag hd hn⟩
  | .native tag name => ⟨_, .native tag name⟩
  | .stringEnum tag options => by
    obtain ⟨_, described⟩ := options.describes
    exact ⟨_, .stringEnum tag described⟩
  | .array tag element form => by
    obtain ⟨_, described⟩ := form.describes
    exact ⟨_, .array tag element described⟩
  | .object tag properties forms => by
    obtain ⟨_, described⟩ := describesEach_of_forall fun v hv => (forms v hv).describes
    exact ⟨_, .object tag properties described⟩

theorem PropertyForm.describes {v : Value} : PropertyForm v → ∃ p, DescribesProperty v p
  | .mk name type form => by
    obtain ⟨_, described⟩ := form.describes
    exact ⟨_, .mk name type described⟩

end

theorem ListForm.describes {v : Value} (h : ListForm v) : ∃ ps, DescribesList v ps := by
  obtain ⟨forms⟩ := h
  obtain ⟨ps, each⟩ := describesEach_of_forall fun v hv => (forms v hv).describes
  exact ⟨ps, .mk each⟩

/-! ### Values are read as what they describe -/

theorem DescribesOption.readOption {v o : Value} (h : DescribesOption v o) :
    readOption v = .ok o := by
  cases h with
  | named name => rw [Schema.readOption, name]
  | plain h => cases v <;> simp [Schema.readOption, Value.kind] at h ⊢

/-- A text is an option as it stands. -/
theorem mapM_readOption_texts {α : Type} (l : List α) (f : α → String) :
    (l.map fun x => Value.string (f x)).mapM readOption = .ok (l.map fun x => .string (f x)) := by
  rw [List.mapM_map]
  exact List.mapM_pure (m := Except Failure)

theorem DescribesOptions.readOptions {members : Members} {options : List Value}
    (h : DescribesOptions (members.lookup "options") options) :
    readOptions members = .ok options := by
  unfold Schema.readOptions
  cases ho : members.lookup "options" with
  | none => rw [ho] at h; cases h; rfl
  | some v =>
    rw [ho] at h
    cases h with
    | text s => exact mapM_readOption_texts s.toList _
    | object ms => exact mapM_readOption_texts ms _
    | list each => exact mapM_eq_ok_iff.2 (each.imp fun _ _ described => described.readOption)

mutual

theorem DescribesType.result {v : Value} {a : Annotation} :
    DescribesType v a → (readType v).result = .ok a
  | .scalar tag given notNull => by
    rw [result_readType tag]
    simp only [readScalarDefault, readDefault, given, Option.getD_some]
  | .initial tag absent => by
    rw [result_readType tag]
    simp only [readScalarDefault, readDefault, absent]
  | .native tag name => by
    rw [result_readType tag]
    simp only [require_of_some _ name, Except.bind, readPrimitive_name]
    rfl
  | .stringEnum tag described => by
    rw [result_readType tag]
    simp only [described.readOptions]
    rfl
  | .array tag element described => by
    rw [result_readType tag]
    simp only [readElement_eq, element, Option.map_some, Option.getD_some, described.result]
    rfl
  | .object tag properties described => by
    rw [result_readType tag]
    simp only [readNested_eq, properties, Option.map_some, Option.getD_some,
      result_readProperties, described.result]
    rfl

theorem DescribesProperty.result {v : Value} {p : Property} :
    DescribesProperty v p → (readProperty v).result = .ok p
  | .mk name type described => by
    rw [result_readProperty, require_of_some _ name]
    simp only [Except.bind, readTyped_eq, type, Option.map_some, Option.getD_some,
      described.result]
    rfl

theorem DescribesEach.result {items : List Value} {ps : List Property} :
    DescribesEach items ps → (readEach items).result = .ok ps
  | .nil => by rw [readEach]; rfl
  | .cons head tail => by rw [result_readEach_cons, head.result, Except.bind, tail.result]; rfl

end

theorem DescribesList.result {v : Value} {ps : List Property} (h : DescribesList v ps) :
    (readProperties v).result = .ok ps := by
  obtain ⟨each⟩ := h
  rw [result_readProperties, each.result]

end NativeProps.Schema
