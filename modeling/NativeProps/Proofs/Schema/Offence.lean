import NativeProps.Proofs.Schema.Grammar

/-!
# The first offence against the grammar

A value outside the grammar of schema data is refused for the first place that offends, depth first
and from left to right.

* `TypeOffence`, `PropertyOffence`, `ListOffence`: the first offence of a value and the failure that
  reports it. In a list all elements in front of the offending one follow the grammar.
* `ListOffence.result`: the failure of reading is that of the first offence.
* `form_or_offence`: every value follows the grammar or has a first offence.
* `readProperties_grammar`: reading accepts the grammar, gives what is described and fails with the
  first offence.
-/

namespace NativeProps.Schema

/-! ### Offences -/

/-- An offence of the options of an enumeration. -/
inductive OptionsOffence : Option Value → Failure → Prop
  | kind {v : Value} (notText : v.kind ≠ .string) (notArray : v.kind ≠ .array)
      (notObject : v.kind ≠ .object) : OptionsOffence (some v) (.misuse (.notSequence v.kind))
  | unnamed {items : List Value} {members : Members} (mem : Value.object members ∈ items)
      (name : members.lookup "name" = none) :
      OptionsOffence (some (.array items)) (.misuse .unnamedOption)

mutual

/-- The first offence of an annotation. -/
inductive TypeOffence : Value → Failure → Prop
  | kind {v : Value} (h : v.kind ≠ .object) :
      TypeOffence v (.fault (.schema (.expectedObject .type v.kind)))
  | noTag {members : Members} (tag : members.lookup "type" = none) :
      TypeOffence (.object members) (.fault (.schema (.missingKey "type" .type)))
  | unknownTag {members : Members} {v : Value} (tag : members.lookup "type" = some v)
      (unknown : ∀ t : Tag, v ≠ .string t.name) :
      TypeOffence (.object members) (.fault (.unknownType v))
  | noPrimitive {members : Members} (tag : HasTag members .native)
      (name : members.lookup "name" = none) :
      TypeOffence (.object members) (.fault (.schema (.missingKey "name" (.variant .native))))
  | unknownPrimitive {members : Members} {v : Value} (tag : HasTag members .native)
      (name : members.lookup "name" = some v) (unknown : ∀ p : Primitive, v ≠ .string p.name) :
      TypeOffence (.object members) (.fault (.unknownPrimitive v))
  | options {members : Members} {f : Failure} (tag : HasTag members .stringEnum)
      (offence : OptionsOffence (members.lookup "options") f) : TypeOffence (.object members) f
  | noElement {members : Members} (tag : HasTag members .array)
      (element : members.lookup "elementType" = none) :
      TypeOffence (.object members)
        (.fault (.schema (.missingKey "elementType" (.variant .array))))
  | element {members : Members} {v : Value} {f : Failure} (tag : HasTag members .array)
      (element : members.lookup "elementType" = some v) (offence : TypeOffence v f) :
      TypeOffence (.object members) f
  | noProperties {members : Members} (tag : HasTag members .object)
      (properties : members.lookup "properties" = none) :
      TypeOffence (.object members)
        (.fault (.schema (.missingKey "properties" (.variant .object))))
  | properties {members : Members} {v : Value} {f : Failure} (tag : HasTag members .object)
      (properties : members.lookup "properties" = some v) (offence : ListOffence v f) :
      TypeOffence (.object members) f

/-- The first offence of a property. Its name is looked for before its annotation. -/
inductive PropertyOffence : Value → Failure → Prop
  | kind {v : Value} (h : v.kind ≠ .object) :
      PropertyOffence v (.fault (.schema (.expectedObject .property v.kind)))
  | noName {members : Members} (name : members.lookup "name" = none) :
      PropertyOffence (.object members) (.fault (.schema (.missingKey "name" .property)))
  | noType {members : Members} {n : Value} (name : members.lookup "name" = some n)
      (type : members.lookup "typeAnnotation" = none) :
      PropertyOffence (.object members)
        (.fault (.schema (.missingKey "typeAnnotation" (.namedProperty n))))
  | type {members : Members} {n v : Value} {f : Failure} (name : members.lookup "name" = some n)
      (type : members.lookup "typeAnnotation" = some v) (offence : TypeOffence v f) :
      PropertyOffence (.object members) f

/-- The first offence of a list of properties. -/
inductive ListOffence : Value → Failure → Prop
  | kind {v : Value} (h : v.kind ≠ .array) :
      ListOffence v (.fault (.schema (.expectedProperties v.kind)))
  | element {xs zs : List Value} {y : Value} {f : Failure} (before : ∀ x ∈ xs, PropertyForm x)
      (offence : PropertyOffence y f) : ListOffence (.array (xs ++ y :: zs)) f

end

/-! ### Reading fails with the first offence -/

/-- An option fails only for want of a name. -/
theorem mapM_readOption_of_unnamed {items : List Value} {members : Members}
    (mem : Value.object members ∈ items) (name : members.lookup "name" = none) :
    items.mapM readOption = .error (.misuse .unnamedOption) := by
  have only (v : Value) (f : Failure) (h : readOption v = .error f) :
      f = .misuse .unnamedOption := by
    unfold readOption at h
    split at h
    · split at h <;> cases h
      rfl
    · cases h
  -- whichever option comes first without a name, the failure is the same
  refine (mapM_eq_error_iff only).2 ⟨_, mem, ?_⟩
  rw [readOption, name]

theorem OptionsOffence.readOptions {members : Members} {f : Failure}
    (h : OptionsOffence (members.lookup "options") f) : readOptions members = .error f := by
  unfold Schema.readOptions
  cases ho : members.lookup "options" with
  | none => rw [ho] at h; cases h
  | some v =>
    rw [ho] at h
    cases h with
    | kind notText notArray notObject =>
      cases v <;> simp [Value.kind, Value.elements?] at notText notArray notObject ⊢
    | unnamed mem name => exact mapM_readOption_of_unnamed mem name

/-- Elements that follow the grammar do not end the reading of a list. -/
theorem result_readEach_of_error {xs zs : List Value} {y : Value} {f : Failure}
    (before : ∀ x ∈ xs, PropertyForm x) (h : (readProperty y).result = .error f) :
    (readEach (xs ++ y :: zs)).result = .error f := by
  induction xs with
  | nil => rw [List.nil_append, result_readEach_cons, h]; rfl
  | cons x rest ih =>
    obtain ⟨p, hp⟩ := (before x List.mem_cons_self).describes
    have hr := ih fun w hw => before w (List.mem_cons_of_mem x hw)
    rw [List.cons_append, result_readEach_cons, hp.result, hr]
    rfl

mutual

theorem TypeOffence.result {v : Value} {f : Failure} :
    TypeOffence v f → (readType v).result = .error f
  | .kind h => result_readType_of_kind h
  | .noTag tag => result_readType_of_error (result_readTag_of_none tag)
  | .unknownTag tag unknown => result_readType_of_error (result_readTag_of_unknown tag unknown)
  | .noPrimitive tag name => by
    rw [result_readType tag]
    simp only [require_of_none _ name, Except.bind]
  | .unknownPrimitive tag name unknown => by
    rw [result_readType tag]
    simp only [require_of_some _ name, Except.bind, readPrimitive_of_unknown unknown, Except.map]
  | .options tag offence => by
    rw [result_readType tag]
    simp only [offence.readOptions, Except.map]
  | .noElement tag element => by
    rw [result_readType tag]
    simp only [readElement_eq, element, Option.map_none, Option.getD_none, Outcome.result_fault,
      Except.map]
  | .element tag element offence => by
    rw [result_readType tag]
    simp only [readElement_eq, element, Option.map_some, Option.getD_some, offence.result,
      Except.map]
  | .noProperties tag properties => by
    rw [result_readType tag]
    simp only [readNested_eq, properties, Option.map_none, Option.getD_none, Outcome.result_fault,
      Except.map]
  | .properties tag properties offence => by
    rw [result_readType tag]
    simp only [readNested_eq, properties, Option.map_some, Option.getD_some, offence.result,
      Except.map]

theorem PropertyOffence.result {v : Value} {f : Failure} :
    PropertyOffence v f → (readProperty v).result = .error f
  | .kind h => result_readProperty_of_kind h
  | .noName name => by
    rw [result_readProperty, require_of_none _ name]
    rfl
  | .noType name type => by
    rw [result_readProperty, require_of_some _ name]
    simp only [Except.bind, readTyped_eq, type, Option.map_none, Option.getD_none,
      Outcome.result_fault, Except.map]
  | .type name type offence => by
    rw [result_readProperty, require_of_some _ name]
    simp only [Except.bind, readTyped_eq, type, Option.map_some, Option.getD_some, offence.result,
      Except.map]

theorem ListOffence.result {v : Value} {f : Failure} :
    ListOffence v f → (readProperties v).result = .error f
  | .kind h => result_readProperties_of_kind h
  | .element before offence => by
    rw [result_readProperties, result_readEach_of_error before offence.result]

end

/-! ### Every value follows the grammar or offends -/

theorem optionsForm_or_offence (o : Option Value) : OptionsForm o ∨ ∃ f, OptionsOffence o f := by
  cases o with
  | none => exact .inl .absent
  | some v =>
    cases v with
    | string s => exact .inl (.text s)
    | object members => exact .inl (.object members)
    | array items =>
      by_cases h : ∃ members : Members, .object members ∈ items ∧ members.lookup "name" = none
      · obtain ⟨members, mem, name⟩ := h
        exact .inr ⟨_, .unnamed mem name⟩
      · refine .inl (.list fun members mem => Option.ne_none_iff_exists'.mp fun name => ?_)
        exact h ⟨members, mem, name⟩
    | _ =>
      refine .inr ⟨_, .kind ?_ ?_ ?_⟩
      all_goals simp [Value.kind]

/-- What can be said of an object once its values are known to follow the grammar or to offend. -/
theorem typeForm_or_offence_object (members : Members)
    (types : ∀ key v, members.lookup key = some v → TypeForm v ∨ ∃ f, TypeOffence v f)
    (lists : ∀ key v, members.lookup key = some v → ListForm v ∨ ∃ f, ListOffence v f) :
    TypeForm (.object members) ∨ ∃ f, TypeOffence (.object members) f := by
  cases ht : members.lookup "type" with
  | none => exact .inr ⟨_, .noTag ht⟩
  | some v =>
    by_cases known : ∃ t : Tag, v = .string t.name
    · obtain ⟨t, rfl⟩ := known
      have tag : HasTag members t := ht
      cases t with
      | scalar s => exact .inl (.scalar tag)
      | native =>
        cases hn : members.lookup "name" with
        | none => exact .inr ⟨_, .noPrimitive tag hn⟩
        | some n =>
          by_cases hp : ∃ p : Primitive, n = .string p.name
          · obtain ⟨p, rfl⟩ := hp
            exact .inl (.native tag hn)
          · exact .inr ⟨_, .unknownPrimitive tag hn fun p h => hp ⟨p, h⟩⟩
      | stringEnum =>
        rcases optionsForm_or_offence (members.lookup "options") with form | ⟨f, offence⟩
        · exact .inl (.stringEnum tag form)
        · exact .inr ⟨f, .options tag offence⟩
      | array =>
        cases he : members.lookup "elementType" with
        | none => exact .inr ⟨_, .noElement tag he⟩
        | some e =>
          rcases types _ e he with form | ⟨f, offence⟩
          · exact .inl (.array tag he form)
          · exact .inr ⟨f, .element tag he offence⟩
      | object =>
        cases hp : members.lookup "properties" with
        | none => exact .inr ⟨_, .noProperties tag hp⟩
        | some l =>
          rcases lists _ l hp with form | ⟨f, offence⟩
          · obtain @⟨items, forms⟩ := form
            exact .inl (.object tag hp forms)
          · exact .inr ⟨f, .properties tag hp offence⟩
    · exact .inr ⟨_, .unknownTag ht fun t h => known ⟨t, h⟩⟩

theorem propertyForm_or_offence_object (members : Members)
    (types : ∀ key v, members.lookup key = some v → TypeForm v ∨ ∃ f, TypeOffence v f) :
    PropertyForm (.object members) ∨ ∃ f, PropertyOffence (.object members) f := by
  cases hn : members.lookup "name" with
  | none => exact .inr ⟨_, .noName hn⟩
  | some n =>
    cases ht : members.lookup "typeAnnotation" with
    | none => exact .inr ⟨_, .noType hn ht⟩
    | some v =>
      rcases types _ v ht with form | ⟨f, offence⟩
      · exact .inl (.mk hn ht form)
      · exact .inr ⟨f, .type hn ht offence⟩

/-- A list in which not all elements follow the grammar has a first one that does not. -/
theorem listForm_or_offence_array {items : List Value}
    (each : ∀ v ∈ items, PropertyForm v ∨ ∃ f, PropertyOffence v f) :
    ListForm (.array items) ∨ ∃ f, ListOffence (.array items) f := by
  induction items with
  | nil => exact .inl (.mk (by simp))
  | cons v rest ih =>
    rcases each v List.mem_cons_self with form | ⟨f, offence⟩
    · rcases ih fun w hw => each w (List.mem_cons_of_mem v hw) with forms | ⟨f, offence⟩
      · cases forms with
        | mk forms => exact .inl (.mk (by simpa using ⟨form, forms⟩))
      · cases offence with
        | kind h => exact absurd rfl h
        | @element xs zs y _ before offence =>
          have longer : ∀ x ∈ v :: xs, PropertyForm x := List.forall_mem_cons.2 ⟨form, before⟩
          exact .inr ⟨f, .element longer offence⟩
    · exact .inr ⟨f, .element (List.forall_mem_nil PropertyForm) offence⟩

/-- Every value follows the grammar or has a first offence, whatever it is read as. -/
theorem form_or_offence (v : Value) :
    (TypeForm v ∨ ∃ f, TypeOffence v f) ∧ (ListForm v ∨ ∃ f, ListOffence v f) ∧
      (PropertyForm v ∨ ∃ f, PropertyOffence v f) := by
  -- all three together: which of them is needed of a part depends on the key it stands under
  induction v using Value.induction_parts with
  | array items ih =>
    have notObject : (Value.array items).kind ≠ .object := by simp [Value.kind]
    exact ⟨.inr ⟨_, .kind notObject⟩, listForm_or_offence_array fun v hv => (ih v hv).2.2,
      .inr ⟨_, .kind notObject⟩⟩
  | object members ih =>
    have types := fun key v h => (ih key v h).1
    have lists := fun key v h => (ih key v h).2.1
    exact ⟨typeForm_or_offence_object members types lists,
      .inr ⟨_, .kind (by simp [Value.kind])⟩, propertyForm_or_offence_object members types⟩
  | plain v notArray notObject =>
    exact ⟨.inr ⟨_, .kind notObject⟩, .inr ⟨_, .kind notArray⟩, .inr ⟨_, .kind notObject⟩⟩

/-! ### What reading comes to -/

theorem result_readType_ok_iff {data : Value} {a : Annotation} :
    (readType data).result = .ok a ↔ DescribesType data a := by
  constructor
  · intro h
    rcases (form_or_offence data).1 with form | ⟨f, offence⟩
    · obtain ⟨b, described⟩ := form.describes
      cases described.result.symm.trans h
      exact described
    · rw [offence.result] at h
      cases h
  · exact DescribesType.result

theorem result_readProperties_ok_iff {data : Value} {ps : List Property} :
    (readProperties data).result = .ok ps ↔ DescribesList data ps := by
  constructor
  · intro h
    rcases (form_or_offence data).2.1 with form | ⟨f, offence⟩
    · obtain ⟨qs, described⟩ := form.describes
      have same := described.result.symm.trans h
      cases same
      exact described
    · rw [offence.result] at h
      cases h
  · exact DescribesList.result

theorem result_readProperties_error_iff {data : Value} {f : Failure} :
    (readProperties data).result = .error f ↔ ListOffence data f := by
  constructor
  · intro h
    rcases (form_or_offence data).2.1 with form | ⟨g, offence⟩
    · obtain ⟨qs, described⟩ := form.describes
      rw [described.result] at h
      cases h
    · have same := offence.result.symm.trans h
      cases same
      exact offence
  · exact ListOffence.result

/-- A list follows the grammar as soon as it is read. -/
theorem listForm_of_result {data : Value} {ps : List Property}
    (h : (readProperties data).result = .ok ps) : ListForm data := by
  rcases (form_or_offence data).2.1 with form | ⟨f, offence⟩
  · exact form
  · rw [offence.result] at h
    cases h

/-- **Reading accepts exactly the grammar**, gives one property for each element in order at every
level, and fails with the first offence: behind elements that follow the grammar, that of the first
element that does not, whatever comes after it. -/
theorem readProperties_grammar (data : Value) :
    ((∃ ps, (readProperties data).result = .ok ps) ↔ ListForm data) ∧
      (∀ ps, (readProperties data).result = .ok ps ↔ DescribesList data ps) ∧
      (∀ f, (readProperties data).result = .error f ↔ ListOffence data f) ∧
      ∀ (xs zs : List Value) (y : Value), data = .array (xs ++ y :: zs) →
        (∀ x ∈ xs, PropertyForm x) → ¬PropertyForm y →
          ∃ f, PropertyOffence y f ∧ (readProperty y).result = .error f ∧
            (readProperties (.array [y])).result = .error f ∧
            (readProperties data).result = .error f := by
  refine ⟨⟨fun ⟨_, h⟩ => listForm_of_result h, fun form => ?_⟩,
    fun _ => result_readProperties_ok_iff, fun _ => result_readProperties_error_iff, ?_⟩
  · obtain ⟨ps, described⟩ := form.describes
    exact ⟨ps, described.result⟩
  · rintro xs zs y rfl before notForm
    obtain ⟨f, offence⟩ := (form_or_offence y).2.2.resolve_left notForm
    have alone : ListOffence (.array ([] ++ y :: [])) f := .element (by simp) offence
    exact ⟨f, offence, offence.result, alone.result, (ListOffence.element before offence).result⟩

/-- Behind a list of colors, an object whose inner property has no annotation is refused for that
property, and not for the number after it. -/
theorem readProperties_grammar_nested :
    let color : Value := .object [("type", .string "NativePrimitiveTypeAnnotation"),
      ("name", .string "ColorPrimitive")]
    let colors : Value := .object [("type", .string "ArrayTypeAnnotation"), ("elementType", color)]
    let inner : Value := .object [("name", .string "size")]
    let nested : Value := .object [("type", .string "ObjectTypeAnnotation"),
      ("properties", .array [inner, .int 3])]
    let x : Value := .object [("name", .string "tints"), ("typeAnnotation", colors)]
    let y : Value := .object [("name", .string "box"), ("typeAnnotation", nested)]
    (∀ v ∈ [x], PropertyForm v) ∧ ¬PropertyForm y ∧
      (readProperties (.array ([x] ++ y :: [.int 3]))).result = .error (.fault
        (.schema (.missingKey "typeAnnotation" (.namedProperty (.string "size"))))) := by
  intro color colors inner nested x y
  have form : ∀ v ∈ [x], PropertyForm v := by
    intro v hv
    rw [List.mem_singleton.mp hv]
    exact .mk rfl rfl (.array rfl rfl (.native (p := .color) rfl rfl))
  have offence : PropertyOffence y
      (.fault (.schema (.missingKey "typeAnnotation" (.namedProperty (.string "size"))))) :=
    .type rfl rfl (.properties rfl rfl
      (.element (List.forall_mem_nil PropertyForm) (.noType rfl rfl)))
  have notForm : ¬PropertyForm y := by
    intro h
    obtain ⟨p, hp⟩ := h.describes
    have := hp.result.symm.trans offence.result
    cases this
  obtain ⟨f, hf, -, -, h⟩ := (readProperties_grammar _).2.2.2 [x] [.int 3] y rfl form notForm
  have same := hf.result.symm.trans offence.result
  cases same
  exact ⟨form, notForm, h⟩

end NativeProps.Schema
