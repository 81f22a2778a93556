import NativeProps.Proofs.Declaration.Undescribed

/-!
# Which properties have a summary

For properties that were read, what a summary asks of a property can be said without a failure: a
name where one is spelled, the member of an enumeration, and a number where one is written. What is
inside an object or an array has no part in it.

* `Value.IsName`, `Property.Describable`: what is asked of a property.
* `Property.SameOutside`: properties that differ only inside an object or an array.
* `describable_iff`: nothing else is asked of settled properties.
* `describe_congr_of_sameOutside`: summaries do not look inside.
* `Annotation.Enumerates.result_initializer`: an initializer misses a default before it looks at a
  name.
* `describe_of_read`: when summaries of what was read are given, and what they fail for.
-/

namespace NativeProps

/-! ### What is asked -/

/-- A text that has a fragment. -/
def Value.IsName (v : Value) : Prop := ∃ s n, v = .string s ∧ fragment s = .ok n

/-- What a summary asks of a property: an object needs a name, an enumeration or an array of one a
name and a default that is a name too, a floating number a default that stands for a double. -/
structure Property.Describable (p : Property) : Prop where
  object : ∀ ps, p.type = .object ps → p.name.IsName
  enumeration : ∀ need d, p.type.Enumerates need d → p.name.IsName ∧ d ≠ .null ∧ d.IsName
  number : ∀ s d, p.type = .scalar s d → s = .double ∨ s = .float → ∃ x, d.toDouble = .ok x

variable {v : Value} {p q : Property} {f : Failure}

theorem isName_iff : v.IsName ↔ ∃ n, fragmentOf v = .ok n := by
  constructor
  · rintro ⟨s, n, rfl, h⟩
    exact ⟨n, h⟩
  · rintro ⟨n, h⟩
    cases v with
    | string s => exact ⟨s, n, rfl, h⟩
    | _ => cases h

theorem isName_or_badName (v : Value) : v.IsName ∨ ∃ f, BadName v f := by
  rw [isName_iff]
  cases h : fragmentOf v with
  | ok n => exact .inl ⟨n, rfl⟩
  | error f => exact .inr ⟨f, fragmentOf_eq_error_iff.1 h⟩

theorem BadName.not_isName (h : BadName v f) : ¬v.IsName := by
  rw [isName_iff]
  rintro ⟨n, hn⟩
  rw [fragmentOf_eq_error_iff.2 h] at hn
  cases hn

theorem isName_of_forall_not_badName (h : ∀ f, ¬BadName v f) : v.IsName :=
  (isName_or_badName v).resolve_right fun ⟨f, bad⟩ => h f bad

theorem NotNumber.not_toDouble {m : Misuse} (h : NotNumber v m) : ¬∃ x, v.toDouble = .ok x := by
  rintro ⟨x, hx⟩
  rw [toDouble_eq_error_iff.2 ⟨m, h, rfl⟩] at hx
  cases hx

/-- A settled property that offends has not what is asked of it. -/
theorem Undescribed.not_describable (settled : p.type.Settled) (h : Undescribed p f) :
    ¬p.Describable := by
  intro asked
  cases h with
  | raw type =>
    rw [type] at settled
    cases settled
  | primitive type unknown =>
    rw [type] at settled
    cases settled
    cases unknown
  | object type bad => exact bad.not_isName (asked.object _ type)
  | enumeration type bad => exact bad.not_isName (asked.enumeration _ _ type).1
  | noMember type name => exact (asked.enumeration _ _ type).2.1 rfl
  | member type name given bad => exact bad.not_isName (asked.enumeration _ _ type).2.2
  | noNumber type number =>
    rw [type] at settled
    cases settled with
    | scalar null =>
      obtain rfl := null rfl
      simp at number
  | number type floating given bad => exact bad.not_toDouble (asked.number _ _ type floating)

/-- Nothing but this is asked of a settled property. -/
theorem describable_iff (settled : p.type.Settled) : p.Describable ↔ ∀ f, ¬Undescribed p f := by
  refine ⟨fun asked f h => h.not_describable settled asked, fun described => ⟨?_, ?_, ?_⟩⟩
  · intro ps type
    exact isName_of_forall_not_badName fun f bad => described f (.object type bad)
  · intro need d type
    have name : p.name.IsName :=
      isName_of_forall_not_badName fun f bad => described f (.enumeration type bad)
    obtain ⟨n, hn⟩ := isName_iff.1 name
    have given : d ≠ .null := by
      rintro rfl
      exact described _ (.noMember type hn)
    exact ⟨name, given,
      isName_of_forall_not_badName fun f bad => described f (.member type hn given bad)⟩
  · intro s d type floating
    have given : d ≠ .null := by
      rintro rfl
      exact described _ (.noNumber type (.inr floating))
    cases h : d.toDouble with
    | ok x => exact ⟨x, rfl⟩
    | error f =>
      obtain ⟨m, bad, rfl⟩ := toDouble_eq_error_iff.1 h
      exact absurd (.number type floating given bad) (described _)

/-! ### What is inside -/

/-- Annotations that differ at most inside an object, or inside an array that is not one of an
enumeration. -/
inductive Annotation.SameOutside : Annotation → Annotation → Prop
  | refl (a : Annotation) : SameOutside a a
  | object (ps qs : List Property) : SameOutside (.object ps) (.object qs)
  | array {a b : Annotation} (left : ∀ d options, a ≠ .stringEnum d options)
      (right : ∀ d options, b ≠ .stringEnum d options) : SameOutside (.array a) (.array b)

/-- Properties of one name whose annotations differ at most inside. -/
structure Property.SameOutside (p q : Property) : Prop where
  name : p.name = q.name
  type : p.type.SameOutside q.type

variable {component : String} {c : Config}

/-- The summary of an array that is not one of an enumeration. -/
theorem summary_of_array {a : Annotation} (type : p.type = .array a)
    (other : ∀ d options, a ≠ .stringEnum d options) :
    p.summary component c = do
      .log .debug .defaults ("Rendering default for " ++ component ++ "." ++ p.name.text)
      return ⟨p.name, .array, none, ""⟩ := by
  obtain ⟨name, b, optional⟩ := p
  subst type
  cases a with
  | stringEnum d options => exact absurd rfl (other d options)
  | _ => rfl

theorem summary_congr_of_sameOutside (h : p.SameOutside q) :
    p.summary component c = q.summary component c := by
  obtain ⟨name, type⟩ := h
  obtain ⟨n, a, optional⟩ := p
  obtain ⟨m, b, required⟩ := q
  subst name
  cases type with
  | refl => rfl
  | object ps qs => rfl
  | array left right => rw [summary_of_array rfl left, summary_of_array rfl right]

/-- Summaries do not look inside, nor do the records of making them. -/
theorem describe_congr_of_sameOutside {ps qs : List Property}
    (h : List.Forall₂ Property.SameOutside ps qs) :
    describe component c ps = describe component c qs := by
  induction h with
  | nil => rfl
  | cons head tail ih => rw [describe, describe, summary_congr_of_sameOutside head, ih]

/-! ### Initializers -/

/-- The text of an enumerator, behind a cast to the bit mask for the elements of an array. -/
def enumExpression (need : Need) (enumeration member : String) : String :=
  match need with
  | .enumArray =>
    "static_cast<" ++ maskName enumeration ++ ">(" ++ (enumeration ++ "::" ++ member) ++ ")"
  | _ => enumeration ++ "::" ++ member

/-- An initializer of an enumeration asks for its default first, then for the two names. -/
theorem Annotation.Enumerates.result_initializer {need : Need} {d : Value}
    (type : p.type.Enumerates need d) :
    (initializer component p).result =
      (requireDefault need p.name d).bind fun d => (fragmentOf p.name).bind fun n =>
        (fragmentOf d).map fun m => enumExpression need (component ++ n) m := by
  rw [NativeProps.result_initializer]
  generalize p.type = a at type
  generalize p.name = name
  cases type with
  | alone options =>
    simp only [initializerOf, Outcome.result_bind, Outcome.result_liftM, result_enumMember]
    rfl
  | mask options =>
    simp only [initializerOf, Outcome.result_bind, Outcome.result_liftM, result_enumName,
      result_enumMember]
    congr 1
    funext d
    cases fragmentOf name with
    | error f => rfl
    | ok n => cases fragmentOf d <;> rfl

theorem Annotation.Enumerates.initializer_eq_error_iff {need : Need} {d : Value}
    (type : p.type.Enumerates need d) :
    (initializer component p).result = .error f ↔
      (d = .null ∧ f = .fault (.missingDefault need p.name)) ∨
      (d ≠ .null ∧ (BadName p.name f ∨ p.name.IsName ∧ BadName d f)) := by
  rw [type.result_initializer, requireDefault_bind_eq_error_iff, bind_eq_error_iff,
    fragmentOf_eq_error_iff, isName_iff]
  simp only [map_eq_error_iff, fragmentOf_eq_error_iff, exists_and_right]

/-! ### Whatever is read -/

open Schema in
/-- **Summaries are decided by what is outside.** Properties that were read have summaries just if
each of them has what is asked of it. If not, the first one that has not decides the failure: its
name is looked at before its default, and whether there is a default before what it is. What is
inside an object, or an array that is not one of an enumeration, makes no difference. The
initializer of an enumeration alone looks for its default before it looks at its name. -/
theorem describe_of_read {data : Value} {ps : List Property}
    (h : (readProperties data).result = .ok ps) (component : String) (c : Config) :
    ((∃ ss, (describe component c ps).result = .ok ss) ↔ ∀ p ∈ ps, p.Describable) ∧
    (∀ f, (describe component c ps).result = .error f ↔
      ∃ before p after, ps = before ++ p :: after ∧ (∀ q ∈ before, q.Describable) ∧
        ¬p.Describable ∧ Undescribed p f) ∧
    (∀ qs, List.Forall₂ Property.SameOutside ps qs →
      describe component c ps = describe component c qs) ∧
    ∀ p ∈ ps, ∀ need d, p.type.Enumerates need d → ∀ f,
      ((initializer component p).result = .error f ↔
        (d = .null ∧ f = .fault (.missingDefault need p.name)) ∨
        (d ≠ .null ∧ (BadName p.name f ∨ p.name.IsName ∧ BadName d f))) := by
  have settled := settled_of_result h
  have hfails (f : Failure) : (describe component c ps).result = .error f ↔
      ∃ before p after, ps = before ++ p :: after ∧ (∀ q ∈ before, q.Describable) ∧
        ¬p.Describable ∧ Undescribed p f := by
    rw [result_describe_error_iff]
    constructor
    · rintro ⟨described, undescribed⟩
      refine ⟨_, _, _, rfl, fun q hq => ?_, undescribed.not_describable (settled _ (by simp)),
        undescribed⟩
      exact (describable_iff (settled q (List.mem_append_left _ hq))).2 (described q hq)
    · rintro ⟨before, p, after, rfl, asked, -, undescribed⟩
      refine .element (fun q hq => ?_) undescribed
      exact (describable_iff (settled q (List.mem_append_left _ hq))).1 (asked q hq)
  refine ⟨⟨?_, fun asked => ?_⟩, hfails, fun qs => describe_congr_of_sameOutside,
    fun p _ need d type f => type.initializer_eq_error_iff⟩
  · rintro ⟨ss, hss⟩ p hp
    obtain ⟨s, -, summarized⟩ := exists_of_forall₂ (result_describe_ok_iff.1 hss) hp
    refine (describable_iff (settled p hp)).2 fun f undescribed => ?_
    cases summarized.result.symm.trans undescribed.result
  · cases hd : (describe component c ps).result with
    | ok ss => exact ⟨ss, rfl⟩
    | error f =>
      obtain ⟨before, p, after, rfl, -, fails, -⟩ := (hfails f).1 hd
      exact absurd (asked p (by simp)) fails

open Schema in
/-- An object whose inner property could not be described by itself, in front of an enumeration of a
bad name that has no default either. -/
theorem describe_of_read_outside :
    let lone : Value := .object [("type", .string "StringEnumTypeAnnotation")]
    let inner : Value := .object [("name", .string "a--b"), ("typeAnnotation", lone)]
    let data : Value := .array [.object [("name", .string "box"), ("typeAnnotation", .object
      [("type", .string "ObjectTypeAnnotation"), ("properties", .array [inner])])],
      .object [("name", .string "-fit"), ("typeAnnotation", lone)]]
    let box : Property := ⟨.string "box",
      .object [⟨.string "a--b", .stringEnum .null [], false⟩], false⟩
    let fit : Property := ⟨.string "-fit", .stringEnum .null [], false⟩
    (readProperties data).result = .ok [box, fit] ∧
      (describe "Crop" {} [box, fit]).result = .error (.fault (.emptySegment "-fit")) ∧
      (initializer "Crop" fit).result =
        .error (.fault (.missingDefault .stringEnum (.string "-fit"))) ∧
      describe "Crop" {} [box, fit] = describe "Crop" {} [⟨box.name, .object [], false⟩, fit] := by
  intro lone inner data box fit
  have described : DescribesList data [box, fit] :=
    .mk (.cons (.mk rfl rfl (.object rfl rfl (.cons (.mk rfl rfl (.stringEnum rfl .absent)) .nil)))
      (.cons (.mk rfl rfl (.stringEnum rfl .absent)) .nil))
  obtain ⟨-, fails, inside, alone⟩ := describe_of_read described.result "Crop" {}
  have bad : Undescribed fit (.fault (.emptySegment "-fit")) :=
    .enumeration (.alone .null []) (.emptySegment (by decide +kernel))
  have asked : box.Describable :=
    ⟨fun _ _ => ⟨"box", "Box", rfl, rfl⟩, nofun, nofun⟩
  have offends : ¬fit.Describable := bad.not_describable (.stringEnum .null [])
  refine ⟨described.result, (fails _).2 ⟨[box], fit, [], rfl, by simpa using asked, offends, bad⟩,
    (alone fit (by simp) _ _ (.alone .null []) _).2 (.inl ⟨rfl, rfl⟩), inside _ ?_⟩
  exact .cons ⟨rfl, .object _ []⟩ (.cons ⟨rfl, .refl _⟩ .nil)

end NativeProps
