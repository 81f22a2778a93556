import NativeProps.Declaration.Header
import NativeProps.Declaration.Initializer
import NativeProps.Declaration.TypeName
import NativeProps.Proofs.Failing
import NativeProps.Proofs.Schema.Settled

/-!
# Every settled annotation has its case

Headers, declared types and initializers are each found by cases on an annotation. On settled
annotations none of them meets a value that no case provides for.

* `headers_of_settled`: the headers of settled properties are always found.
* `declaredType_of_settled`, `initializer_of_settled`: a type or an initializer fails only for the
  spelling of a name or number, an initializer also for want of the default of an enumeration.
* `Annotation.LacksDefault`: enumerations without a default, and arrays of such.
* `derivation_of_read`: all of this for whatever is read, at any depth.
-/

namespace NativeProps

open Failure

/-! ### Headers -/

theorem addHeader_known (c : Config) (p : Primitive) (found : List String) :
    ∃ hs, (addHeader c (.known p) found).result = .ok hs := by
  have h : headerOf c (.known p) = .ok (p.header? c) := rfl
  unfold addHeader
  rw [Outcome.result_bind, Outcome.result_liftM, h, Except.bind]
  cases p.header? c with
  | none => exact ⟨found, rfl⟩
  | some header =>
    by_cases hm : header ∈ found
    · exact ⟨found, by simp [hm]⟩
    · exact ⟨found ++ [header], by simp [hm, Except.map]⟩

theorem collectAllHeaders_ok {c : Config} {ps : List Property}
    (each : ∀ p ∈ ps, ∀ found, ∃ hs, (collectHeaders c found p.type).result = .ok hs)
    (found : List String) : ∃ hs, (collectAllHeaders c found ps).result = .ok hs := by
  induction ps generalizing found with
  | nil => exact ⟨found, by rw [collectAllHeaders]; rfl⟩
  | cons p rest ih =>
    obtain ⟨hs, hp⟩ := each p List.mem_cons_self found
    obtain ⟨all, hr⟩ := ih (fun q hq => each q (List.mem_cons_of_mem p hq)) hs
    obtain ⟨name, a, optional⟩ := p
    refine ⟨all, ?_⟩
    rw [collectAllHeaders, Outcome.result_bind, collectPropertyHeaders, hp]
    exact hr

/-- The headers of a settled annotation are found, whatever was found before. -/
theorem Annotation.Settled.collectHeaders {a : Annotation} (h : a.Settled) (c : Config)
    (found : List String) : ∃ hs, (collectHeaders c found a).result = .ok hs := by
  induction h generalizing found with
  | native p =>
    rw [NativeProps.collectHeaders]
    exact addHeader_known c p found
  | @array a element _ =>
    -- an array is looked through for a primitive right below it and no further
    cases element with
    | native p =>
      rw [NativeProps.collectHeaders]
      exact addHeader_known c p found
    | _ => exact ⟨found, by rw [NativeProps.collectHeaders] <;> simp⟩
  | object _ ih =>
    rw [NativeProps.collectHeaders]
    exact collectAllHeaders_ok (fun p hp found => ih p hp found) found
  | _ => exact ⟨found, by rw [NativeProps.collectHeaders] <;> simp⟩

theorem headers_of_settled {ps : List Property} (h : ∀ p ∈ ps, p.type.Settled) (c : Config) :
    ∃ hs, (headers c ps).result = .ok hs :=
  collectAllHeaders_ok (fun p hp found => (h p hp).collectHeaders c found) []

/-! ### Names and numbers -/

theorem fragmentOf_failsOnly (v : Value) : FailsOnly OfSpelling (fragmentOf v) := by
  cases v with
  | string s =>
    rw [fragmentOf_string, fragment]
    cases pascal? s.toList with
    | none => exact .of_error rfl (.name s)
    | some cs => exact .of_ok rfl
  | _ => exact .of_error rfl (.misuse _)

theorem enumName_failsOnly (component : String) (v : Value) :
    FailsOnly OfSpelling (enumName component v) :=
  (fragmentOf_failsOnly v).bind fun _ _ => .of_ok rfl

theorem enumMember_failsOnly (component : String) (property member : Value) :
    FailsOnly OfSpelling (enumMember component property member) :=
  (enumName_failsOnly component property).bind fun _ _ =>
    (fragmentOf_failsOnly member).bind fun _ _ => .of_ok rfl

theorem structName_failsOnly (component : String) (v : Value) :
    FailsOnly OfSpelling (structName component [v]) := by
  unfold structName
  rw [List.mapM_cons, List.mapM_nil]
  exact ((fragmentOf_failsOnly v).bind fun _ _ => .of_ok rfl).bind fun _ _ => .of_ok rfl

theorem orMisuse_failsOnly {α : Type} (m : Misuse) (o : Option α) :
    FailsOnly OfSpelling (orMisuse m o) := by
  cases o with
  | none => exact .of_error rfl (.misuse m)
  | some a => exact .of_ok rfl

theorem toDouble_failsOnly (v : Value) : FailsOnly OfSpelling v.toDouble := by
  cases v with
  | float x => exact .of_ok (a := x) (by rw [Value.toDouble])
  | bool b => exact .of_ok (by rw [Value.toDouble])
  | int n => rw [Value.toDouble]; exact orMisuse_failsOnly _ _
  | string s => rw [Value.toDouble]; exact orMisuse_failsOnly _ _
  | _ => exact .of_error (by rw [Value.toDouble] <;> simp) (.misuse _)

theorem floatingLiteral_failsOnly (v : Value) : FailsOnly OfSpelling (floatingLiteral v) :=
  (toDouble_failsOnly v).bind fun _ _ => .of_ok rfl

/-! ### Declared types -/

theorem scalarTypeOf_name (c : Config) (s : Scalar) :
    (scalarTypeOf c (.string s.name)).result = .ok (c.scalarType s) := by
  have h : scalarOf? (.string s.name) = some s := by
    have hs : Tag.ofName? s.name = some (.scalar s) := Tag.ofName?_name (.scalar s)
    rw [scalarOf?, hs]
  rw [scalarTypeOf, h]
  rfl

theorem declaredType_of_settled {p : Property} (h : p.type.Settled) (component : String)
    (c : Config) : FailsOnly OfSpelling (declaredType component c p).result := by
  unfold declaredType
  cases ht : p.type with
  | scalar s d =>
    refine .of_ok (a := some (c.scalarType s)) ?_
    simp [scalarTypeOf_name, Annotation.tagValue, Except.map]
  | native name => exact .of_ok rfl
  | stringEnum d os => simpa using (enumName_failsOnly component p.name).map some
  | array a =>
    cases a with
    | stringEnum d os =>
      simpa using (enumName_failsOnly component p.name).map fun n => some (maskName n)
    | _ => exact .of_ok rfl
  | object ps => simpa using (structName_failsOnly component p.name).map some
  | raw v => rw [ht] at h; cases h

/-! ### Initializers -/

/-- An enumeration without a default, or an array of such. -/
inductive Annotation.LacksDefault : Annotation → Prop
  | stringEnum (options : List Value) : LacksDefault (.stringEnum .null options)
  | array (options : List Value) : LacksDefault (.array (.stringEnum .null options))

theorem requireDefault_of_ne_null (need : Need) (property : Value) {d : Value} (h : d ≠ .null) :
    requireDefault need property d = .ok d := by
  cases d <;> first | rfl | exact absurd rfl h

theorem scalarInitializer_failsOnly {s : Scalar} {d : Value} (property : Value)
    (h : d = .null → s = .string) : FailsOnly OfSpelling (scalarInitializer s property d) := by
  by_cases hs : s = .string
  · subst hs
    unfold scalarInitializer
    cases d <;> exact .of_ok rfl
  · have hd : d ≠ .null := fun hn => hs (h hn)
    cases s with
    | boolean => exact .of_ok rfl
    | string => exact absurd rfl hs
    | int32 =>
      rw [scalarInitializer, requireDefault_of_ne_null _ property hd]
      exact .of_ok rfl
    | double =>
      rw [scalarInitializer, requireDefault_of_ne_null _ property hd]
      exact floatingLiteral_failsOnly d
    | float =>
      rw [scalarInitializer, requireDefault_of_ne_null _ property hd]
      exact floatingLiteral_failsOnly d

/-- The record of an initializer has no influence on its result. -/
theorem result_initializer (component : String) (p : Property) :
    (initializer component p).result = (initializerOf component p.name p.type).result := by
  rw [initializer, Outcome.result_bind]
  rfl

theorem initializer_of_lacksDefault {p : Property} (h : p.type.LacksDefault)
    (component : String) :
    ∃ need, (initializer component p).result = .error (.fault (.missingDefault need p.name)) := by
  rw [result_initializer]
  generalize p.type = a at h
  cases h with
  | stringEnum options => exact ⟨.stringEnum, rfl⟩
  | array options => exact ⟨.enumArray, rfl⟩

/-- With its default an initializer fails only for the spelling of a name or number. -/
theorem initializer_of_settled {p : Property} (h : p.type.Settled) (hd : ¬p.type.LacksDefault)
    (component : String) : FailsOnly OfSpelling (initializer component p).result := by
  rw [result_initializer]
  generalize p.type = a at h hd
  cases h with
  | scalar null => exact scalarInitializer_failsOnly p.name null
  | native q => exact .of_ok rfl
  | stringEnum d options =>
    have hn : d ≠ .null := by rintro rfl; exact hd (.stringEnum options)
    rw [initializerOf, Outcome.result_bind, Outcome.result_liftM,
      requireDefault_of_ne_null _ p.name hn]
    exact enumMember_failsOnly component p.name d
  | @array e element =>
    cases e with
    | stringEnum d options =>
      have hn : d ≠ .null := by rintro rfl; exact hd (.array options)
      rw [initializerOf, Outcome.result_bind, Outcome.result_liftM,
        requireDefault_of_ne_null _ p.name hn, Except.bind, Outcome.result_bind]
      refine (enumName_failsOnly component p.name).bind fun mask _ => ?_
      rw [Outcome.result_bind]
      exact (enumMember_failsOnly component p.name d).bind fun _ _ => .of_ok rfl
    | _ => exact .of_ok rfl
  | object each => exact .of_ok rfl

/-! ### Whatever is read -/

open Schema in
/-- **Reading provides for all that is derived later.** For properties that were read, under any
configuration, the headers are found; at any depth no property is unknown to its declared type or
initializer; and an initializer wants a default just for an enumeration that has none, alone or as
the element of an array, and never for a scalar. -/
theorem derivation_of_read {data : Value} {ps : List Property}
    (h : (readProperties data).result = .ok ps) (component : String) (c : Config) :
    (∃ hs, (headers c ps).result = .ok hs) ∧
      ∀ p, Annotation.Contains (.object ps) p →
        FailsOnly (¬·.Unknown) (declaredType component c p).result ∧
        FailsOnly (¬·.Unknown) (initializer component p).result ∧
        ((∃ f, (initializer component p).result = .error f ∧ f.LacksDefault) ↔
          p.type.LacksDefault) ∧
        ∀ s d, p.type = .scalar s d →
          FailsOnly (¬·.LacksDefault) (initializer component p).result := by
  have each := settled_of_result h
  refine ⟨headers_of_settled each c, fun p hp => ?_⟩
  have whole : Annotation.Settled (.object ps) := .object each
  have settled := whole.of_contains hp
  have spelling (hd : ¬p.type.LacksDefault) := initializer_of_settled settled hd component
  refine ⟨(declaredType_of_settled settled component c).mono fun _ => OfSpelling.not_unknown,
    ?_, ⟨?_, ?_⟩, ?_⟩
  · by_cases hd : p.type.LacksDefault
    · obtain ⟨need, hn⟩ := initializer_of_lacksDefault hd component
      exact .of_error hn fun hu => by cases hu
    · exact (spelling hd).mono fun _ => OfSpelling.not_unknown
  · rintro ⟨f, hf, lacks⟩
    -- with its default an initializer fails for the spelling alone
    by_contra hd
    exact (spelling hd f hf).not_lacksDefault lacks
  · intro hd
    obtain ⟨need, hn⟩ := initializer_of_lacksDefault hd component
    exact ⟨_, hn, .mk need p.name⟩
  · intro s d hs
    have hd : ¬p.type.LacksDefault := by
      rw [hs]
      rintro ⟨⟩
    exact (spelling hd).mono fun _ => OfSpelling.not_lacksDefault

open Schema in
/-- The array inside an object of the list is reached, and its enumeration has no default. -/
theorem derivation_of_read_nested :
    let fits : Value := .object [("name", .string "fits"), ("typeAnnotation", .object
      [("type", .string "ArrayTypeAnnotation"), ("elementType", .object
        [("type", .string "StringEnumTypeAnnotation"), ("default", .null)])])]
    let data : Value := .array [.object [("name", .string "box"), ("typeAnnotation", .object
      [("type", .string "ObjectTypeAnnotation"), ("properties", .array [fits])])]]
    let p : Property := ⟨.string "fits", .array (.stringEnum .null []), false⟩
    let ps : List Property := [⟨.string "box", .object [p], false⟩]
    (readProperties data).result = .ok ps ∧ Annotation.Contains (.object ps) p ∧
      (∃ hs, (headers {} ps).result = .ok hs) ∧
      ∃ f, (initializer "Crop" p).result = .error f ∧ f.LacksDefault := by
  intro fits data p ps
  have inner : DescribesProperty fits p :=
    .mk rfl rfl (.array rfl rfl (.stringEnum rfl .absent))
  have described : DescribesList data ps :=
    .mk (.cons (.mk rfl rfl (.object rfl rfl (.cons inner .nil))) .nil)
  have reached : Annotation.Contains (.object ps) p :=
    .nested List.mem_cons_self (.property List.mem_cons_self)
  obtain ⟨found, each⟩ := derivation_of_read described.result "Crop" {}
  exact ⟨described.result, reached, found, (each p reached).2.2.1.mpr (.array [])⟩

end NativeProps
