import Mathlib.Data.List.Forall2
import NativeProps.Declaration.Summary
import NativeProps.Proofs.Declaration.Dispatch

/-!
# What a summary comes to

A summary asks for a tag, a declared type and an initializer, each found by cases of its own. Here
the three are brought together: one equation says what the summary of any property comes to.

* `result_summary`: the equation, by cases on the annotation.
* `Summarized`: the summaries that there are, one case for each kind of annotation.
* `result_summary_ok_iff`: a property has a summary just where this relation gives one.
* `result_describe_ok_iff`: a list has summaries if each of its properties has one.
-/

namespace NativeProps

/-! ### One equation -/

theorem result_enumName (component : String) (name : Value) :
    enumName component name = (fragmentOf name).map (component ++ ·) := by
  unfold enumName
  cases fragmentOf name <;> rfl

theorem result_structName (component : String) (name : Value) :
    structName component [name] = (fragmentOf name).map fun n => component ++ n ++ "Struct" := by
  unfold structName
  rw [List.mapM_cons, List.mapM_nil]
  cases fragmentOf name with
  | error f => rfl
  | ok n =>
    show Except.ok (component ++ String.join [n] ++ "Struct") = _
    rw [String.join_cons, String.join_nil, String.append_empty]
    rfl

theorem result_enumMember (component : String) (name member : Value) :
    enumMember component name member = (fragmentOf name).bind fun n =>
      (fragmentOf member).map fun m => component ++ n ++ "::" ++ m := by
  unfold enumMember
  rw [result_enumName]
  cases fragmentOf name with
  | error f => rfl
  | ok n => cases fragmentOf member <;> rfl

/-- What the summary of a property comes to. A name is looked at before a default, and a default
before the member that it names. -/
theorem result_summary (component : String) (c : Config) (p : Property) :
    (p.summary component c).result =
      match p.type with
      | .raw v => .error (.misuse (.lacks v.kind "type"))
      | .scalar s d => (scalarInitializer s p.name d).map fun text =>
          ⟨p.name, .scalar s, some (c.scalarType s), text⟩
      | .native name =>
        match name.primitive? with
        | some _ => .ok ⟨p.name, .native, none, ""⟩
        | none => .error (.fault (.unknownPrimitive name.toValue))
      | .stringEnum d _ => (fragmentOf p.name).bind fun n =>
          (requireDefault .stringEnum p.name d).bind fun d => (fragmentOf d).map fun m =>
            ⟨p.name, .stringEnum, some (component ++ n), component ++ n ++ "::" ++ m⟩
      | .array (.stringEnum d _) => (fragmentOf p.name).bind fun n =>
          (requireDefault .enumArray p.name d).bind fun d => (fragmentOf d).map fun m =>
            ⟨p.name, .array, some (maskName (component ++ n)), "static_cast<" ++
              maskName (component ++ n) ++ ">(" ++ (component ++ n ++ "::" ++ m) ++ ")"⟩
      | .array _ => .ok ⟨p.name, .array, none, ""⟩
      | .object _ => (fragmentOf p.name).map fun n =>
          ⟨p.name, .object, some (component ++ n ++ "Struct"), ""⟩ := by
  obtain ⟨name, a, optional⟩ := p
  cases a with
  | raw v => rfl
  | scalar s d =>
    simp only [Property.summary, Annotation.tag?, Outcome.result_bind, declaredType,
      Annotation.tagValue, scalarTypeOf_name, result_initializer, initializerOf]
    cases scalarInitializer s name d <;> simp [Except.bind, Except.map]
  | native ref =>
    simp only [Property.summary, Annotation.tag?, Outcome.result_bind, declaredType,
      result_initializer, initializerOf]
    cases ref.primitive? <;> rfl
  | stringEnum d options =>
    simp only [Property.summary, Annotation.tag?, Outcome.result_bind, declaredType,
      result_enumName, result_initializer, initializerOf, result_enumMember]
    cases fragmentOf name with
    | error f => rfl
    | ok n =>
      cases requireDefault .stringEnum name d with
      | error f => simp [Except.bind, Except.map]
      | ok d => cases hm : fragmentOf d <;> simp [hm, Except.bind, Except.map]
  | array e =>
    cases e with
    | stringEnum d options =>
      simp only [Property.summary, Annotation.tag?, Outcome.result_bind, declaredType,
        result_enumName, result_initializer, initializerOf, result_enumMember]
      cases fragmentOf name with
      | error f => rfl
      | ok n =>
        cases requireDefault .enumArray name d with
        | error f => simp [Except.bind, Except.map]
        | ok d => cases hm : fragmentOf d <;> simp [hm, Except.bind, Except.map]
    | _ => rfl
  | object ps =>
    simp only [Property.summary, Annotation.tag?, Outcome.result_bind, declaredType,
      result_structName, result_initializer, initializerOf]
    cases fragmentOf name <;> rfl

/-! ### Summaries -/

/-- The summary of a property, for each kind of annotation that has one. -/
inductive Summarized (component : String) (c : Config) (p : Property) : Summary → Prop
  | scalar {s : Scalar} {d : Value} {text : String} (type : p.type = .scalar s d)
      (written : scalarInitializer s p.name d = .ok text) :
      Summarized component c p ⟨p.name, .scalar s, some (c.scalarType s), text⟩
  | native {name : PrimitiveRef} {q : Primitive} (type : p.type = .native name)
      (known : name.primitive? = some q) : Summarized component c p ⟨p.name, .native, none, ""⟩
  | stringEnum {d : Value} {options : List Value} {n m : String}
      (type : p.type = .stringEnum d options) (given : d ≠ .null)
      (name : fragmentOf p.name = .ok n) (member : fragmentOf d = .ok m) :
      Summarized component c p
        ⟨p.name, .stringEnum, some (component ++ n), component ++ n ++ "::" ++ m⟩
  | mask {d : Value} {options : List Value} {n m : String}
      (type : p.type = .array (.stringEnum d options)) (given : d ≠ .null)
      (name : fragmentOf p.name = .ok n) (member : fragmentOf d = .ok m) :
      Summarized component c p
        ⟨p.name, .array, some (maskName (component ++ n)), "static_cast<" ++
          maskName (component ++ n) ++ ">(" ++ (component ++ n ++ "::" ++ m) ++ ")"⟩
  | array {e : Annotation} (type : p.type = .array e)
      (other : ∀ d options, e ≠ .stringEnum d options) :
      Summarized component c p ⟨p.name, .array, none, ""⟩
  | object {ps : List Property} {n : String} (type : p.type = .object ps)
      (name : fragmentOf p.name = .ok n) :
      Summarized component c p ⟨p.name, .object, some (component ++ n ++ "Struct"), ""⟩

variable {component : String} {c : Config} {p : Property} {s : Summary}

theorem Summarized.result (h : Summarized component c p s) :
    (p.summary component c).result = .ok s := by
  rw [result_summary]
  cases h with
  | scalar type written => simp only [type, written, Except.map]
  | native type known => simp only [type, known]
  | stringEnum type given name member =>
    simp only [type, name, requireDefault_of_ne_null _ p.name given, member, Except.bind,
      Except.map]
  | mask type given name member =>
    simp only [type, name, requireDefault_of_ne_null _ p.name given, member, Except.bind,
      Except.map]
  | @array e type other =>
    rw [type]
    cases e with
    | stringEnum d options => exact absurd rfl (other d options)
    | _ => rfl
  | object type name => simp only [type, name, Except.map]

/-- A default that is required and there is not `null`. -/
theorem requireDefault_eq_ok {need : Need} {name d e : Value}
    (h : requireDefault need name d = .ok e) : d ≠ .null ∧ e = d := by
  cases d <;> cases h <;> exact ⟨nofun, rfl⟩

theorem summarized_of_result (h : (p.summary component c).result = .ok s) :
    Summarized component c p s := by
  rw [result_summary] at h
  cases ht : p.type with
  | raw v =>
    rw [ht] at h
    cases h
  | scalar scalar d =>
    simp only [ht] at h
    obtain ⟨text, written, rfl⟩ := map_eq_ok_iff.1 h
    exact .scalar ht written
  | native name =>
    simp only [ht] at h
    cases known : name.primitive? with
    | none =>
      rw [known] at h
      cases h
    | some q =>
      rw [known] at h
      cases h
      exact .native ht known
  | stringEnum d options =>
    simp only [ht] at h
    obtain ⟨n, name, hname⟩ := bind_eq_ok_iff.1 h
    obtain ⟨e, required, hmember⟩ := bind_eq_ok_iff.1 hname
    obtain ⟨m, member, rfl⟩ := map_eq_ok_iff.1 hmember
    obtain ⟨given, rfl⟩ := requireDefault_eq_ok required
    exact .stringEnum ht given name member
  | array e =>
    cases e with
    | stringEnum d options =>
      simp only [ht] at h
      obtain ⟨n, name, hname⟩ := bind_eq_ok_iff.1 h
      obtain ⟨e, required, hmember⟩ := bind_eq_ok_iff.1 hname
      obtain ⟨m, member, rfl⟩ := map_eq_ok_iff.1 hmember
      obtain ⟨given, rfl⟩ := requireDefault_eq_ok required
      exact .mask ht given name member
    | _ =>
      simp only [ht] at h
      cases h
      exact .array ht nofun
  | object ps =>
    simp only [ht] at h
    obtain ⟨n, name, rfl⟩ := map_eq_ok_iff.1 h
    exact .object ht name

theorem result_summary_ok_iff :
    (p.summary component c).result = .ok s ↔ Summarized component c p s :=
  ⟨summarized_of_result, Summarized.result⟩

/-- Records aside, the properties of a list are summarized one after the other. -/
theorem result_describe (component : String) (c : Config) (ps : List Property) :
    (describe component c ps).result = ps.mapM fun p => (p.summary component c).result := by
  induction ps with
  | nil => rfl
  | cons p rest ih =>
    rw [describe, List.mapM_cons, ← ih, Outcome.result_bind]
    congr 1
    funext s
    rw [Outcome.result_bind]
    rfl

theorem result_describe_ok_iff {ps : List Property} {ss : List Summary} :
    (describe component c ps).result = .ok ss ↔
      List.Forall₂ (Summarized component c) ps ss := by
  rw [result_describe, mapM_eq_ok_iff]
  simp only [result_summary_ok_iff]

end NativeProps
