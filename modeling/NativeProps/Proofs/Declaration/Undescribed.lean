import NativeProps.Proofs.Declaration.Summarized

/-!
# Properties without a summary

`Summarized` gives the summaries that there are; here stand the failures of the properties that have
none. Neither the component nor the configuration has a part in them.

* `BadName`, `NotNumber`: the values that give no fragment of a name, and those that give no number.
* `Annotation.Enumerates`: enumerations and arrays of such, with the default that they need.
* `Undescribed`: the properties without a summary and the failure of each.
* `result_summary_error_iff`: a summary fails just where this relation gives the failure.
* `UndescribedIn`, `result_describe_error_iff`: a list fails with its first property that has no
  summary.
-/

namespace NativeProps

/-! ### Names and numbers -/

/-- A value that gives no fragment of a name: it is no text, or it has an empty segment. -/
inductive BadName : Value → Failure → Prop
  | notText {v : Value} (kind : v.kind ≠ .string) : BadName v (.misuse (.lacks v.kind "split"))
  | emptySegment {s : String} (empty : [] ∈ segments s.toList) :
      BadName (.string s) (.fault (.emptySegment s))

theorem pascal?_eq_none_iff {cs : List Char} : pascal? cs = none ↔ [] ∈ segments cs := by
  simp [pascal?]

theorem fragmentOf_eq_error_iff {v : Value} {f : Failure} :
    fragmentOf v = .error f ↔ BadName v f := by
  constructor
  · intro h
    cases v with
    | string s =>
      rw [fragmentOf_string, fragment] at h
      cases hp : pascal? s.toList with
      | some cs =>
        rw [hp] at h
        cases h
      | none =>
        rw [hp] at h
        cases h
        exact .emptySegment (pascal?_eq_none_iff.1 hp)
    | _ =>
      cases h
      exact .notText (by simp [Value.kind])
  · rintro (kind | empty)
    · cases v with
      | string s => exact absurd rfl kind
      | _ => rfl
    · rw [fragmentOf_string, fragment, pascal?_eq_none_iff.2 empty]

/-- A value that gives no number, and what is wrong with it. -/
inductive NotNumber : Value → Misuse → Prop
  | null : NotNumber .null (.notNumber .null)
  | array (items : List Value) : NotNumber (.array items) (.notNumber .array)
  | object (members : Members) : NotNumber (.object members) (.notNumber .object)
  | notNumeral {s : String} (h : Double.ofText? s = none) : NotNumber (.string s) (.notNumeral s)
  | outOfRange {n : Int} (h : Double.ofInt? n = none) : NotNumber (.int n) .outOfRange

theorem orMisuse_eq_error_iff {α : Type} {m : Misuse} {o : Option α} {f : Failure} :
    orMisuse m o = .error f ↔ o = none ∧ f = .misuse m := by
  cases o <;> simp [orMisuse, eq_comm]

theorem toDouble_eq_error_iff {v : Value} {f : Failure} :
    v.toDouble = .error f ↔ ∃ m, NotNumber v m ∧ f = .misuse m := by
  constructor
  · intro h
    cases v with
    | int n =>
      obtain ⟨none, rfl⟩ := orMisuse_eq_error_iff.1 (by simpa only [Value.toDouble] using h)
      exact ⟨_, .outOfRange none, rfl⟩
    | string s =>
      obtain ⟨none, rfl⟩ := orMisuse_eq_error_iff.1 (by simpa only [Value.toDouble] using h)
      exact ⟨_, .notNumeral none, rfl⟩
    | float x => simp only [Value.toDouble, reduceCtorEq] at h
    | bool b => simp only [Value.toDouble, reduceCtorEq] at h
    | null =>
      cases h
      exact ⟨_, .null, rfl⟩
    | array items =>
      cases h
      exact ⟨_, .array items, rfl⟩
    | object members =>
      cases h
      exact ⟨_, .object members, rfl⟩
  · rintro ⟨m, bad, rfl⟩
    cases bad with
    | notNumeral h => rw [Value.toDouble, h, orMisuse]
    | outOfRange h => rw [Value.toDouble, h, orMisuse]
    | _ => rfl

/-! ### Properties -/

/-- An enumeration or an array of one, with the default that it needs. -/
inductive Annotation.Enumerates : Annotation → Need → Value → Prop
  | alone (d : Value) (options : List Value) : Enumerates (.stringEnum d options) .stringEnum d
  | mask (d : Value) (options : List Value) :
      Enumerates (.array (.stringEnum d options)) .enumArray d

/-- A property without a summary. Its name is looked at before its default, as far as either is
looked at. -/
inductive Undescribed (p : Property) : Failure → Prop
  | raw {v : Value} (type : p.type = .raw v) : Undescribed p (.misuse (.lacks v.kind "type"))
  | primitive {name : PrimitiveRef} (type : p.type = .native name)
      (unknown : name.primitive? = none) :
      Undescribed p (.fault (.unknownPrimitive name.toValue))
  | object {ps : List Property} {f : Failure} (type : p.type = .object ps)
      (bad : BadName p.name f) : Undescribed p f
  | enumeration {need : Need} {d : Value} {f : Failure} (type : p.type.Enumerates need d)
      (bad : BadName p.name f) : Undescribed p f
  | noMember {need : Need} {n : String} (type : p.type.Enumerates need .null)
      (name : fragmentOf p.name = .ok n) : Undescribed p (.fault (.missingDefault need p.name))
  | member {need : Need} {d : Value} {n : String} {f : Failure} (type : p.type.Enumerates need d)
      (name : fragmentOf p.name = .ok n) (given : d ≠ .null) (bad : BadName d f) : Undescribed p f
  | noNumber {s : Scalar} (type : p.type = .scalar s .null)
      (number : s = .int32 ∨ s = .double ∨ s = .float) :
      Undescribed p (.fault (.missingDefault (.scalar s) p.name))
  | number {s : Scalar} {d : Value} {m : Misuse} (type : p.type = .scalar s d)
      (floating : s = .double ∨ s = .float) (given : d ≠ .null) (bad : NotNumber d m) :
      Undescribed p (.misuse m)

variable {component : String} {c : Config} {p : Property}

/-- What is done with a required default fails for want of it, or by itself. -/
theorem requireDefault_bind_eq_error_iff {α : Type} {need : Need} {name d : Value} {f : Failure}
    {g : Value → Except Failure α} :
    (requireDefault need name d).bind g = .error f ↔
      (d = .null ∧ f = .fault (.missingDefault need name)) ∨ (d ≠ .null ∧ g d = .error f) := by
  by_cases hd : d = .null
  · subst hd
    simp [requireDefault, Except.bind, eq_comm]
  · rw [requireDefault_of_ne_null need name hd]
    simp [Except.bind, hd]

/-- The names of enumerations come before their members. -/
theorem enumeration_eq_error_iff {need : Need} {name d : Value} {f : Failure}
    {made : String → String → Summary} :
    ((fragmentOf name).bind fun n => (requireDefault need name d).bind fun d =>
      (fragmentOf d).map (made n)) = .error f ↔
      BadName name f ∨ ∃ n, fragmentOf name = .ok n ∧
        ((d = .null ∧ f = .fault (.missingDefault need name)) ∨ (d ≠ .null ∧ BadName d f)) := by
  rw [bind_eq_error_iff, fragmentOf_eq_error_iff]
  simp only [requireDefault_bind_eq_error_iff, map_eq_error_iff, fragmentOf_eq_error_iff]

theorem floatingLiteral_eq_error_iff {v : Value} {f : Failure} :
    floatingLiteral v = .error f ↔ ∃ m, NotNumber v m ∧ f = .misuse m := by
  rw [← toDouble_eq_error_iff]
  exact bind_eq_error_iff.trans (by simp [Pure.pure, Except.pure])

/-- Only a number needs its default, and only a floating one is read from it. -/
theorem scalarInitializer_eq_error_iff {s : Scalar} {name d : Value} {f : Failure} :
    scalarInitializer s name d = .error f ↔
      (d = .null ∧ (s = .int32 ∨ s = .double ∨ s = .float) ∧
        f = .fault (.missingDefault (.scalar s) name)) ∨
      (d ≠ .null ∧ (s = .double ∨ s = .float) ∧ ∃ m, NotNumber d m ∧ f = .misuse m) := by
  cases s with
  | boolean => simp [scalarInitializer]
  | string => cases d <;> simp [scalarInitializer]
  | int32 =>
    refine requireDefault_bind_eq_error_iff.trans ?_
    simp [Pure.pure, Except.pure]
  | double | float =>
    refine requireDefault_bind_eq_error_iff.trans ?_
    simp [floatingLiteral_eq_error_iff]

/-- Both kinds of enumeration fail in the same way. -/
theorem Annotation.Enumerates.summary_eq_error_iff {need : Need} {d : Value} {f : Failure}
    (type : p.type.Enumerates need d) :
    (p.summary component c).result = .error f ↔
      BadName p.name f ∨ ∃ n, fragmentOf p.name = .ok n ∧
        ((d = .null ∧ f = .fault (.missingDefault need p.name)) ∨ (d ≠ .null ∧ BadName d f)) := by
  rw [result_summary]
  generalize p.type = a at type
  cases type with
  | alone options => exact enumeration_eq_error_iff
  | mask options => exact enumeration_eq_error_iff

theorem Annotation.Enumerates.undescribed {need : Need} {d : Value} {f : Failure}
    (type : p.type.Enumerates need d) (h : (p.summary component c).result = .error f) :
    Undescribed p f := by
  rcases type.summary_eq_error_iff.1 h with bad | ⟨n, name, ⟨rfl, rfl⟩ | ⟨given, bad⟩⟩
  · exact .enumeration type bad
  · exact .noMember type name
  · exact .member type name given bad

theorem undescribed_of_result {f : Failure} (h : (p.summary component c).result = .error f) :
    Undescribed p f := by
  have hsummary := h
  rw [result_summary] at hsummary
  cases ht : p.type with
  | raw v =>
    rw [ht] at hsummary
    cases hsummary
    exact .raw ht
  | scalar s d =>
    simp only [ht, map_eq_error_iff, scalarInitializer_eq_error_iff] at hsummary
    rcases hsummary with ⟨rfl, number, rfl⟩ | ⟨given, floating, m, bad, rfl⟩
    · exact .noNumber ht number
    · exact .number ht floating given bad
  | native name =>
    simp only [ht] at hsummary
    cases unknown : name.primitive? with
    | some q =>
      rw [unknown] at hsummary
      cases hsummary
    | none =>
      rw [unknown] at hsummary
      cases hsummary
      exact .primitive ht unknown
  | stringEnum d options =>
    have type : p.type.Enumerates .stringEnum d := ht ▸ .alone d options
    exact type.undescribed h
  | array e =>
    cases e with
    | stringEnum d options =>
      have type : p.type.Enumerates .enumArray d := ht ▸ .mask d options
      exact type.undescribed h
    | _ =>
      simp only [ht] at hsummary
      cases hsummary
  | object ps =>
    simp only [ht, map_eq_error_iff, fragmentOf_eq_error_iff] at hsummary
    exact .object ht hsummary

theorem Undescribed.result {f : Failure} (h : Undescribed p f) :
    (p.summary component c).result = .error f := by
  cases h with
  | raw type => rw [result_summary, type]
  | primitive type unknown => simp only [result_summary, type, unknown]
  | object type bad =>
    simp only [result_summary, type, map_eq_error_iff, fragmentOf_eq_error_iff, bad]
  | enumeration type bad => exact type.summary_eq_error_iff.2 (.inl bad)
  | noMember type name => exact type.summary_eq_error_iff.2 (.inr ⟨_, name, .inl ⟨rfl, rfl⟩⟩)
  | member type name given bad =>
    exact type.summary_eq_error_iff.2 (.inr ⟨_, name, .inr ⟨given, bad⟩⟩)
  | noNumber type number =>
    simp only [result_summary, type, map_eq_error_iff]
    exact scalarInitializer_eq_error_iff.2 (.inl ⟨rfl, number, rfl⟩)
  | number type floating given bad =>
    simp only [result_summary, type, map_eq_error_iff]
    exact scalarInitializer_eq_error_iff.2 (.inr ⟨given, floating, _, bad, rfl⟩)

theorem result_summary_error_iff {f : Failure} :
    (p.summary component c).result = .error f ↔ Undescribed p f :=
  ⟨undescribed_of_result, Undescribed.result⟩

/-! ### Lists -/

/-- The first property without a summary decides how a list fails. -/
inductive UndescribedIn : List Property → Failure → Prop
  | element {before after : List Property} {p : Property} {f : Failure}
      (described : ∀ q ∈ before, ∀ g, ¬Undescribed q g) (undescribed : Undescribed p f) :
      UndescribedIn (before ++ p :: after) f

/-- A property has a summary unless it is undescribed. -/
theorem exists_summary (component : String) (c : Config) (p : Property)
    (described : ∀ g, ¬Undescribed p g) : ∃ s, (p.summary component c).result = .ok s := by
  cases h : (p.summary component c).result with
  | ok s => exact ⟨s, rfl⟩
  | error f => exact absurd (result_summary_error_iff.1 h) (described f)

theorem result_describe_error_iff {ps : List Property} {f : Failure} :
    (describe component c ps).result = .error f ↔ UndescribedIn ps f := by
  rw [result_describe]
  constructor
  · intro h
    obtain ⟨before, p, after, rfl, passed, fails⟩ := exists_first_of_mapM_eq_error h
    refine .element (fun q hq g undescribed => ?_) (result_summary_error_iff.1 fails)
    obtain ⟨s, hs⟩ := passed q hq
    rw [undescribed.result] at hs
    cases hs
  · rintro ⟨described, undescribed⟩
    exact mapM_append_of_error (fun q hq => exists_summary component c q (described q hq))
      undescribed.result

end NativeProps
