import NativeProps.Proofs.Declaration.Summarized
import NativeProps.Proofs.Text.UpperCase

/-!
# Declared types agree with initializers

The type and the initializer of a property come from two independent case distinctions. In every
summary they fit together: an initializer names members of the very type that is declared, and
where one of them is missing, the annotation tells so.

* `Double.literal_ne_empty`, `Value.text_eq_empty_iff`, `ne_empty_of_fragmentOf`: what is written as
  nothing.
* `Annotation.Untyped`, `Annotation.Uninitialized`: the annotations without a declared type, and
  those without an initializer.
* `Agrees`: type and initializer of a summary fit together.
* `Summarized.agrees`: they do in the summary of a single property.
* `describe_agrees`: they do in all summaries of a list.
-/

namespace NativeProps

/-! ### Written values -/

theorem Decimal.write_ne_nil (style : NumberStyle) (d : Decimal) : d.write style ≠ [] := by
  simp only [Decimal.write]
  split_ifs
  · simp only [Decimal.positional]
    split_ifs <;> simp
  · simp [Decimal.scientific]

theorem Double.chars_ne_nil (x : Double) : x.chars ≠ [] := by
  cases x with
  | nan => exact nofun
  | infinite negative => cases negative <;> exact nofun
  | finite negative units representable =>
    simp only [Double.chars]
    split_ifs
    · simp
    · simp [Decimal.write_ne_nil]

theorem Double.literal_ne_empty (x : Double) : x.literal ≠ "" := by
  have hchars : x.literalChars ≠ [] := by
    cases x with
    | finite negative units representable =>
      simp only [Double.literalChars]
      split_ifs
      · simp
      · simp
      · exact Double.chars_ne_nil _
    | infinite negative => exact Double.chars_ne_nil (.infinite negative)
    | nan => exact Double.chars_ne_nil .nan
  intro h
  exact hchars (by simpa [Double.literal] using h)

/-- Only the empty text is written as nothing. -/
theorem Value.text_eq_empty_iff {v : Value} : v.text = "" ↔ v = .string "" := by
  cases v with
  | string s => simp
  | null => simp [Value.text, Value.literal]
  | bool b => cases b <;> simp [Value.text, Value.literal]
  | int n => simp [Value.text, Value.literal, Value.intText, Decimal.digitsOf]
  | float x => simp [Value.text, Value.literal, Double.text, Double.chars_ne_nil]
  | array items => simp [Value.text, Value.literal]
  | object members => simp [Value.text, Value.literal]

/-- A fragment has characters, since the first segment of its name has one. -/
theorem ne_empty_of_fragmentOf {v : Value} {n : String} (h : fragmentOf v = .ok n) : n ≠ "" := by
  cases v with
  | string s =>
    rw [fragmentOf_string, fragment] at h
    cases hp : pascal? s.toList with
    | none =>
      rw [hp] at h
      cases h
    | some cs =>
      rw [hp] at h
      cases h
      obtain ⟨hall, rfl⟩ : (∀ part ∈ segments s.toList, part ≠ []) ∧
          (segments s.toList).flatMap Text.capitalize = cs := by simpa [pascal?] using hp
      obtain ⟨part, parts, hparts⟩ := List.exists_cons_of_ne_nil (Text.splitOn_ne_nil '-' s.toList)
      have hpart : part ≠ [] := hall part (by rw [segments, hparts]; exact List.mem_cons_self)
      obtain ⟨c, rest, rfl⟩ := List.exists_cons_of_ne_nil hpart
      rw [segments, hparts]
      simp [Text.upper_ne_nil]
  | _ => cases h

/-! ### Missing types and initializers -/

/-- The annotations that are declared elsewhere: native primitives and arrays of anything but
enumerations. -/
inductive Annotation.Untyped : Annotation → Prop
  | native (name : PrimitiveRef) : Untyped (.native name)
  | array {e : Annotation} (other : ∀ d options, e ≠ .stringEnum d options) : Untyped (.array e)

/-- The annotations without an initializer. -/
inductive Annotation.Uninitialized : Annotation → Prop
  | untyped {a : Annotation} (untyped : a.Untyped) : Uninitialized a
  | object (ps : List Property) : Uninitialized (.object ps)
  | string : Uninitialized (.scalar .string .null)
  | int32 : Uninitialized (.scalar .int32 (.string ""))

theorem scalarInitializer_eq_empty_iff {s : Scalar} {name d : Value} {text : String}
    (h : scalarInitializer s name d = .ok text) :
    text = "" ↔ Annotation.Uninitialized (.scalar s d) := by
  have inv : Annotation.Uninitialized (.scalar s d) ↔
      (s = .string ∧ d = .null) ∨ (s = .int32 ∧ d = .string "") := by
    constructor
    · rintro (⟨⟨⟩⟩ | _ | _ | _)
      · exact .inl ⟨rfl, rfl⟩
      · exact .inr ⟨rfl, rfl⟩
    · rintro (⟨rfl, rfl⟩ | ⟨rfl, rfl⟩)
      · exact .string
      · exact .int32
  rw [inv]
  cases s with
  | boolean =>
    cases h
    cases d.isTrue <;> simp
  | string => cases d <;> cases h <;> simp
  | int32 =>
    obtain ⟨e, required, written⟩ := bind_eq_ok_iff.1 h
    obtain ⟨-, rfl⟩ := requireDefault_eq_ok required
    cases written
    simp [Value.text_eq_empty_iff]
  | double | float =>
    obtain ⟨e, required, written⟩ := bind_eq_ok_iff.1 h
    obtain ⟨x, -, literal⟩ := bind_eq_ok_iff.1 written
    cases literal
    simp [Double.literal_ne_empty]

/-! ### Agreement -/

/-- Type and initializer of a summary fit together and to the annotation. -/
structure Agrees (component : String) (c : Config) (p : Property) (s : Summary) : Prop where
  name : s.name = p.name
  tag : p.type.tag? = some s.tag
  /-- An enumeration is initialized with a member of the declared type. -/
  stringEnum : ∀ d options, p.type = .stringEnum d options →
    ∃ type member, s.type? = some type ∧ fragmentOf d = .ok member ∧
      s.initializer = type ++ "::" ++ member
  /-- An array of an enumeration is declared with the mask of the type that the enumeration alone
  would have under the name, and initialized with a member of that type as such a mask. -/
  mask : ∀ d options, p.type = .array (.stringEnum d options) →
    ∃ type member,
      (∀ q : Property, q.name = p.name → q.type.tag? = some .stringEnum →
        (declaredType component c q).result = .ok (some type)) ∧
      s.type? = some (type ++ "Mask") ∧ fragmentOf d = .ok member ∧
      s.initializer =
        "static_cast<" ++ (type ++ "Mask") ++ ">(" ++ (type ++ "::" ++ member) ++ ")"
  untyped : s.type? = none ↔ p.type.Untyped
  initializer_of_untyped : s.type? = none → s.initializer = ""
  uninitialized : s.initializer = "" ↔ p.type.Uninitialized
  /-- A scalar is declared with its name in the configuration. -/
  scalar : ∀ t d, p.type = .scalar t d → s.type? = some (c.scalarType t)

/-- The type of an enumeration depends on its name alone. -/
theorem declaredType_of_stringEnum {component n : String} (c : Config) {q : Property}
    (tag : q.type.tag? = some .stringEnum) (name : fragmentOf q.name = .ok n) :
    (declaredType component c q).result = .ok (some (component ++ n)) := by
  unfold declaredType
  cases hq : q.type with
  | stringEnum d options => simp [result_enumName, name, Except.map]
  | _ => simp [hq, Annotation.tag?] at tag

theorem Summarized.agrees {component : String} {c : Config} {p : Property} {s : Summary}
    (h : Summarized component c p s) : Agrees component c p s := by
  obtain ⟨name, a, optional⟩ := p
  cases h with
  | @scalar t d text type written =>
    obtain rfl : a = .scalar t d := type
    exact
      { name := rfl, tag := rfl, stringEnum := nofun, mask := nofun
        untyped := ⟨nofun, nofun⟩
        initializer_of_untyped := nofun
        uninitialized := scalarInitializer_eq_empty_iff written
        scalar := by
          rintro _ _ ⟨⟩
          rfl }
  | @native ref q type known =>
    obtain rfl : a = .native ref := type
    exact
      { name := rfl, tag := rfl, stringEnum := nofun, mask := nofun, scalar := nofun
        untyped := ⟨fun _ => .native ref, fun _ => rfl⟩
        initializer_of_untyped := fun _ => rfl
        uninitialized := ⟨fun _ => .untyped (.native ref), fun _ => rfl⟩ }
  | @stringEnum d options n m type given hname member =>
    obtain rfl : a = .stringEnum d options := type
    exact
      { name := rfl, tag := rfl, mask := nofun, scalar := nofun
        stringEnum := by
          rintro _ _ ⟨⟩
          exact ⟨component ++ n, m, rfl, member, rfl⟩
        untyped := ⟨nofun, nofun⟩
        initializer_of_untyped := nofun
        uninitialized := ⟨by simp, by rintro (⟨⟨⟩⟩)⟩ }
  | @mask d options n m type given hname member =>
    obtain rfl : a = .array (.stringEnum d options) := type
    exact
      { name := rfl, tag := rfl, stringEnum := nofun, scalar := nofun
        mask := by
          rintro _ _ ⟨⟩
          refine ⟨component ++ n, m, fun q hq tag => ?_, rfl, member, rfl⟩
          exact declaredType_of_stringEnum c tag (hq ▸ hname)
        untyped := ⟨nofun, by rintro (_ | ⟨other⟩); exact absurd rfl (other d options)⟩
        initializer_of_untyped := nofun
        uninitialized :=
          ⟨by simp, by rintro (⟨_ | ⟨other⟩⟩); exact absurd rfl (other d options)⟩ }
  | @array e type other =>
    obtain rfl : a = .array e := type
    exact
      { name := rfl, tag := rfl, stringEnum := nofun, scalar := nofun
        mask := by
          rintro d options ⟨⟩
          exact absurd rfl (other d options)
        untyped := ⟨fun _ => .array other, fun _ => rfl⟩
        initializer_of_untyped := fun _ => rfl
        uninitialized := ⟨fun _ => .untyped (.array other), fun _ => rfl⟩ }
  | @object ps n type hname =>
    obtain rfl : a = .object ps := type
    exact
      { name := rfl, tag := rfl, stringEnum := nofun, mask := nofun, scalar := nofun
        untyped := ⟨nofun, nofun⟩
        initializer_of_untyped := nofun
        uninitialized := ⟨fun _ => .object ps, fun _ => rfl⟩ }

/-- No type is declared with an empty name. -/
theorem Summarized.type_ne_empty {component : String} {c : Config} {p : Property} {s : Summary}
    (h : Summarized component c p s) (named : ∀ f, c.get f ≠ "") : s.type? ≠ some "" := by
  cases h with
  | scalar type written => simpa [Config.scalarType] using named _
  | stringEnum type given name member => simp [ne_empty_of_fragmentOf name]
  | mask type given name member => simp [maskName]
  | object type name => simp
  | native type known => exact nofun
  | array type other => exact nofun

/-- **Declared types agree with initializers** in every summary, however the properties of the list
are nested and whatever the configuration. -/
theorem describe_agrees {component : String} {c : Config} {ps : List Property}
    {ss : List Summary} (h : (describe component c ps).result = .ok ss) :
    List.Forall₂ (Agrees component c) ps ss :=
  (result_describe_ok_iff.1 h).imp fun _ _ => Summarized.agrees

/-- Segments of names and members run together in type and initializer alike, and a number that is
given as an empty text has a type but no initializer. -/
theorem describe_agrees_segments :
    let ps : List Property :=
      [⟨.string "resize-mode", .stringEnum (.string "stretch-all") [], false⟩,
        ⟨.string "resize-mode", .array (.stringEnum (.string "ß-x") []), true⟩,
        ⟨.int 3, .scalar .int32 (.string ""), false⟩]
    let ss : List Summary :=
      [⟨.string "resize-mode", .stringEnum, some "CropResizeMode", "CropResizeMode::StretchAll"⟩,
        ⟨.string "resize-mode", .array, some "CropResizeModeMask",
          "static_cast<CropResizeModeMask>(CropResizeMode::SSX)"⟩,
        ⟨.int 3, .scalar .int32, some "long", ""⟩]
    (describe "Crop" { intType := "long" } ps).result = .ok ss ∧
      List.Forall₂ (Agrees "Crop" { intType := "long" }) ps ss := by
  intro ps ss
  have hname : fragmentOf (.string "resize-mode") = .ok "ResizeMode" := by rfl
  have hmember : fragmentOf (.string "stretch-all") = .ok "StretchAll" := by rfl
  have hsharp : fragmentOf (.string "ß-x") = .ok "SSX" := by rfl
  have given (s : String) : Value.string s ≠ .null := nofun
  have summarized : List.Forall₂ (Summarized "Crop" { intType := "long" }) ps ss :=
    .cons (.stringEnum (n := "ResizeMode") rfl (given _) hname hmember)
      (.cons (.mask (n := "ResizeMode") rfl (given _) hname hsharp)
        (.cons (.scalar rfl rfl) .nil))
  have described := result_describe_ok_iff.2 summarized
  exact ⟨described, describe_agrees described⟩

end NativeProps
