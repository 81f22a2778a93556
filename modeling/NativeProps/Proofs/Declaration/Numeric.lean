import NativeProps.Proofs.Declaration.Dispatch
import NativeProps.Proofs.Number.Whole

/-!
# Numbers as initializers

The initializer of a numeric property is its default, written out. It is a number of the declared
type as far as the default is one: a whole number takes over whatever is given, and only a floating
number makes a double of it first.

* `Numeral.signed_intText`, `Double.exists_mem_text`: whole numbers are digits behind a sign, and
  doubles are not.
* `Value.IsWhole`, `Value.IsFinite`: the defaults that stand for a whole number or a finite double.
* `signed_text_iff`: which values are written as whole numbers.
* `Schema.default_of_readType`: the default that is read for a scalar.
* `initializer_of_numeric`: the form of the initializers of numbers.
* `initializer_not_whole`: a whole number with a default that is none.
-/

namespace NativeProps

open Numeral (Signed Digits Fixed Scientific)

/-! ### Texts of values -/

variable {text : String} {c : Char}

theorem Numeral.signed_intText (n : ℤ) : Signed Digits (Value.intText n) :=
  ⟨decide (n < 0), _, digits_digitsOf n.natAbs, rfl⟩

/-- Digits behind a sign hold nothing else. -/
theorem Numeral.not_signed_of_mem (hc : c ∈ text.toList) (hsign : c ≠ '-')
    (hdigit : c.isDigit = false) : ¬Signed Digits text := by
  rintro ⟨negative, body, hbody, rfl⟩
  rw [String.toList_ofList, List.mem_append] at hc
  rcases hc with hc | hc
  · cases negative <;> simp [Double.signText, hsign] at hc
  · exact not_mem_of_isDigit hbody.isDigit hdigit hc

/-- A point, an exponent or a name stands in the text of a double. -/
theorem Double.exists_mem_text (x : Double) :
    ∃ c ∈ x.text.toList, c = '.' ∨ c = 'e' ∨ c = 'n' := by
  rw [text, String.toList_ofList]
  cases x with
  | nan => exact ⟨'n', by decide, by simp⟩
  | infinite negative => exact ⟨'n', by cases negative <;> decide, by simp⟩
  | finite negative units h =>
    by_cases hzero : units = 0
    · exact ⟨'.', by simp [chars, hzero], by simp⟩
    · rw [chars, if_neg hzero]
      by_cases hplace : Decimal.IsPositional numberStyle (Decimal.shortest units)
      · exact ⟨'.', List.mem_append_right _ (Decimal.fixed_write hplace).mem, by simp⟩
      · have hmem := (Decimal.scientific_write (by decide) hplace).mem
        exact ⟨'e', List.mem_append_right _ hmem, by simp⟩

/-- A whole number, or a text of digits behind a sign. -/
inductive Value.IsWhole : Value → Prop
  | int (n : ℤ) : IsWhole (.int n)
  | string {t : String} (digits : Signed Digits t) : IsWhole (.string t)

/-- A value that stands for a finite double. -/
def Value.IsFinite (v : Value) : Prop := ∃ x r, v.toDouble = .ok x ∧ x.toRat? = some r

theorem isFinite_int {n : ℤ} {x : Double} (h : Double.ofInt? n = some x) :
    (Value.int n).IsFinite := by
  obtain ⟨r, hr⟩ := Double.nearest_ofInt? h
  refine ⟨x, r, ?_, hr.toRat⟩
  rw [Value.toDouble, h]
  rfl

/-- Other values are not written with digits alone. -/
theorem signed_text_iff {v : Value} : Signed Digits v.text ↔ v.IsWhole := by
  constructor
  · intro h
    cases v with
    | int n => exact .int n
    | string t => exact .string h
    | null => exact absurd h (Numeral.not_signed_of_mem (c := 'N') (by decide) (by decide) rfl)
    | bool b =>
      refine absurd h (Numeral.not_signed_of_mem (c := 'e') ?_ (by decide) rfl)
      cases b <;> decide
    | float x =>
      obtain ⟨c, hmem, rfl | rfl | rfl⟩ := x.exists_mem_text
      all_goals exact absurd h (Numeral.not_signed_of_mem hmem (by decide) rfl)
    | array items =>
      refine absurd h (Numeral.not_signed_of_mem (c := '[') ?_ (by decide) rfl)
      simp [Value.text, Value.literal]
    | object members =>
      refine absurd h (Numeral.not_signed_of_mem (c := '\x7b') ?_ (by decide) rfl)
      simp [Value.text, Value.literal]
  · rintro (n | digits)
    · exact Numeral.signed_intText n
    · exact digits

/-! ### Defaults -/

namespace Schema

/-- The default that data give, `null` if they give none. -/
def givenDefault (data : Value) : Value := (data.get? "default").getD .null

/-- A scalar that is read has the default that is given, or else its initial one. -/
theorem default_of_readType {data : Value} {s : Scalar} {d : Value}
    (h : (readType data).result = .ok (.scalar s d)) :
    givenDefault data = .null ∧ d = s.initial ∨ givenDefault data = d ∧ d ≠ .null := by
  cases result_readType_ok_iff.1 h with
  | scalar tag given notNull =>
    refine .inr ⟨?_, notNull⟩
    rw [givenDefault, Value.get?_object, given, Option.getD_some]
  | initial tag absent => exact .inl ⟨absent, rfl⟩

end Schema

/-! ### Initializers -/

variable {component : String} {p : Property} {d : Value}

theorem initializer_int32 (type : p.type = .scalar .int32 d) (given : d ≠ .null) :
    (initializer component p).result = .ok d.text := by
  rw [result_initializer, type, initializerOf, Outcome.result_liftM, scalarInitializer,
    requireDefault_of_ne_null _ p.name given]
  rfl

theorem initializer_floating {s : Scalar} (type : p.type = .scalar s d)
    (floating : s = .double ∨ s = .float) (given : d ≠ .null) :
    (initializer component p).result = floatingLiteral d := by
  rw [result_initializer, type, initializerOf, Outcome.result_liftM]
  rcases floating with rfl | rfl <;>
    rw [scalarInitializer, requireDefault_of_ne_null _ p.name given] <;> rfl

theorem floatingLiteral_of_isFinite (h : d.IsFinite) :
    ∃ text, floatingLiteral d = .ok text ∧ (Signed Fixed text ∨ Signed Scientific text) := by
  obtain ⟨x, r, hx, hr⟩ := h
  refine ⟨x.literal, ?_, (renders_literal hr).form⟩
  rw [floatingLiteral, hx]
  rfl

open Schema in
/-- **Numbers are initialized by what is given for them.** For whole numbers anything can be given,
and it is a whole number as written just if none is given, a whole number, or a text of one. For
floating numbers everything that stands for a finite double, and the default where none is given,
becomes a floating literal. -/
theorem initializer_of_numeric {data : Value} {s : Scalar} {d : Value}
    (read : (readType data).result = .ok (.scalar s d)) (component : String) {p : Property}
    (type : p.type = .scalar s d) :
    (s = .int32 → ∃ text, (initializer component p).result = .ok text ∧
      (Signed Digits text ↔ givenDefault data = .null ∨ (givenDefault data).IsWhole)) ∧
    (s = .double ∨ s = .float → givenDefault data = .null ∨ (givenDefault data).IsFinite →
      ∃ text, (initializer component p).result = .ok text ∧
        (Signed Fixed text ∨ Signed Scientific text)) := by
  refine ⟨fun whole => ?_, fun floating finite => ?_⟩
  · subst whole
    rcases default_of_readType read with ⟨absent, rfl⟩ | ⟨given, notNull⟩
    · refine ⟨_, initializer_int32 type nofun, ?_⟩
      rw [signed_text_iff]
      exact iff_of_true (.int 0) (.inl absent)
    · refine ⟨_, initializer_int32 type notNull, ?_⟩
      rw [signed_text_iff, given, or_iff_right notNull]
  · have known : d ≠ .null ∧ d.IsFinite := by
      rcases default_of_readType read with ⟨absent, rfl⟩ | ⟨given, notNull⟩
      · rcases floating with rfl | rfl <;>
          exact ⟨nofun, .zero, 0, rfl, toRat?_zero false⟩
      · rw [given] at finite
        exact ⟨notNull, finite.resolve_left notNull⟩
    rw [initializer_floating type floating known.1]
    exact floatingLiteral_of_isFinite known.2

open Schema in
/-- A whole number given as a text, and a floating number given as the least whole number that is
written with an exponent. -/
theorem initializer_of_numeric_given :
    let whole : Value := .object
      [("type", .string "Int32TypeAnnotation"), ("default", .string "-12")]
    let left : Property := ⟨.string "left", .scalar .int32 (.string "-12"), false⟩
    let floating : Value := .object
      [("type", .string "DoubleTypeAnnotation"), ("default", .int (10 ^ 21))]
    let far : Property := ⟨.string "far", .scalar .double (.int (10 ^ 21)), false⟩
    ((readType whole).result = .ok left.type ∧
      (initializer "Crop" left).result = .ok "-12" ∧ Signed Digits "-12") ∧
    (readType floating).result = .ok far.type ∧
      ∃ text, (initializer "Crop" far).result = .ok text ∧
        (Signed Fixed text ∨ Signed Scientific text) := by
  intro whole left floating far
  have hwhole : (readType whole).result = .ok left.type := rfl
  have hfloating : (readType floating).result = .ok far.type := rfl
  have digits : Signed Digits "-12" := ⟨true, _, Numeral.digits_digitsOf 12, rfl⟩
  have finite : (Value.int (10 ^ 21)).IsFinite := isFinite_int
    (x := .finite false (10 ^ 21 * Double.one) (by decide +kernel)) (by decide +kernel)
  obtain ⟨text, htext, hdigits⟩ :=
    (initializer_of_numeric hwhole "Crop" (p := left) rfl).1 rfl
  obtain rfl : "-12" = text := Except.ok.inj htext
  exact ⟨⟨hwhole, htext, hdigits.2 (.inr (.string digits))⟩, hfloating,
    (initializer_of_numeric hfloating "Crop" (p := far) rfl).2 (.inl rfl) (.inr finite)⟩

open Schema in
/-- Not every initializer of a whole number is one: a text is taken over as it is. -/
theorem initializer_not_whole :
    ¬∀ data d component p text, (readType data).result = .ok (.scalar .int32 d) →
      p.type = .scalar .int32 d → (initializer component p).result = .ok text →
      Signed Digits text := by
  intro h
  let data : Value := .object [("type", .string "Int32TypeAnnotation"), ("default", .string "12px")]
  have digits : Signed Digits "12px" :=
    h data (.string "12px") "Crop" ⟨.string "width", _, false⟩ "12px" rfl rfl rfl
  exact Numeral.not_signed_of_mem (c := 'p') (by decide) (by decide) rfl digits

end NativeProps
