import NativeProps.Declaration.Initializer
import NativeProps.Proofs.Number.Spelling

/-!
# Floating literals

The floating literal of a double stands for the same number and tells by its form that it is a
floating literal.

* `Double.toRat?`: the number that a finite double is.
* `InFixedRange`, `Renders`: what is asked of the literal of a number.
* `Decimal.positional_shortest_iff`: when a shortest decimal is written positionally.
* `renders_literal`: what the literal of a finite double does.
* `floatingLiteral_faithful`: the literals of all doubles, and which doubles have the same.
-/

namespace NativeProps

open Double (one step Representable signText showsAllDigits)
open Numeral (Signed Fixed Scientific)

/-! ### Numbers -/

/-- The number that a finite double is. -/
def Double.toRat? : Double → Option ℚ
  | .finite negative units _ => some (if negative then -(units / one : ℚ) else units / one)
  | _ => none

/-- The numbers in fixed notation: the whole ones below `10 ^ 21`, and those that are not whole from
`10 ^ -4` on. -/
def InFixedRange (r : ℚ) : Prop :=
  (∃ n : ℤ, r = n) ∧ |r| < 10 ^ 21 ∨ (¬∃ n : ℤ, r = n) ∧ (10 : ℚ) ^ (-4 : ℤ) ≤ |r|

/-- What is asked of the floating literal of a number: it has the form of a floating literal, is the
same for both zeros, reads back as the number, is in fixed notation just in the range of it, and
shows all digits of the whole numbers there. -/
structure Renders (r : ℚ) (text : String) : Prop where
  form : Signed Fixed text ∨ Signed Scientific text
  ne_negative_zero : text ≠ "-0.0"
  of_zero : r = 0 → text = "0.0"
  reads : ∃ x, (Value.string text).toDouble = .ok x ∧ x.toRat? = some r
  fixed_iff : Signed Fixed text ↔ InFixedRange r
  of_whole : ∀ n : ℤ, r = n → |r| < 10 ^ 21 → text = Value.intText n ++ ".0"

namespace Double

variable {negative : Bool} {u : ℕ} {h : Representable u} {r : ℚ}

theorem abs_of_toRat? (hr : toRat? (.finite negative u h) = some r) : |r| = u / one := by
  have hnonneg : (0 : ℚ) ≤ u / one := by positivity
  rw [toRat?, Option.some.injEq] at hr
  rw [← hr]
  split
  · rw [abs_neg, abs_of_nonneg hnonneg]
  · exact abs_of_nonneg hnonneg

theorem abs_lt_iff_of_toRat? (hr : toRat? (.finite negative u h) = some r) (k : ℕ) :
    |r| < 10 ^ k ↔ u < 10 ^ k * one := by
  rw [abs_of_toRat? hr, div_lt_iff₀ Decimal.cast_one_pos]
  exact_mod_cast Iff.rfl

theorem eq_zero_iff_of_toRat? (hr : toRat? (.finite negative u h) = some r) : r = 0 ↔ u = 0 := by
  rw [← abs_eq_zero, abs_of_toRat? hr, div_eq_zero_iff, or_iff_left Decimal.cast_one_pos.ne',
    Nat.cast_eq_zero]

/-- The sign of a double other than zero is that of the number. -/
theorem neg_iff_of_toRat? (hr : toRat? (.finite negative u h) = some r) (hu : 0 < u) :
    r < 0 ↔ negative = true := by
  have hpos : (0 : ℚ) < u / one := div_pos (Nat.cast_pos.2 hu) Decimal.cast_one_pos
  rw [toRat?, Option.some.injEq] at hr
  rw [← hr]
  cases negative with
  | false => simpa using hpos.le
  | true => simpa using hpos

theorem eq_natCast_iff (n : ℕ) : (u : ℚ) / one = n ↔ u = n * one := by
  rw [div_eq_iff Decimal.cast_one_pos.ne']
  exact_mod_cast Iff.rfl

theorem units_of_whole (hr : toRat? (.finite negative u h) = some r) {n : ℤ} (hn : r = n) :
    u = n.natAbs * one := by
  rw [← eq_natCast_iff, ← abs_of_toRat? hr, hn, Nat.cast_natAbs, Int.cast_abs]

/-- A double is whole if its magnitude is a multiple of one. -/
theorem whole_iff_of_toRat? (hr : toRat? (.finite negative u h) = some r) :
    (∃ n : ℤ, r = n) ↔ one ∣ u := by
  constructor
  · rintro ⟨n, hn⟩
    exact ⟨n.natAbs, by rw [units_of_whole hr hn, mul_comm]⟩
  · rintro ⟨n, hn⟩
    have habs : |r| = n := by rw [abs_of_toRat? hr, eq_natCast_iff, hn, mul_comm]
    rcases eq_or_eq_neg_of_abs_eq habs with h | h
    · exact ⟨n, by exact_mod_cast h⟩
    · exact ⟨-n, by exact_mod_cast h⟩

theorem exists_finite_of_toRat? {x : Double} (hr : x.toRat? = some r) :
    ∃ negative u h, x = .finite negative u h := by
  cases x with
  | finite negative u h => exact ⟨negative, u, h, rfl⟩
  | infinite => cases hr
  | nan => cases hr

/-- Doubles that are the same number are written the same. -/
theorem literal_congr {x y : Double} (hx : x.toRat? = some r) (hy : y.toRat? = some r) :
    x.literal = y.literal := by
  obtain ⟨negative, u, h, rfl⟩ := exists_finite_of_toRat? hx
  obtain ⟨negative', v, h', rfl⟩ := exists_finite_of_toRat? hy
  have huv : u = v := by
    have hdiv := (abs_of_toRat? hx).symm.trans (abs_of_toRat? hy)
    exact_mod_cast (div_left_inj' Decimal.cast_one_pos.ne').1 hdiv
  subst huv
  rcases Nat.eq_zero_or_pos u with rfl | hu
  · rfl
  · have hsign : negative = negative' := by
      rw [Bool.eq_iff_iff, ← neg_iff_of_toRat? hx hu, neg_iff_of_toRat? hy hu]
    rw [hsign]

/-! ### Notation -/

theorem literal_zero (negative : Bool) (h : Representable 0) :
    literal (.finite negative 0 h) = "0.0" := rfl

/-- All digits are shown of the whole numbers below `10 ^ 21`. -/
theorem showsAllDigits_iff : showsAllDigits u = true ↔ one ∣ u ∧ u < 10 ^ 21 * one := by
  rw [showsAllDigits, Bool.and_eq_true, beq_iff_eq, decide_eq_true_eq, Nat.dvd_iff_mod_eq_zero]
  rfl

theorem literal_of_all (hu : u ≠ 0) (hall : showsAllDigits u = true) :
    literal (.finite negative u h) =
      String.ofList (signText negative ++ (Decimal.digitsOf (u / one) ++ ['.', '0'])) := by
  rw [literal, literalChars, if_neg hu, if_pos hall, List.append_assoc]

theorem literal_of_shortest (hu : u ≠ 0) (hall : ¬showsAllDigits u = true) :
    literal (.finite negative u h) =
      String.ofList (signText negative ++ (Decimal.shortest u).write numberStyle) := by
  rw [literal, literalChars, if_neg hu, if_neg hall, chars, if_neg hu]

end Double

namespace Decimal

variable {u : ℕ}

theorem one_le_units_small : one ≤ 10 ^ 4 * units ⟨1, -4⟩ := by decide +kernel

theorem le_units_large : 2 ^ 53 * one ≤ units ⟨1, 16⟩ := by decide +kernel

/-- Doubles have no digits behind the point from `2 ^ 53` on. -/
theorem one_dvd_of_le (h : 2 ^ 53 * one ≤ u) (hstep : u % step u = 0) : one ∣ u := by
  refine dvd_trans ?_ (Nat.dvd_of_mod_eq_zero hstep)
  have hpos : u ≠ 0 := fun h0 => by have := one_pos; omega
  rw [one, Nat.one_shiftLeft] at h ⊢
  rw [Double.step_eq]
  generalize 1074 = n at h ⊢
  rw [← Nat.pow_add, ← Nat.le_log2 hpos] at h
  exact Nat.pow_dvd_pow 2 (by omega)

/-- The leading place of the shortest decimal is not below one that the magnitude has reached. -/
theorem le_extent_shortest (h : Representable u) (hu : 0 < u) {k : ℤ}
    (hk : (10 : ℚ) ^ k * one ≤ u) : k ≤ (shortest u).extent - 1 := by
  have hdigits : 0 < (shortest u).digits := digits_pos ((units_shortest h).symm ▸ hu)
  have hlt := (zpow_le_value_shortest hu hk).trans_lt (extent_spec hdigits).2
  have := (zpow_lt_zpow_iff_right₀ (by norm_num)).1 hlt
  omega

/-- The magnitude is not below what is rounded from a place that the shortest decimal has
reached. -/
theorem units_le_of_le_extent (h : Representable u) (hu : 0 < u) {k : ℤ}
    (hk : k ≤ (shortest u).extent - 1) : units ⟨1, k⟩ ≤ u := by
  have hdigits : 0 < (shortest u).digits := digits_pos ((units_shortest h).symm ▸ hu)
  rw [← units_shortest h]
  apply units_mono
  rw [value_mk, Nat.cast_one, one_mul]
  exact (zpow_le_zpow_right₀ (by norm_num) hk).trans (extent_spec hdigits).1

/-- Which magnitudes are written positionally, of those that are not whole and below
`10 ^ 21`. -/
theorem positional_shortest_iff (h : Representable u) (hu : 0 < u)
    (hall : ¬(one ∣ u ∧ u < 10 ^ 21 * one)) :
    IsPositional numberStyle (shortest u) ↔
      ¬one ∣ u ∧ (10 : ℚ) ^ (-4 : ℤ) * one ≤ u := by
  have hplace : IsPositional numberStyle (shortest u) ↔
      -4 ≤ (shortest u).extent - 1 ∧ (shortest u).extent - 1 ≤ 15 := Iff.rfl
  rw [hplace]
  constructor
  · rintro ⟨hlower, hupper⟩
    refine ⟨fun hwhole => ?_, ?_⟩
    · have hlarge : 10 ^ 21 * one ≤ u := not_lt.1 fun hlt => hall ⟨hwhole, hlt⟩
      have := le_extent_shortest h hu (k := 21) (by exact_mod_cast hlarge)
      omega
    · have hunits := Nat.mul_le_mul_left (10 ^ 4) (units_le_of_le_extent h hu hlower)
      have hscaled : one ≤ 10 ^ 4 * u := one_le_units_small.trans hunits
      rw [zpow_neg, inv_mul_le_iff₀ (by positivity)]
      exact_mod_cast hscaled
  · rintro ⟨hbroken, hreached⟩
    refine ⟨le_extent_shortest h hu hreached, not_lt.1 fun hlt => hbroken ?_⟩
    exact one_dvd_of_le (le_units_large.trans (units_le_of_le_extent h hu hlt)) h.2

end Decimal

/-! ### Literals -/

section

variable {negative : Bool} {u : ℕ} {h : Representable u} {r : ℚ} {body : List Char} {d : Decimal}

theorem reads_of_body (hr : Double.toRat? (.finite negative u h) = some r) (hu : 0 < u)
    (hbody : Numeral.Plain body) (hscan : Numeral.scan body = some (d, []))
    (hunits : d.units = u) :
    ∃ x, (Value.string (String.ofList (signText negative ++ body))).toDouble = .ok x ∧
      x.toRat? = some r := by
  refine ⟨.finite negative u h, ?_, hr⟩
  rw [Value.toDouble, Numeral.ofText?_of_plain hbody negative hscan,
    Decimal.toDouble_of_units negative hu h hunits, orMisuse]

theorem ofText?_zero :
    Double.ofText? "0.0" = some (.finite false 0 Double.representable_zero) := by decide +kernel

theorem ofText?_negative_zero :
    Double.ofText? "-0.0" = some (.finite true 0 Double.representable_zero) := by decide +kernel

theorem toRat?_zero (negative : Bool) :
    Double.toRat? (.finite negative 0 Double.representable_zero) = some 0 := by
  cases negative <;> simp [Double.toRat?]

theorem fixed_zero : Signed Fixed "0.0" :=
  ⟨false, _, .mk (Numeral.digits_singleton rfl) (Numeral.digits_singleton rfl), rfl⟩

/-- What reads back as a number other than zero is not written as a zero of either sign. -/
theorem renders_of_reads {text : String} (hr : r ≠ 0)
    (form : Signed Fixed text ∨ Signed Scientific text)
    (reads : ∃ x, (Value.string text).toDouble = .ok x ∧ x.toRat? = some r)
    (fixed_iff : Signed Fixed text ↔ InFixedRange r)
    (of_whole : ∀ n : ℤ, r = n → |r| < 10 ^ 21 → text = Value.intText n ++ ".0") :
    Renders r text where
  form := form
  ne_negative_zero := by
    rintro rfl
    obtain ⟨x, hx, hxr⟩ := reads
    rw [Value.toDouble, ofText?_negative_zero, orMisuse, Except.ok.injEq] at hx
    rw [← hx, toRat?_zero, Option.some.injEq] at hxr
    exact hr hxr.symm
  of_zero h0 := absurd h0 hr
  reads := reads
  fixed_iff := fixed_iff
  of_whole := of_whole

theorem renders_zero : Renders 0 "0.0" where
  form := .inl fixed_zero
  ne_negative_zero := by decide
  of_zero _ := rfl
  reads := ⟨_, by rw [Value.toDouble, ofText?_zero, orMisuse], toRat?_zero false⟩
  fixed_iff := iff_of_true fixed_zero (.inl ⟨⟨0, Int.cast_zero.symm⟩, by norm_num⟩)
  of_whole n hn _ := by
    obtain rfl : n = 0 := by exact_mod_cast hn.symm
    rfl

/-- The whole numbers below `10 ^ 21`. -/
theorem renders_all (hr : Double.toRat? (.finite negative u h) = some r) (hu : 0 < u)
    (hwhole : one ∣ u) (hlt : u < 10 ^ 21 * one) :
    Renders r
      (String.ofList (signText negative ++ (Decimal.digitsOf (u / one) ++ ['.', '0']))) := by
  have hr0 : r ≠ 0 := mt (Double.eq_zero_iff_of_toRat? hr).1 hu.ne'
  have hdigits := Numeral.digits_digitsOf (u / one)
  have hzero := Numeral.digits_singleton (c := '0') rfl
  have hfixed := Fixed.mk hdigits hzero
  have hform : Signed Fixed
      (String.ofList (signText negative ++ (Decimal.digitsOf (u / one) ++ ['.', '0']))) :=
    ⟨negative, _, hfixed, rfl⟩
  have hvalue : Decimal.value ⟨Numeral.value 0 (Decimal.digitsOf (u / one) ++ ['0']),
      -(['0'].length : ℕ)⟩ * one = u := by
    rw [Decimal.value_parts, ← List.replicate_one, Decimal.amount_append_zeros, Decimal.amount,
      Numeral.value_digitsOf, sub_add_cancel, sub_self, zpow_zero, mul_one]
    exact_mod_cast Nat.div_mul_cancel hwhole
  have hreads := reads_of_body hr hu hfixed.plain (Numeral.scan_fixed hdigits hzero)
    (Decimal.units_of_value hvalue h.2)
  refine renders_of_reads hr0 (.inl hform) hreads (iff_of_true hform (.inl ⟨?_, ?_⟩)) ?_
  · exact (Double.whole_iff_of_toRat? hr).2 hwhole
  · exact (Double.abs_lt_iff_of_toRat? hr 21).2 hlt
  · intro n hn _
    have hsign : decide (n < 0) = negative := by
      rw [Bool.eq_iff_iff, decide_eq_true_eq, ← Double.neg_iff_of_toRat? hr hu, hn,
        Int.cast_lt_zero]
    have hnatAbs : u / one = n.natAbs := by
      rw [Double.units_of_whole hr hn, Nat.mul_div_cancel _ Decimal.one_pos]
    rw [Value.intText, hsign, hnatAbs, ← List.append_assoc, String.ofList_append]

/-- The other numbers. -/
theorem renders_shortest (hr : Double.toRat? (.finite negative u h) = some r) (hu : 0 < u)
    (hall : ¬(one ∣ u ∧ u < 10 ^ 21 * one)) :
    Renders r
      (String.ofList (signText negative ++ (Decimal.shortest u).write numberStyle)) := by
  have hr0 : r ≠ 0 := mt (Double.eq_zero_iff_of_toRat? hr).1 hu.ne'
  obtain ⟨e, hscan, hvalue⟩ := Decimal.scan_write numberStyle (Decimal.shortest u)
  have hunits : e.units = u := (Decimal.units_congr hvalue).trans (Decimal.units_shortest h)
  have hrange : InFixedRange r ↔ Decimal.IsPositional numberStyle (Decimal.shortest u) := by
    rw [InFixedRange, Double.whole_iff_of_toRat? hr, Double.abs_lt_iff_of_toRat? hr,
      or_iff_right hall, Double.abs_of_toRat? hr, le_div_iff₀ Decimal.cast_one_pos,
      Decimal.positional_shortest_iff h hu hall]
  have hnone (n : ℤ) (hn : r = n) (hlt : |r| < 10 ^ 21) : False :=
    hall ⟨(Double.whole_iff_of_toRat? hr).1 ⟨n, hn⟩, (Double.abs_lt_iff_of_toRat? hr 21).1 hlt⟩
  by_cases hplace : Decimal.IsPositional numberStyle (Decimal.shortest u)
  · have hbody := Decimal.fixed_write hplace
    have hform : Signed Fixed _ := ⟨negative, _, hbody, rfl⟩
    exact renders_of_reads hr0 (.inl hform) (reads_of_body hr hu hbody.plain hscan hunits)
      (iff_of_true hform (hrange.2 hplace)) fun n hn hlt => (hnone n hn hlt).elim
  · have hbody := Decimal.scientific_write (by decide) hplace
    have hform : Signed Scientific _ := ⟨negative, _, hbody, rfl⟩
    exact renders_of_reads hr0 (.inr hform) (reads_of_body hr hu hbody.plain hscan hunits)
      (iff_of_false hform.not_fixed (mt hrange.1 hplace)) fun n hn hlt => (hnone n hn hlt).elim

theorem renders_literal {x : Double} (hr : x.toRat? = some r) : Renders r x.literal := by
  obtain ⟨negative, u, h, rfl⟩ := Double.exists_finite_of_toRat? hr
  rcases Nat.eq_zero_or_pos u with rfl | hu
  · rw [(Double.eq_zero_iff_of_toRat? hr).2 rfl, Double.literal_zero]
    exact renders_zero
  · by_cases hall : showsAllDigits u = true
    · obtain ⟨hwhole, hlt⟩ := Double.showsAllDigits_iff.1 hall
      rw [Double.literal_of_all hu.ne' hall]
      exact renders_all hr hu hwhole hlt
    · rw [Double.literal_of_shortest hu.ne' hall]
      exact renders_shortest hr hu (mt Double.showsAllDigits_iff.2 hall)

theorem floatingLiteral_float (x : Double) : floatingLiteral (.float x) = .ok x.literal := rfl

/-- Every finite double is rendered as a floating literal that reads back as the same number, the
others by their names, and two finite doubles are rendered the same only if they are the same
number. -/
theorem floatingLiteral_faithful :
    (∀ x r, Double.toRat? x = some r →
      ∃ text, floatingLiteral (.float x) = .ok text ∧ Renders r text) ∧
    floatingLiteral (.float .nan) = .ok "nan" ∧
    floatingLiteral (.float (.infinite false)) = .ok "inf" ∧
    floatingLiteral (.float (.infinite true)) = .ok "-inf" ∧
    ∀ x y r s, Double.toRat? x = some r → Double.toRat? y = some s →
      (floatingLiteral (.float x) = floatingLiteral (.float y) ↔ r = s) := by
  refine ⟨fun x r hr => ⟨_, floatingLiteral_float x, renders_literal hr⟩, rfl, rfl, rfl, ?_⟩
  intro x y r s hr hs
  rw [floatingLiteral_float, floatingLiteral_float, Except.ok.injEq]
  constructor
  · intro htext
    obtain ⟨a, ha, har⟩ := (renders_literal hr).reads
    obtain ⟨b, hb, hbs⟩ := (renders_literal hs).reads
    -- the same text is read as one double
    rw [htext, hb, Except.ok.injEq] at ha
    rw [← ha, hbs, Option.some.injEq] at har
    exact har.symm
  · rintro rfl
    exact Double.literal_congr hr hs

/-- One half below zero, and the least whole number that is written with an exponent. -/
theorem floatingLiteral_faithful_half :
    (floatingLiteral (.float (.finite true (1 <<< 1073) (by decide +kernel))) = .ok "-0.5" ∧
      Renders (-(1 / 2)) "-0.5") ∧
    (floatingLiteral (.float (.finite false (10 ^ 21 * one) (by decide +kernel))) = .ok "1e+21" ∧
      Renders (10 ^ 21) "1e+21") ∧
    floatingLiteral (.float (.finite true 0 Double.representable_zero)) =
      floatingLiteral (.float .zero) := by
  have hhalf : Double.toRat? (.finite true (1 <<< 1073) (by decide +kernel)) =
      some (-(1 / 2)) := by
    have hunits : 1 <<< 1073 * 2 = 1 * one := by decide +kernel
    have hdiv : ((1 <<< 1073 : ℕ) : ℚ) / one = 1 / 2 := by
      rw [div_eq_div_iff Decimal.cast_one_pos.ne' two_ne_zero]
      exact_mod_cast hunits
    rw [Double.toRat?, if_pos rfl, hdiv]
  have hlarge : Double.toRat? (.finite false (10 ^ 21 * one) (by decide +kernel)) =
      some (10 ^ 21) := by
    have hdiv := (Double.eq_natCast_iff (10 ^ 21)).2 rfl
    rw [Double.toRat?, if_neg Bool.false_ne_true, hdiv, Nat.cast_pow, Nat.cast_ofNat]
  have hhalf_text : Double.literal (.finite true (1 <<< 1073) (by decide +kernel)) = "-0.5" := by
    decide +kernel
  have hlarge_text :
      Double.literal (.finite false (10 ^ 21 * one) (by decide +kernel)) = "1e+21" := by
    decide +kernel
  refine ⟨?_, ?_, ?_⟩
  · obtain ⟨text, htext, hrenders⟩ := floatingLiteral_faithful.1 _ _ hhalf
    rw [floatingLiteral_float, hhalf_text, Except.ok.injEq] at htext
    rw [floatingLiteral_float, hhalf_text, htext]
    exact ⟨rfl, hrenders⟩
  · obtain ⟨text, htext, hrenders⟩ := floatingLiteral_faithful.1 _ _ hlarge
    rw [floatingLiteral_float, hlarge_text, Except.ok.injEq] at htext
    rw [floatingLiteral_float, hlarge_text, htext]
    exact ⟨rfl, hrenders⟩
  · exact (floatingLiteral_faithful.2.2.2.2 _ _ 0 0 (toRat?_zero true) (toRat?_zero false)).2 rfl

end

end NativeProps
