import NativeProps.Proofs.Number.Nearest

/-!
# Whole numbers as floating literals

A whole number is rendered from the double nearest to it: with all the digits of this double below
`10 ^ 21`, and with an exponent from there on.

* `Numeral.ScientificFrom`: the texts with an exponent that is not below a bound.
* `RendersWhole`: what is asked of the literal of a whole number.
* `floatingLiteral_eq_ok_iff`: which whole numbers have a literal, and what it comes from.
* `floatingLiteral_of_whole`: the literals of all whole numbers, and their order.
-/

namespace NativeProps

open Double (one signText showsAllDigits ofInt? Nearest)
open Numeral (Signed Digits Scientific)

/-! ### Exponents -/

/-- A text of the scientific form with an exponent of at least `k`. -/
structure Numeral.ScientificFrom (k : ℕ) (cs : List Char) : Prop where
  scientific : Scientific cs
  exponent : ∃ mantissa digits, cs = mantissa ++ 'e' :: '+' :: digits ∧ Digits digits ∧
    k ≤ value 0 digits

theorem Decimal.scientificFrom_write {style : NumberStyle} {d : Decimal} {k : ℕ}
    (hstyle : 2 ≤ style.exponentWidth) (h : ¬IsPositional style d) (hk : (k : ℤ) ≤ d.extent - 1) :
    Numeral.ScientificFrom k (d.write style) where
  scientific := scientific_write hstyle h
  exponent := by
    obtain ⟨digits, hdigits, hvalue, -, htext⟩ := Numeral.exponentText_parts style (d.extent - 1)
    have hnonneg : ¬d.extent - 1 < 0 := by omega
    obtain ⟨lead, fraction, hcons⟩ := List.exists_cons_of_ne_nil
      (digits_trimZeros (Numeral.digits_digitsOf d.digits)).ne_nil
    rw [write_eq, if_neg h, hcons, scientific_parts, htext, if_neg hnonneg]
    exact ⟨_, digits, rfl, hdigits, by omega⟩

/-! ### Literals -/

/-- What is asked of the floating literal of a whole number `n` whose nearest double is `m`: the
digits of `m` behind the sign of `n` below `10 ^ 21`, and an exponent that reads back as `m` from
there on. -/
structure RendersWhole (n m : ℤ) (text : String) : Prop where
  of_small : |m| < 10 ^ 21 →
    text = String.ofList (signText (decide (n < 0)) ++ Decimal.digitsOf m.natAbs) ++ ".0"
  of_large : 10 ^ 21 ≤ |m| → Signed (Numeral.ScientificFrom 21) text ∧
    ∃ x, (Value.string text).toDouble = .ok x ∧ x.toRat? = some (m : ℚ)

variable {n m : ℤ} {x : Double} {r : ℚ} {text : String}

theorem floatingLiteral_int (n : ℤ) :
    floatingLiteral (.int n) = (orMisuse .outOfRange (ofInt? n)).map Double.literal := by
  rw [floatingLiteral, Value.toDouble]
  cases ofInt? n <;> rfl

theorem floatingLiteral_eq_ok_iff :
    floatingLiteral (.int n) = .ok text ↔ (ofInt? n).map Double.literal = some text := by
  rw [floatingLiteral_int]
  cases ofInt? n <;> simp [orMisuse, Except.map]

theorem floatingLiteral_of_ofInt? (h : ofInt? n = some x) :
    floatingLiteral (.int n) = .ok x.literal := by
  rw [floatingLiteral_eq_ok_iff, h, Option.map_some]

/-- The double nearest to a whole number is whole. -/
theorem exists_whole (h : ofInt? n = some x) (hr : x.toRat? = some r) : ∃ m : ℤ, r = m := by
  obtain ⟨hu, rfl⟩ := Double.ofInt?_eq_some h
  exact (Double.whole_iff_of_toRat? hr).2 (Double.one_dvd_roundUnits_whole n.natAbs)

theorem scientificFrom_literal (hr : x.toRat? = some (m : ℚ)) (hm : 10 ^ 21 ≤ |m|) :
    Signed (Numeral.ScientificFrom 21) x.literal := by
  obtain ⟨negative, u, h, rfl⟩ := Double.exists_finite_of_toRat? hr
  have hlarge : 10 ^ 21 * one ≤ u := by
    refine not_lt.1 fun hlt => ?_
    have habs := (Double.abs_lt_iff_of_toRat? hr 21).2 hlt
    exact absurd hm (not_le.2 (by exact_mod_cast habs))
  have hu : 0 < u := (Nat.mul_pos (by norm_num) Decimal.one_pos).trans_le hlarge
  have hall : ¬(one ∣ u ∧ u < 10 ^ 21 * one) := fun hlt => hlarge.not_gt hlt.2
  have hwhole : one ∣ u := (Double.whole_iff_of_toRat? hr).1 ⟨m, rfl⟩
  have hplace : ¬Decimal.IsPositional numberStyle (Decimal.shortest u) := fun hpositional =>
    ((Decimal.positional_shortest_iff h hu hall).1 hpositional).1 hwhole
  have hextent := Decimal.le_extent_shortest h hu (k := (21 : ℕ)) (by exact_mod_cast hlarge)
  rw [Double.literal_of_shortest hu.ne' (mt Double.showsAllDigits_iff.1 hall)]
  exact ⟨negative, _, Decimal.scientificFrom_write (by decide) hplace hextent, rfl⟩

theorem rendersWhole_literal (h : ofInt? n = some x) (hr : x.toRat? = some (m : ℚ)) :
    RendersWhole n m x.literal where
  of_small hm := by
    have hsign : decide (m < 0) = decide (n < 0) := by
      rw [decide_eq_decide, ← Double.neg_iff_of_ofInt? h hr, Int.cast_lt_zero]
    rw [(renders_literal hr).of_whole m rfl (by exact_mod_cast hm), Value.intText, hsign]
  of_large hm := ⟨scientificFrom_literal hr hm, (renders_literal hr).reads⟩

/-- Up to `2 ^ 53` nothing is rounded. -/
theorem toRat?_of_ofInt? (h : ofInt? n = some x) (hn : |n| ≤ 2 ^ 53) :
    x.toRat? = some (n : ℚ) := by
  obtain ⟨hu, rfl⟩ := Double.ofInt?_eq_some h
  have hnat : n.natAbs ≤ 2 ^ 53 := by
    rw [Int.abs_eq_natAbs] at hn
    exact_mod_cast hn
  have hdiv := (Double.eq_natCast_iff n.natAbs).2 (Double.roundUnits_whole hnat)
  rw [Double.toRat?, hdiv, Nat.cast_natAbs, Int.cast_abs]
  rcases lt_or_ge n 0 with hneg | hneg
  · rw [if_pos (decide_eq_true hneg), abs_of_neg (Int.cast_lt_zero.2 hneg), neg_neg]
  · rw [if_neg (by simpa using hneg), abs_of_nonneg (Int.cast_nonneg hneg)]

/-- The texts of two whole numbers read back in their order. -/
theorem reads_mono {a b : String} (h : m ≤ n) (ha : floatingLiteral (.int m) = .ok a)
    (hb : floatingLiteral (.int n) = .ok b) :
    ∃ x y r s, (Value.string a).toDouble = .ok x ∧ (Value.string b).toDouble = .ok y ∧
      x.toRat? = some r ∧ y.toRat? = some s ∧ r ≤ s := by
  obtain ⟨x, hx, rfl⟩ := Option.map_eq_some_iff.1 (floatingLiteral_eq_ok_iff.1 ha)
  obtain ⟨y, hy, rfl⟩ := Option.map_eq_some_iff.1 (floatingLiteral_eq_ok_iff.1 hb)
  obtain ⟨r, hr⟩ := Double.nearest_ofInt? hx
  obtain ⟨s, hs⟩ := Double.nearest_ofInt? hy
  obtain ⟨x', hx', hxr⟩ := (renders_literal hr.toRat).reads
  obtain ⟨y', hy', hys⟩ := (renders_literal hs.toRat).reads
  refine ⟨x', y', r, s, hx', hy', hxr, hys, ?_⟩
  rcases h.eq_or_lt with rfl | hlt
  · -- the same number has one nearest double
    exact (hs.eq_of_ofInt? hx hr.toRat).ge
  · exact hr.le_of_lt hs (by exact_mod_cast hlt)

/-- **Whole numbers are rendered from the nearest double.** A whole number has no literal just if
its magnitude is `2 ^ 1024 - 2 ^ 970` or more. Any other has a nearest double, and from every
nearest double one and the same literal: its digits below `10 ^ 21`, and an exponent of at least 21
from there on. Up to `2 ^ 53` the digits are those of the number itself. The literals of greater
numbers never read back as lesser ones. -/
theorem floatingLiteral_of_whole :
    (∀ n : ℤ, floatingLiteral (.int n) = .error (.misuse .outOfRange) ↔
      2 ^ 1024 - 2 ^ 970 ≤ |n|) ∧
    (∀ n : ℤ, |n| < 2 ^ 1024 - 2 ^ 970 → (∃ x r, Nearest n x r) ∧
      ∀ x r, Nearest n x r → ∃ (m : ℤ) (text : String), r = m ∧
        floatingLiteral (.int n) = .ok text ∧ RendersWhole n m text) ∧
    (∀ n : ℤ, |n| ≤ 2 ^ 53 → floatingLiteral (.int n) = .ok (Value.intText n ++ ".0")) ∧
    ∀ m n a b, m ≤ n → floatingLiteral (.int m) = .ok a → floatingLiteral (.int n) = .ok b →
      ∃ x y r s, (Value.string a).toDouble = .ok x ∧ (Value.string b).toDouble = .ok y ∧
        x.toRat? = some r ∧ y.toRat? = some s ∧ r ≤ s := by
  have haccepted (n : ℤ) (hn : |n| < 2 ^ 1024 - 2 ^ 970) : ∃ x, ofInt? n = some x :=
    Option.ne_none_iff_exists'.1 (mt Double.ofInt?_eq_none_iff.1 hn.not_ge)
  refine ⟨fun n => ?_, fun n hn => ?_, fun n hn => ?_, fun m n a b => reads_mono⟩
  · rw [← Double.ofInt?_eq_none_iff, floatingLiteral_int]
    cases ofInt? n <;> simp [orMisuse, Except.map]
  · obtain ⟨x, hx⟩ := haccepted n hn
    obtain ⟨r, hr⟩ := Double.nearest_ofInt? hx
    refine ⟨⟨x, r, hr⟩, fun y s hs => ?_⟩
    obtain rfl := hs.eq_of_ofInt? hx hr.toRat
    obtain ⟨m, rfl⟩ := exists_whole hx hr.toRat
    exact ⟨m, _, rfl, floatingLiteral_of_ofInt? hx, rendersWhole_literal hx hr.toRat⟩
  · have hlimit : (2 : ℤ) ^ 53 < 2 ^ 1024 - 2 ^ 970 := by decide +kernel
    obtain ⟨x, hx⟩ := haccepted n (hn.trans_lt hlimit)
    have hsmall : |(n : ℚ)| < 10 ^ 21 := by
      have hcast : |(n : ℚ)| ≤ 2 ^ 53 := by exact_mod_cast hn
      exact hcast.trans_lt (by norm_num)
    rw [floatingLiteral_of_ofInt? hx,
      (renders_literal (toRat?_of_ofInt? hx hn)).of_whole n rfl hsmall]

/-- A number halfway between two doubles, the least magnitude beyond the range, a number that is not
rounded, and the order of two literals. -/
theorem floatingLiteral_of_whole_halfway :
    (|(2 ^ 53 + 1 : ℤ)| < 2 ^ 1024 - 2 ^ 970 ∧ ∃ x, Nearest (2 ^ 53 + 1 : ℤ) x (2 ^ 53 : ℤ) ∧
      floatingLiteral (.int (2 ^ 53 + 1)) = .ok "9007199254740992.0" ∧
      RendersWhole (2 ^ 53 + 1) (2 ^ 53) "9007199254740992.0") ∧
    floatingLiteral (.int (-(2 ^ 1024 - 2 ^ 970))) = .error (.misuse .outOfRange) ∧
    (|(-2 ^ 53 : ℤ)| ≤ 2 ^ 53 ∧ floatingLiteral (.int (-2 ^ 53)) = .ok "-9007199254740992.0") ∧
    floatingLiteral (.int (10 ^ 21)) = .ok "1e+21" ∧
    ∃ x y r s, (Value.string "9007199254740992.0").toDouble = .ok x ∧
      (Value.string "1e+21").toDouble = .ok y ∧ x.toRat? = some r ∧ y.toRat? = some s ∧ r ≤ s := by
  obtain ⟨beyond, within, small, order⟩ := floatingLiteral_of_whole
  have hrange : |(2 ^ 53 + 1 : ℤ)| < 2 ^ 1024 - 2 ^ 970 := by decide +kernel
  have hhalf : ofInt? (2 ^ 53 + 1) =
      some (.finite false (2 ^ 53 * one) (by decide +kernel)) := by decide +kernel
  have htext : floatingLiteral (.int (2 ^ 53 + 1)) = .ok "9007199254740992.0" :=
    floatingLiteral_eq_ok_iff.2 (by decide +kernel)
  have hlarge : floatingLiteral (.int (10 ^ 21)) = .ok "1e+21" :=
    floatingLiteral_eq_ok_iff.2 (by decide +kernel)
  obtain ⟨r, hr⟩ := Double.nearest_ofInt? hhalf
  have hr53 : r = (2 ^ 53 : ℤ) := by
    have hdiv := (Double.eq_natCast_iff (2 ^ 53)).2 rfl
    have hrat := hr.toRat
    rw [Double.toRat?, if_neg Bool.false_ne_true, hdiv, Option.some.injEq] at hrat
    rw [← hrat, Nat.cast_pow, Int.cast_pow, Nat.cast_ofNat, Int.cast_ofNat]
  subst hr53
  obtain ⟨m, text, hm, hok, hrenders⟩ := (within _ hrange).2 _ _ hr
  obtain rfl : m = 2 ^ 53 := by exact_mod_cast hm.symm
  rw [htext, Except.ok.injEq] at hok
  subst hok
  have hneg := small (-2 ^ 53) (by decide)
  exact ⟨⟨hrange, _, hr, htext, hrenders⟩, (beyond _).2 (by decide +kernel), ⟨by decide, hneg⟩,
    hlarge, order _ _ _ _ (by decide) htext hlarge⟩

end NativeProps
