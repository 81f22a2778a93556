import Mathlib.Algebra.Order.Field.Power
import NativeProps.Number.Decimal
import NativeProps.Proofs.Number.Rounding

/-!
# The shortest decimal of a magnitude

* `Decimal.value`: the rational number that a decimal stands for.
* `Decimal.units_mono`, `Decimal.units_of_value`: the magnitude nearest to a decimal depends on this
  number alone, keeps its order, and is the number itself where a double has it.
* `Decimal.extent_spec`, `Decimal.leadingPlace_spec`: the leading places of decimals and magnitudes.
* `Decimal.units_shortest`: the shortest decimal reads back.
* `Decimal.zpow_le_value_shortest`: it is not below a power of ten that the magnitude has reached.
* `Decimal.toDouble_of_units`: what is rounded to a magnitude of a double is rounded to the double.
-/

namespace NativeProps.Decimal

open Double (one step Representable)

/-! ### The value of a decimal -/

/-- The number that a decimal stands for. -/
def value (d : Decimal) : ℚ := d.digits * 10 ^ d.exponent

theorem value_mk (n : ℕ) (e : ℤ) : value ⟨n, e⟩ = n * 10 ^ e := rfl

theorem one_pos : 0 < one := by
  rw [one, Nat.one_shiftLeft]
  exact Nat.two_pow_pos 1074

theorem cast_one_pos : (0 : ℚ) < one := Nat.cast_pos.2 one_pos

theorem quotient_snd_pos (d : Decimal) : 0 < d.quotient.2 := by
  unfold quotient
  split
  · exact Nat.one_pos
  · exact power_pos _

theorem quotient_eq (d : Decimal) :
    (d.quotient.1 : ℚ) / d.quotient.2 = d.value * one := by
  obtain ⟨n, e⟩ := d
  unfold quotient value
  rcases le_or_gt 0 e with he | he
  · obtain ⟨k, rfl⟩ := Int.eq_ofNat_of_zero_le he
    simp only [if_pos he, Int.toNat_natCast, power, Nat.pow_eq]
    push_cast
    rw [div_one, zpow_natCast]
  · obtain ⟨k, hk⟩ : ∃ k : ℕ, -e = k := ⟨(-e).toNat, by omega⟩
    simp only [if_neg he.not_ge, hk, Int.toNat_natCast, power, Nat.pow_eq]
    push_cast
    rw [← neg_neg e, hk, zpow_neg, zpow_natCast, ← div_eq_mul_inv, div_mul_eq_mul_div]

theorem units_mono {d e : Decimal} (h : d.value ≤ e.value) : d.units ≤ e.units := by
  apply Double.roundUnits_mono d.quotient_snd_pos e.quotient_snd_pos
  rw [quotient_eq, quotient_eq]
  exact mul_le_mul_of_nonneg_right h cast_one_pos.le

theorem units_congr {d e : Decimal} (h : d.value = e.value) : d.units = e.units :=
  le_antisymm (units_mono h.le) (units_mono h.ge)

/-- A decimal that is the magnitude of a double is rounded to it. -/
theorem units_of_value {d : Decimal} {u : ℕ} (h : d.value * one = u) (hu : u % step u = 0) :
    d.units = u :=
  Double.roundUnits_of_eq d.quotient_snd_pos (d.quotient_eq.trans h) hu

theorem digits_pos {d : Decimal} (h : 0 < d.units) : 0 < d.digits := by
  refine Nat.pos_of_ne_zero fun h0 => h.ne' (units_of_value ?_ (Nat.zero_mod _))
  rw [value, h0, Nat.cast_zero, zero_mul, zero_mul]

/-! ### Leading places -/

theorem exists_length_digitsOf (n : ℕ) :
    ∃ k, (digitsOf n).length = k + 1 ∧ n < 10 ^ (k + 1) ∧ (0 < n → 10 ^ k ≤ n) := by
  obtain ⟨k, hk⟩ : ∃ k, (digitsOf n).length = k + 1 :=
    Nat.exists_eq_add_one.2 Nat.length_toDigits_pos
  have hlength {j : ℕ} (hj : 0 < j) : (digitsOf n).length ≤ j ↔ n < 10 ^ j :=
    Nat.length_toDigits_le_iff (by norm_num) hj
  refine ⟨k, hk, (hlength k.succ_pos).1 hk.le, fun hn => ?_⟩
  by_contra hlt
  rcases Nat.eq_zero_or_pos k with rfl | hpos
  · omega
  · have := (hlength hpos).2 (by omega)
    omega

theorem extent_spec {d : Decimal} (hd : 0 < d.digits) :
    (10 : ℚ) ^ (d.extent - 1) ≤ d.value ∧ d.value < 10 ^ d.extent := by
  obtain ⟨k, hk, hlt, hle⟩ := exists_length_digitsOf d.digits
  have hextent : d.extent = k + 1 + d.exponent := by rw [extent, hk, Nat.cast_succ]
  have hlower : d.extent - 1 = k + d.exponent := by omega
  have hten : (10 : ℚ) ≠ 0 := by norm_num
  rw [hlower, hextent, ← Nat.cast_succ, zpow_add₀ hten, zpow_add₀ hten, zpow_natCast, zpow_natCast,
    value]
  constructor
  · exact mul_le_mul_of_nonneg_right (by exact_mod_cast hle hd) (by positivity)
  · exact mul_lt_mul_of_pos_right (by exact_mod_cast hlt) (by positivity)

/-- A magnitude has reached the power of ten of its leading place, and not the next one. -/
theorem leadingPlace_spec {u : ℕ} (hu : 0 < u) :
    (10 : ℚ) ^ leadingPlace u * one ≤ u ∧ (u : ℚ) < 10 ^ (leadingPlace u + 1) * one := by
  have hone : 0 < one := one_pos
  unfold leadingPlace
  generalize one = w at hone ⊢
  by_cases hw : w ≤ u
  · obtain ⟨k, hk, hlt, hle⟩ := exists_length_digitsOf (u / w)
    have hle := hle (Nat.div_pos hw hone)
    rw [if_pos hw, hk, Nat.cast_add_one, add_sub_cancel_right, zpow_natCast, ← Nat.cast_succ,
      zpow_natCast]
    rw [Nat.le_div_iff_mul_le hone] at hle
    rw [Nat.div_lt_iff_lt_mul hone] at hlt
    exact ⟨by exact_mod_cast hle, by exact_mod_cast hlt⟩
  · -- below one the leading place is that of the number of times the magnitude goes into one
    obtain ⟨m, hm⟩ : ∃ m, (w + u - 1) / u - 1 = m := ⟨_, rfl⟩
    have hceil : 0 < (w + u - 1) / u := Nat.div_pos (by omega) hu
    have hle : (m + 1) * u ≤ w + u - 1 := by
      rw [← hm, Nat.sub_add_cancel hceil]
      exact Nat.div_mul_le_self _ u
    have hlt : w + u - 1 < (m + 2) * u := by
      rw [← Nat.div_lt_iff_lt_mul hu]
      omega
    rw [Nat.add_mul] at hle hlt
    have hpos : 0 < m := Nat.pos_of_ne_zero fun h0 => by subst h0; omega
    obtain ⟨k, hk, hdigits, hpow⟩ := exists_length_digitsOf m
    have hupper : w ≤ 10 ^ (k + 1) * u := by
      have := Nat.mul_le_mul_right u hdigits
      rw [Nat.succ_mul] at this
      omega
    have hlower : 10 ^ k * u < w := by
      have := Nat.mul_le_mul_right u (hpow hpos)
      omega
    have hexponent : -((k + 1 : ℕ) : ℤ) + 1 = -(k : ℤ) := by omega
    rw [if_neg hw, hm, hk, hexponent, zpow_neg, zpow_neg, zpow_natCast, zpow_natCast,
      inv_mul_le_iff₀ (by positivity), lt_inv_mul_iff₀ (by positivity)]
    exact ⟨by exact_mod_cast hupper, by exact_mod_cast hlower⟩

/-! ### The search -/

variable {u : ℕ} {place : ℤ} {d : Decimal}

/-- The multiples of a power of ten next to a magnitude: it is below the upper one. -/
theorem neighbours_spec (u : ℕ) (place : ℤ) :
    ∃ b lower, neighbours u place = (b, b + 1, lower) ∧
      (u : ℚ) < (b + 1 : ℕ) * 10 ^ place * one := by
  have hone : 0 < one := one_pos
  unfold neighbours
  generalize one = w at hone ⊢
  rcases le_or_gt 0 place with h | h
  · obtain ⟨k, rfl⟩ := Int.eq_ofNat_of_zero_le h
    simp only [if_pos h, Int.toNat_natCast, power, Nat.pow_eq]
    have hpos : 0 < w * 10 ^ k := Nat.mul_pos hone (Nat.pow_pos (by norm_num))
    refine ⟨_, _, rfl, ?_⟩
    rw [zpow_natCast, mul_assoc, mul_comm (10 ^ k : ℚ)]
    exact_mod_cast (Nat.div_lt_iff_lt_mul hpos).1 (Nat.lt_succ_self (u / (w * 10 ^ k)))
  · obtain ⟨k, hk⟩ : ∃ k : ℕ, -place = k := ⟨(-place).toNat, by omega⟩
    have hplace : place = -(k : ℤ) := by omega
    simp only [if_neg h.not_ge, hk, Int.toNat_natCast, power, Nat.pow_eq]
    refine ⟨_, _, rfl, ?_⟩
    rw [hplace, zpow_neg, zpow_natCast, mul_right_comm, ← div_eq_mul_inv,
      lt_div_iff₀ (by positivity)]
    exact_mod_cast (Nat.div_lt_iff_lt_mul hone).1 (Nat.lt_succ_self (u * 10 ^ k / w))

theorem candidate?_cases {b : ℕ} {lower : Bool}
    (hneighbours : neighbours u place = (b, b + 1, lower)) (h : candidate? u place = some d) :
    d.units = u ∧ (d = ⟨b, place⟩ ∨ d = ⟨b + 1, place⟩) := by
  unfold candidate? at h
  rw [hneighbours] at h
  rcases Bool.eq_false_or_eq_true (Decimal.units ⟨b, place⟩ == u) with hb | hb <;>
    rcases Bool.eq_false_or_eq_true (Decimal.units ⟨b + 1, place⟩ == u) with ha | ha <;>
    simp only [hb, ha, Option.some.injEq, reduceCtorEq] at h <;> subst h
  · cases lower
    · exact ⟨beq_iff_eq.1 ha, .inr rfl⟩
    · exact ⟨beq_iff_eq.1 hb, .inl rfl⟩
  · exact ⟨beq_iff_eq.1 hb, .inl rfl⟩
  · exact ⟨beq_iff_eq.1 ha, .inr rfl⟩

/-- A candidate reads back, and the magnitude is below the next multiple of its power of ten. -/
theorem candidate?_spec (h : candidate? u place = some d) :
    d.units = u ∧ d.exponent = place ∧ (u : ℚ) < (d.digits + 1 : ℕ) * 10 ^ place * one := by
  obtain ⟨b, lower, hneighbours, hlt⟩ := neighbours_spec u place
  obtain ⟨hunits, rfl | rfl⟩ := candidate?_cases hneighbours h
  · exact ⟨hunits, rfl, hlt⟩
  · refine ⟨hunits, rfl, hlt.trans_le (mul_le_mul_of_nonneg_right ?_ cast_one_pos.le)⟩
    exact mul_le_mul_of_nonneg_right (Nat.cast_le.2 (Nat.le_succ _)) (by positivity)

theorem search_spec {n : ℕ} (h : search u n place = some d) :
    ∃ lower ≤ place, candidate? u lower = some d := by
  induction n generalizing place with
  | zero => cases h
  | succ n ih =>
    rw [search, Option.or_eq_some_iff] at h
    rcases h with h | ⟨-, h⟩
    · exact ⟨place, le_rfl, h⟩
    · obtain ⟨lower, hle, hcandidate⟩ := ih h
      exact ⟨lower, by omega, hcandidate⟩

/-- All digits of a magnitude stand for it. -/
theorem value_exact (u : ℕ) : (exact u).value * one = u := by
  have hexponent : (-1074 : ℤ) = -(1074 : ℕ) := rfl
  rw [exact, value_mk, one, hexponent]
  generalize 1074 = n
  have hten : (10 : ℚ) ^ n = 5 ^ n * 2 ^ n := by rw [← mul_pow]; norm_num
  rw [zpow_neg, zpow_natCast, hten, Nat.pow_eq, Nat.one_shiftLeft]
  push_cast
  field_simp

/-- The shortest decimal of a magnitude reads back. -/
theorem units_shortest (h : Representable u) : (shortest u).units = u := by
  unfold shortest
  cases hs : search u 17 (leadingPlace u) with
  | none => exact units_of_value (value_exact u) h.2
  | some d =>
    obtain ⟨lower, -, hcandidate⟩ := search_spec hs
    exact (candidate?_spec hcandidate).1

/-- The shortest decimal is not below a power of ten that the magnitude has reached. -/
theorem zpow_le_value_shortest (hu : 0 < u) {k : ℤ} (h : (10 : ℚ) ^ k * one ≤ u) :
    (10 : ℚ) ^ k ≤ (shortest u).value := by
  unfold shortest
  cases hs : search u 17 (leadingPlace u) with
  | none =>
    rw [← value_exact u] at h
    exact le_of_mul_le_mul_right h cast_one_pos
  | some d =>
    obtain ⟨lower, hlower, hcandidate⟩ := search_spec hs
    obtain ⟨-, rfl, hlt⟩ := candidate?_spec hcandidate
    have hreached {j : ℤ} (hj : d.exponent ≤ j) (h : (10 : ℚ) ^ j * one ≤ u) :
        (10 : ℚ) ^ j ≤ d.value := by
      obtain ⟨t, rfl⟩ := Int.le.dest hj
      have hscaled : (10 : ℚ) ^ (d.exponent + t) = (10 ^ t : ℕ) * 10 ^ d.exponent := by
        rw [zpow_add₀ (by norm_num), zpow_natCast, mul_comm, Nat.cast_pow, Nat.cast_ofNat]
      rw [hscaled] at h ⊢
      have hpow := lt_of_mul_lt_mul_right (h.trans_lt hlt) cast_one_pos.le
      have hdigits := lt_of_mul_lt_mul_right hpow (by positivity)
      exact mul_le_mul_of_nonneg_right (Nat.cast_le.2 (Nat.lt_succ_iff.1 (Nat.cast_lt.1 hdigits)))
        (by positivity)
    rcases le_total d.exponent k with hk | hk
    · exact hreached hk h
    · -- the lowest place of the decimal has been reached, since the leading place has
      have hleading : (10 : ℚ) ^ d.exponent * one ≤ u :=
        (mul_le_mul_of_nonneg_right (zpow_le_zpow_right₀ (by norm_num) hlower)
          cast_one_pos.le).trans (leadingPlace_spec hu).1
      exact (zpow_le_zpow_right₀ (by norm_num) hk).trans (hreached le_rfl hleading)

/-! ### The range -/

theorem units_small : units ⟨1, -330⟩ = 0 := by decide +kernel

theorem limit_le_units_large : Double.limit ≤ units ⟨1, 310⟩ := by decide +kernel

/-- The range that is told by the leading place holds every decimal that is rounded to a positive
magnitude of a double. -/
theorem toDouble_of_units (negative : Bool) (hu : 0 < u) (h : Representable u)
    (hunits : d.units = u) : d.toDouble negative = .finite negative u h := by
  subst hunits
  have hsmall : ¬d.value ≤ value ⟨1, -330⟩ := fun hle => by
    have := units_mono hle
    rw [units_small] at this
    omega
  have hlarge : ¬value ⟨1, 310⟩ ≤ d.value := fun hle =>
    ((limit_le_units_large.trans (units_mono hle)).trans_lt h.1).false
  simp only [value_mk, Nat.cast_one, one_mul] at hsmall hlarge
  have hdigits := digits_pos hu
  obtain ⟨hlower, hupper⟩ := extent_spec hdigits
  have hfirst : ¬(d.digits = 0 ∨ d.extent < -330) := by
    rintro (h0 | hlt)
    · omega
    · exact hsmall (hupper.le.trans (zpow_le_zpow_right₀ (by norm_num) hlt.le))
  have hsecond : ¬310 < d.extent := fun hlt =>
    hlarge ((zpow_le_zpow_right₀ (by norm_num) (by omega)).trans hlower)
  rw [toDouble, if_neg hfirst, if_neg hsecond]
  exact dif_pos h

end NativeProps.Decimal
