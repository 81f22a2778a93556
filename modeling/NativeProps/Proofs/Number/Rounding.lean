import Mathlib.Algebra.Order.Field.Basic
import Mathlib.Algebra.Order.Field.Rat
import Mathlib.Algebra.Order.Floor.Semifield
import Mathlib.Data.Nat.Log
import Mathlib.Data.Rat.Floor
import Mathlib.Tactic.Linarith
import Mathlib.Tactic.Positivity
import NativeProps.Number.Double

/-!
# Rounding to doubles

Rounding is arithmetic of natural numbers. Here it is read as a function of the rational number that
is rounded: it is the same for equal quotients, keeps their order and leaves the magnitudes of
doubles as they are.

* `IsNearest`: the nearest whole number to a rational, the even one of two.
* `isNearest_roundDiv`: `Double.roundDiv` gives this number.
* `roundUnits_mono`: rounding to a magnitude keeps the order.
* `roundUnits_of_eq`: a magnitude of a double is rounded to itself.
-/

namespace NativeProps

/-! ### The nearest whole number -/

/-- A whole number is the nearest to a rational, or the even one of the two nearest. -/
structure IsNearest (x : ℚ) (r : ℕ) : Prop where
  le_add : (r : ℚ) ≤ x + 1 / 2
  add_le : x ≤ r + 1 / 2
  even : (r : ℚ) = x + 1 / 2 ∨ x = r + 1 / 2 → Even r

theorem isNearest_natCast (n : ℕ) : IsNearest n n where
  le_add := by linarith
  add_le := by linarith
  even h := by rcases h with h | h <;> linarith

theorem IsNearest.mono {x y : ℚ} {r s : ℕ} (hr : IsNearest x r) (hs : IsNearest y s)
    (h : x ≤ y) : r ≤ s := by
  by_contra hlt
  have hsr : s + 1 ≤ r := not_le.1 hlt
  have hcast : (s : ℚ) + 1 ≤ r := by exact_mod_cast hsr
  have hr' := hr.le_add
  have hs' := hs.add_le
  -- both are halfway between the same two whole numbers, which are not both even
  have heq : (r : ℚ) = s + 1 := by linarith
  have hnat : r = s + 1 := by exact_mod_cast heq
  have hreven := hr.even (.inl (by linarith))
  have hseven := hs.even (.inr (by linarith))
  rw [hnat, Nat.even_add_one] at hreven
  exact hreven hseven

section Fractions

variable {b : ℕ} {f : ℚ}

theorem isNearest_below (h0 : 0 ≤ f) (h : f < 1 / 2) : IsNearest (b + f) b where
  le_add := by linarith
  add_le := by linarith
  even h := by rcases h with h | h <;> linarith

theorem isNearest_above (h : 1 / 2 < f) (h1 : f < 1) : IsNearest (b + f) (b + 1) where
  le_add := by push_cast; linarith
  add_le := by push_cast; linarith
  even h := by push_cast at h; rcases h with h | h <;> linarith

theorem isNearest_half : IsNearest (b + 1 / 2) (b + b % 2) := by
  have heven : Even (b + b % 2) := by rw [Nat.even_iff]; omega
  rcases Nat.mod_two_eq_zero_or_one b with h | h <;> rw [h] at heven ⊢
  · exact ⟨by push_cast; linarith, by push_cast; linarith, fun _ => heven⟩
  · exact ⟨by push_cast; linarith, by push_cast; linarith, fun _ => heven⟩

end Fractions

namespace Double

variable {p q p' q' : ℕ}

theorem isNearest_roundDiv (hq : 0 < q) : IsNearest ((p : ℚ) / q) (roundDiv p q) := by
  have hpos : (0 : ℚ) < q := by exact_mod_cast hq
  have hsplit : (p : ℚ) / q = (p / q : ℕ) + (p % q : ℕ) / q := by
    rw [div_eq_iff hpos.ne', add_mul, div_mul_cancel₀ _ hpos.ne']
    exact_mod_cast (Nat.div_add_mod' p q).symm
  have hmod : p % q < q := Nat.mod_lt p hq
  rw [hsplit]
  unfold roundDiv
  generalize p / q = b
  generalize p % q = m at hmod
  -- the fraction is compared with a half as the remainder is with half the divisor
  by_cases hlt : 2 * m < q
  · have hfrac : (m : ℚ) / q < 1 / 2 := by
      rw [div_lt_div_iff₀ hpos two_pos]
      exact_mod_cast (by omega : m * 2 < 1 * q)
    simp only [if_pos hlt]
    exact isNearest_below (by positivity) hfrac
  · by_cases hgt : q < 2 * m
    · have hfrac : 1 / 2 < (m : ℚ) / q := by
        rw [div_lt_div_iff₀ two_pos hpos]
        exact_mod_cast (by omega : 1 * q < m * 2)
      have hone : (m : ℚ) / q < 1 := by
        rw [div_lt_one hpos]
        exact_mod_cast hmod
      simp only [if_neg hlt, if_pos hgt]
      exact isNearest_above hfrac hone
    · have hfrac : (m : ℚ) / q = 1 / 2 := by
        rw [div_eq_div_iff hpos.ne' two_ne_zero]
        exact_mod_cast (by omega : m * 2 = 1 * q)
      simp only [if_neg hlt, if_neg hgt, hfrac]
      exact isNearest_half

/-! ### The nearest magnitude -/

theorem step_eq (n : ℕ) : step n = 2 ^ (n.log2 - 52) := Nat.one_shiftLeft _

theorem step_pos (n : ℕ) : 0 < step n := by
  rw [step_eq]
  positivity

/-- The distance of doubles at a magnitude divides the powers of two on either side of it. -/
theorem step_dvd {n k : ℕ} (h : n.log2 ≤ k) : step n ∣ 2 ^ k := by
  rw [step_eq]
  exact Nat.pow_dvd_pow 2 (by omega)

/-- A magnitude is rounded to a multiple of the distance of doubles there. -/
theorem exists_roundUnits (p : ℕ) (hq : 0 < q) :
    ∃ r, roundUnits p q = r * step (p / q) ∧ IsNearest ((p : ℚ) / q / step (p / q)) r := by
  refine ⟨_, rfl, ?_⟩
  have h := isNearest_roundDiv (p := p) (Nat.mul_pos hq (step_pos (p / q)))
  rwa [Nat.cast_mul, ← div_div] at h

/-- Multiples of the distance of doubles at a magnitude are not skipped by rounding there. -/
theorem roundUnits_le {n : ℕ} (hq : 0 < q) (hn : step (p / q) ∣ n) (h : (p : ℚ) / q ≤ n) :
    roundUnits p q ≤ n := by
  obtain ⟨t, rfl⟩ := hn
  obtain ⟨r, hr, hnear⟩ := exists_roundUnits p hq
  have hs : (0 : ℚ) < step (p / q) := by exact_mod_cast step_pos (p / q)
  have hle : (p : ℚ) / q / step (p / q) ≤ t := by
    rw [div_le_iff₀ hs]
    exact_mod_cast (mul_comm (step (p / q)) t ▸ h)
  rw [hr, mul_comm]
  exact Nat.mul_le_mul_left _ (hnear.mono (isNearest_natCast t) hle)

theorem le_roundUnits {n : ℕ} (hq : 0 < q) (hn : step (p / q) ∣ n) (h : (n : ℚ) ≤ (p : ℚ) / q) :
    n ≤ roundUnits p q := by
  obtain ⟨t, rfl⟩ := hn
  obtain ⟨r, hr, hnear⟩ := exists_roundUnits p hq
  have hs : (0 : ℚ) < step (p / q) := by exact_mod_cast step_pos (p / q)
  have hle : (t : ℚ) ≤ (p : ℚ) / q / step (p / q) := by
    rw [le_div_iff₀ hs]
    exact_mod_cast (mul_comm (step (p / q)) t ▸ h)
  rw [hr, mul_comm]
  exact Nat.mul_le_mul_right _ ((isNearest_natCast t).mono hnear hle)

/-- A quotient lies between two neighbouring powers of two. -/
theorem div_le_two_pow (p q : ℕ) : (p : ℚ) / q ≤ (2 ^ ((p / q).log2 + 1) : ℕ) := by
  have hfloor : ⌊(p : ℚ) / q⌋₊ < 2 ^ ((p / q).log2 + 1) := by
    rw [Nat.floor_div_eq_div]
    exact Nat.lt_log2_self
  exact ((Nat.floor_lt (by positivity)).1 hfloor).le

theorem two_pow_le_div (h : p / q ≠ 0) : ((2 ^ (p / q).log2 : ℕ) : ℚ) ≤ (p : ℚ) / q := by
  have hfloor : 2 ^ (p / q).log2 ≤ ⌊(p : ℚ) / q⌋₊ := by
    rw [Nat.floor_div_eq_div]
    exact Nat.log2_self_le h
  exact (Nat.le_floor_iff (by positivity)).1 hfloor

/-- Rounding to a magnitude keeps the order of quotients. -/
theorem roundUnits_mono (hq : 0 < q) (hq' : 0 < q') (h : (p : ℚ) / q ≤ p' / q') :
    roundUnits p q ≤ roundUnits p' q' := by
  have hfloor : p / q ≤ p' / q' := by
    rw [← Nat.floor_div_eq_div (K := ℚ), ← Nat.floor_div_eq_div (K := ℚ)]
    exact Nat.floor_mono h
  have hlog : (p / q).log2 ≤ (p' / q').log2 := by
    rw [Nat.log2_eq_log_two, Nat.log2_eq_log_two]
    exact Nat.log_mono_right hfloor
  rcases hlog.eq_or_lt with heq | hlt
  · -- both are rounded to multiples of the same distance
    obtain ⟨r, hr, hnear⟩ := exists_roundUnits p hq
    obtain ⟨r', hr', hnear'⟩ := exists_roundUnits p' hq'
    have hstep : step (p / q) = step (p' / q') := by rw [step_eq, step_eq, heq]
    rw [hstep] at hr hnear
    rw [hr, hr']
    exact Nat.mul_le_mul_right _ (hnear.mono hnear' (div_le_div_of_nonneg_right h (by positivity)))
  · -- the power of two between them is passed by neither
    have hne : p' / q' ≠ 0 := by
      intro h0
      rw [h0] at hlt
      exact absurd hlt (Nat.not_lt_zero _)
    have hupper : (p : ℚ) / q ≤ (2 ^ (p' / q').log2 : ℕ) :=
      (div_le_two_pow p q).trans (Nat.cast_le.2 (Nat.pow_le_pow_right two_pos hlt))
    exact (roundUnits_le hq (step_dvd hlt.le) hupper).trans
      (le_roundUnits hq' (step_dvd le_rfl) (two_pow_le_div hne))

/-- A magnitude that a double can have is rounded to itself. -/
theorem roundUnits_of_eq {u : ℕ} (hq : 0 < q) (h : (p : ℚ) / q = u) (hu : u % step u = 0) :
    roundUnits p q = u := by
  have hfloor : p / q = u := by
    rw [← Nat.floor_div_eq_div (K := ℚ), h, Nat.floor_natCast]
  have hdvd : step (p / q) ∣ u := hfloor.symm ▸ Nat.dvd_of_mod_eq_zero hu
  exact le_antisymm (roundUnits_le hq hdvd h.le) (le_roundUnits hq hdvd h.ge)

end Double

end NativeProps
