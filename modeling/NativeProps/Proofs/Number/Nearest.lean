import Mathlib.Algebra.Order.Ring.Abs
import NativeProps.Proofs.Number.Literals

/-!
# The double nearest to a whole number

Whole numbers are turned into doubles by rounding their magnitude. Here this is compared with all
doubles that there are: none is nearer, and of two that are equally near the one with the even
significand is taken.

* `Double.significand`: the binary digits of a double as a whole number.
* `Double.Nearest`: the nearest double to a number, with the rule for ties.
* `Double.nearest_roundUnits`: no magnitude of a double is nearer than the rounded one.
* `Double.nearest_ofInt?`, `Double.Nearest.eq_of_ofInt?`: the double of a whole number is the
  nearest one, and no other number is that of a nearest one.
* `Double.ofInt?_eq_none_iff`: the whole numbers beyond the range.
-/

namespace NativeProps

/-! ### Nearest whole numbers -/

namespace IsNearest

variable {x : ℚ} {r t : ℕ}

theorem abs_sub_le_half (h : IsNearest x r) : |x - r| ≤ 1 / 2 := by
  rw [abs_le]
  constructor
  · linarith [h.le_add]
  · linarith [h.add_le]

theorem half_le_abs_sub (h : IsNearest x r) (ht : t ≠ r) : 1 / 2 ≤ |x - t| := by
  have hgap : (1 : ℚ) ≤ |(r : ℚ) - t| := by
    have hne : (r : ℤ) - t ≠ 0 := sub_ne_zero.2 (by exact_mod_cast ht.symm)
    exact_mod_cast Int.one_le_abs hne
  have htriangle : |(r : ℚ) - t| ≤ |x - r| + |x - t| := by
    rw [abs_sub_comm x r]
    exact abs_sub_le _ _ _
  linarith [h.abs_sub_le_half]

theorem abs_sub_le_abs_sub (h : IsNearest x r) (t : ℕ) : |x - r| ≤ |x - t| := by
  by_cases ht : t = r
  · rw [ht]
  · exact h.abs_sub_le_half.trans (h.half_le_abs_sub ht)

/-- Two whole numbers that are nearest are neighbours, and the even one was chosen. -/
theorem even_and_odd (h : IsNearest x r) (ht : t ≠ r) (heq : |x - t| = |x - r|) :
    Even r ∧ Odd t := by
  have hhalf : |x - r| = 1 / 2 :=
    le_antisymm h.abs_sub_le_half (heq ▸ h.half_le_abs_sub ht)
  have heven : Even r := by
    refine h.even ?_
    rcases (abs_eq (by norm_num)).1 hhalf with h | h
    · exact .inr (by linarith)
    · exact .inl (by linarith)
  have hne : (t : ℚ) ≠ r := by exact_mod_cast ht
  have hneighbour : (t : ℚ) = r + 1 ∨ (r : ℚ) = t + 1 := by
    rcases (abs_eq (by norm_num)).1 hhalf with hr | hr <;>
      rcases (abs_eq (by norm_num)).1 (heq.trans hhalf) with ht | ht
    · exact absurd (by linarith) hne
    · exact .inl (by linarith)
    · exact .inr (by linarith)
    · exact absurd (by linarith) hne
  refine ⟨heven, ?_⟩
  rcases hneighbour with h | h
  · rw [show t = r + 1 by exact_mod_cast h]
    exact heven.add_one
  · rw [show r = t + 1 by exact_mod_cast h] at heven
    exact Nat.not_even_iff_odd.1 fun he => Nat.even_add_one.1 heven he

end IsNearest

/-! ### Nearest magnitudes -/

namespace Double

variable {p q v t : ℕ}

/-- The binary digits of a magnitude as a whole number. -/
def significand (units : ℕ) : ℕ := units / step units

theorem step_dvd_step {m n : ℕ} (h : m.log2 ≤ n.log2) : step m ∣ step n := by
  rw [step_eq, step_eq]
  exact Nat.pow_dvd_pow 2 (by omega)

/-- Rounding does not leave the powers of two on either side of a quotient. -/
theorem step_roundUnits (p : ℕ) (hq : 0 < q) :
    step (roundUnits p q) = step (p / q) ∨ roundUnits p q = 2 ^ ((p / q).log2 + 1) := by
  have hupper := roundUnits_le hq (step_dvd (Nat.le_succ _)) (div_le_two_pow p q)
  rcases hupper.eq_or_lt with heq | hlt
  · exact .inr heq
  · left
    have hlog : (roundUnits p q).log2 - 52 = (p / q).log2 - 52 := by
      by_cases h0 : p / q = 0
      · rw [h0, Nat.log2_zero] at hlt ⊢
        obtain h | h : roundUnits p q = 0 ∨ roundUnits p q = 1 := by omega
        · rw [h, Nat.log2_zero]
        · rw [h]
          rfl
      · have hlower := le_roundUnits hq (step_dvd le_rfl) (two_pow_le_div h0)
        have hne : roundUnits p q ≠ 0 := by have := Nat.two_pow_pos (p / q).log2; omega
        rw [(Nat.log2_eq_iff hne).2 ⟨hlower, hlt⟩]
    rw [step_eq, step_eq, hlog]

/-- Rounding gives the magnitude of a double, as far as the number of digits goes. -/
theorem roundUnits_mod_step (p : ℕ) (hq : 0 < q) :
    roundUnits p q % step (roundUnits p q) = 0 := by
  rcases step_roundUnits p hq with heq | heq
  · obtain ⟨r, hr, -⟩ := exists_roundUnits p hq
    rw [heq, hr, Nat.mul_mod_left]
  · rw [heq, step_eq, Nat.log2_two_pow]
    exact Nat.mod_eq_zero_of_dvd (Nat.pow_dvd_pow 2 (Nat.sub_le _ _))

theorem even_significand_roundUnits (hq : 0 < q) {r : ℕ}
    (hr : roundUnits p q = r * step (p / q)) (h : Even r) :
    Even (significand (roundUnits p q)) := by
  unfold significand
  rcases step_roundUnits p hq with heq | heq
  · rwa [heq, hr, Nat.mul_div_cancel _ (step_pos _)]
  · -- a power of two, of which at most 52 digits are taken
    rw [heq, step_eq, Nat.log2_two_pow, Nat.pow_div (Nat.sub_le _ _) two_pos]
    exact (Nat.even_pow.2 ⟨even_two, by omega⟩)

/-- An odd number of distances at one magnitude is the significand of a greater one. -/
theorem significand_of_odd {n : ℕ} (hlog : n.log2 ≤ v.log2) (hv : v % step v = 0)
    (ht : v = t * step n) (hodd : Odd t) : significand v = t := by
  have hstep : step v = step n := by
    rw [step_eq, step_eq] at *
    by_contra hne
    have hlt : n.log2 - 52 + 1 ≤ v.log2 - 52 := by
      by_contra hle
      exact hne (by rw [show v.log2 - 52 = n.log2 - 52 by omega])
    have hdvd := (Nat.pow_dvd_pow 2 hlt).trans (Nat.dvd_of_mod_eq_zero hv)
    rw [ht, pow_succ, mul_comm t] at hdvd
    have htwo := Nat.dvd_of_mul_dvd_mul_left (Nat.two_pow_pos _) hdvd
    exact Nat.not_even_iff_odd.2 hodd (even_iff_two_dvd.2 htwo)
  rw [significand, hstep, ht, Nat.mul_div_cancel _ (step_pos _)]

/-- No magnitude of a double is nearer to a quotient than the one it is rounded to. Where another
one is as near, the significand of that one is odd. -/
theorem nearest_roundUnits (p : ℕ) (hq : 0 < q) (hv : v % step v = 0) :
    |(p : ℚ) / q - roundUnits p q| ≤ |(p : ℚ) / q - v| ∧
      (v ≠ roundUnits p q → |(p : ℚ) / q - v| = |(p : ℚ) / q - roundUnits p q| →
        Even (significand (roundUnits p q)) ∧ Odd (significand v)) := by
  obtain ⟨r, hr, hnear⟩ := exists_roundUnits p hq
  have hpos : (0 : ℚ) < step (p / q) := Nat.cast_pos.2 (step_pos _)
  -- the distance of a multiple is counted in steps
  have hscale (t : ℕ) : |(p : ℚ) / q - (t * step (p / q) : ℕ)| =
      |(p : ℚ) / q / step (p / q) - t| * step (p / q) := by
    rw [Nat.cast_mul, ← abs_of_pos hpos, ← abs_mul, abs_of_pos hpos, sub_mul,
      div_mul_cancel₀ _ hpos.ne']
  have hmultiple (t : ℕ) :
      |(p : ℚ) / q - roundUnits p q| ≤ |(p : ℚ) / q - (t * step (p / q) : ℕ)| := by
    rw [hr, hscale, hscale]
    exact mul_le_mul_of_nonneg_right (hnear.abs_sub_le_abs_sub t) hpos.le
  rcases le_or_gt (p / q).log2 v.log2 with hlog | hlog
  · obtain ⟨t, ht⟩ := (step_dvd_step hlog).trans (Nat.dvd_of_mod_eq_zero hv)
    rw [mul_comm] at ht
    refine ⟨ht ▸ hmultiple t, fun hne htie => ?_⟩
    have hcount : t ≠ r := by
      rintro rfl
      exact hne (ht.trans hr.symm)
    rw [hr, ht, hscale, hscale] at htie
    obtain ⟨heven, hodd⟩ := hnear.even_and_odd hcount (mul_right_cancel₀ hpos.ne' htie)
    refine ⟨even_significand_roundUnits hq hr heven, ?_⟩
    rwa [significand_of_odd hlog hv ht hodd]
  · -- the power of two between them is nearer than the lesser magnitude
    have h0 : p / q ≠ 0 := by
      intro h0
      rw [h0, Nat.log2_zero] at hlog
      omega
    have hpower := two_pow_le_div h0
    have hless : (v : ℚ) < (2 ^ (p / q).log2 : ℕ) := by
      have := Nat.lt_log2_self (n := v)
      exact_mod_cast this.trans_le (Nat.pow_le_pow_right two_pos hlog)
    obtain ⟨t, ht⟩ := step_dvd (n := p / q) le_rfl
    have hbetween : |(p : ℚ) / q - roundUnits p q| ≤ |(p : ℚ) / q - (2 ^ (p / q).log2 : ℕ)| := by
      rw [ht, mul_comm]
      exact hmultiple t
    have hlt : |(p : ℚ) / q - roundUnits p q| < |(p : ℚ) / q - v| := by
      rw [abs_of_nonneg (sub_nonneg.2 hpower)] at hbetween
      rw [abs_of_nonneg (sub_nonneg.2 (hless.le.trans hpower))]
      linarith
    exact ⟨hlt.le, fun _ htie => absurd htie hlt.ne'⟩

/-! ### Whole numbers -/

variable {m : ℕ}

theorem roundUnits_whole_mono {k : ℕ} (h : k ≤ m) :
    roundUnits (k * one) 1 ≤ roundUnits (m * one) 1 := by
  refine roundUnits_mono Nat.one_pos Nat.one_pos (div_le_div_of_nonneg_right ?_ (by simp))
  exact_mod_cast Nat.mul_le_mul_right one h

theorem whole_mod_step (h : m ≤ 2 ^ 53) : m * one % step (m * one) = 0 := by
  rcases h.eq_or_lt with rfl | hlt
  · decide +kernel
  · rcases Nat.eq_zero_or_pos m with rfl | hpos
    · rw [Nat.zero_mul, Nat.zero_mod]
    · rw [step_eq, one, Nat.one_shiftLeft]
      generalize 1074 = k
      have hlog : (m * 2 ^ k).log2 < 53 + k := by
        rw [Nat.log2_lt (Nat.mul_pos hpos (Nat.two_pow_pos k)).ne', pow_add]
        exact Nat.mul_lt_mul_of_pos_right hlt (Nat.two_pow_pos k)
      exact Nat.mod_eq_zero_of_dvd
        ((Nat.pow_dvd_pow 2 (by omega)).trans (Nat.dvd_mul_left (2 ^ k) m))

/-- Up to `2 ^ 53` every whole number is a double. -/
theorem roundUnits_whole (h : m ≤ 2 ^ 53) : roundUnits (m * one) 1 = m * one :=
  roundUnits_of_eq Nat.one_pos (by simp) (whole_mod_step h)

/-- A whole number is rounded to a whole number. -/
theorem one_dvd_roundUnits_whole (m : ℕ) : one ∣ roundUnits (m * one) 1 := by
  rcases le_total m (2 ^ 53) with h | h
  · rw [roundUnits_whole h]
    exact Nat.dvd_mul_left one m
  · have hle := roundUnits_whole_mono h
    rw [roundUnits_whole le_rfl] at hle
    exact Decimal.one_dvd_of_le hle (roundUnits_mod_step _ Nat.one_pos)

/-! ### Nearest doubles -/

/-- Whether the binary digits of a double end in a zero. -/
def IsEven : Double → Prop
  | .finite _ units _ => Even (significand units)
  | _ => False

/-- A double nearest to a number, and the number that it is: no other one is nearer, and where
another number is as near, its digits end in a zero. -/
structure Nearest (q : ℚ) (x : Double) (r : ℚ) : Prop where
  toRat : x.toRat? = some r
  le : ∀ (y : Double) s, y.toRat? = some s → |q - r| ≤ |q - s|
  even : ∀ (y : Double) s, y.toRat? = some s → s ≠ r → |q - s| = |q - r| → x.IsEven

variable {n : ℤ} {x y : Double} {r s : ℚ}

theorem ofInt?_eq_some (h : ofInt? n = some x) :
    ∃ hu, x = .finite (decide (n < 0)) (roundUnits (n.natAbs * one) 1) hu := by
  simp only [ofInt?] at h
  split at h
  · exact ⟨_, (Option.some.inj h).symm⟩
  · cases h

/-- The distance between the magnitudes of a whole number and a double. -/
theorem abs_abs_sub_abs_of_toRat? {negative : Bool} {u : ℕ} {hu : Representable u}
    (hr : toRat? (.finite negative u hu) = some r) :
    |(|(n : ℚ)| - |r|)| = |((n.natAbs * one : ℕ) : ℚ) / (1 : ℕ) - u| / one := by
  have hone := Decimal.cast_one_pos
  rw [abs_of_toRat? hr, ← abs_of_pos hone, ← abs_div, abs_of_pos hone, sub_div, Nat.cast_one,
    div_one, Nat.cast_mul, mul_div_cancel_right₀ _ hone.ne', Nat.cast_natAbs, Int.cast_abs]

theorem eq_zero_of_ofInt? (h : ofInt? 0 = some x) (hr : x.toRat? = some r) : r = 0 := by
  obtain ⟨hu, rfl⟩ := ofInt?_eq_some h
  have hzero : roundUnits (0 * one) 1 = 0 * one := roundUnits_whole (Nat.zero_le _)
  exact (eq_zero_iff_of_toRat? hr).2 (hzero.trans (Nat.zero_mul one))

/-- Rounding keeps the sign of a whole number. -/
theorem neg_iff_of_ofInt? (h : ofInt? n = some x) (hr : x.toRat? = some r) : r < 0 ↔ n < 0 := by
  by_cases hn : n = 0
  · subst hn
    rw [eq_zero_of_ofInt? h hr]
    simp
  · obtain ⟨hu, rfl⟩ := ofInt?_eq_some h
    have hpos : 0 < roundUnits (n.natAbs * one) 1 := by
      have hone := roundUnits_whole (m := 1) (by norm_num)
      have hle := roundUnits_whole_mono (Int.natAbs_pos.2 hn)
      rw [hone, Nat.one_mul] at hle
      exact Decimal.one_pos.trans_le hle
    rw [neg_iff_of_toRat? hr hpos, decide_eq_true_eq]

/-- A number is as near to another one as to its negative only if one of the two is zero. -/
theorem mul_eq_zero_of_abs_sub_eq {a b : ℚ} (h : |a - -b| = |a - b|) : a * b = 0 := by
  have hsquare := (sq_eq_sq_iff_abs_eq_abs _ _).2 h
  linarith

/-- No double is nearer to a whole number than the one it is rounded to, and where another number is
as near, the digits of that one end in a one. -/
theorem nearest_of_ofInt? (h : ofInt? n = some x) (hr : x.toRat? = some r)
    (hs : y.toRat? = some s) :
    |(n : ℚ) - r| ≤ |(n : ℚ) - s| ∧
      (s ≠ r → |(n : ℚ) - s| = |(n : ℚ) - r| → x.IsEven ∧ ¬y.IsEven) := by
  have hsign := neg_iff_of_ofInt? h hr
  obtain ⟨hu, hx⟩ := ofInt?_eq_some h
  subst hx
  obtain ⟨negative, v, hv, rfl⟩ := exists_finite_of_toRat? hs
  obtain ⟨hnear, htie⟩ := nearest_roundUnits (n.natAbs * one) Nat.one_pos hv.2
  have hone := Decimal.cast_one_pos
  have hsame : |(n : ℚ) - r| = |(|(n : ℚ)| - |r|)| := by
    rcases lt_or_ge n 0 with hn | hn
    · rw [abs_of_neg (Int.cast_lt_zero.2 hn), abs_of_neg (hsign.2 hn), neg_sub_neg, abs_sub_comm]
    · have hr0 : 0 ≤ r := not_lt.1 (mt hsign.1 hn.not_gt)
      rw [abs_of_nonneg (Int.cast_nonneg hn), abs_of_nonneg hr0]
  have hother : |(|(n : ℚ)| - |s|)| ≤ |(n : ℚ) - s| := abs_abs_sub_abs_le _ _
  have hle : |(|(n : ℚ)| - |r|)| ≤ |(|(n : ℚ)| - |s|)| := by
    rw [abs_abs_sub_abs_of_toRat? hr, abs_abs_sub_abs_of_toRat? hs]
    exact div_le_div_of_nonneg_right hnear hone.le
  refine ⟨hsame ▸ hle.trans hother, fun hne heq => ?_⟩
  by_cases huv : v = roundUnits (n.natAbs * one) 1
  · -- numbers of the same magnitude are as near only to zero
    exfalso
    have habs : |s| = |r| := by rw [abs_of_toRat? hr, abs_of_toRat? hs, huv]
    obtain rfl : s = -r := (abs_eq_abs.1 habs).resolve_left hne
    have hr0 : r = 0 := by
      refine (mul_eq_zero.1 (mul_eq_zero_of_abs_sub_eq heq)).elim (fun hn => ?_) id
      obtain rfl : n = 0 := by exact_mod_cast hn
      exact eq_zero_of_ofInt? h hr
    rw [hr0, neg_zero] at hne
    exact hne rfl
  · have hmagnitudes : |(|(n : ℚ)| - |s|)| = |(|(n : ℚ)| - |r|)| := by
      refine le_antisymm ?_ hle
      rw [← hsame, ← heq]
      exact hother
    rw [abs_abs_sub_abs_of_toRat? hr, abs_abs_sub_abs_of_toRat? hs,
      div_left_inj' hone.ne'] at hmagnitudes
    obtain ⟨heven, hodd⟩ := htie huv hmagnitudes
    exact ⟨heven, Nat.not_even_iff_odd.2 hodd⟩

theorem nearest_ofInt? (h : ofInt? n = some x) : ∃ r, Nearest n x r := by
  obtain ⟨hu, hx⟩ := ofInt?_eq_some h
  obtain ⟨r, hr⟩ : ∃ r, x.toRat? = some r := ⟨_, by rw [hx, toRat?]⟩
  exact ⟨r, hr, fun y s hs => (nearest_of_ofInt? h hr hs).1,
    fun y s hs hne heq => ((nearest_of_ofInt? h hr hs).2 hne heq).1⟩

/-- No second number is that of a nearest double. -/
theorem Nearest.eq_of_ofInt? (h : ofInt? n = some x) (hr : x.toRat? = some r)
    (hy : Nearest n y s) : s = r := by
  by_contra hne
  obtain ⟨hle, htie⟩ := nearest_of_ofInt? h hr hy.toRat
  have heq := le_antisymm (hy.le x r hr) hle
  exact (htie hne heq).2 (hy.even x r hr (Ne.symm hne) heq.symm)

/-- Nearest doubles are ordered like the numbers that they are nearest to. -/
theorem Nearest.le_of_lt {p q : ℚ} (hx : Nearest p x r) (hy : Nearest q y s) (h : p < q) :
    r ≤ s := by
  by_contra hlt
  -- otherwise the middle between them is not above `p` and not below `q`
  have hp : r + s ≤ 2 * p := by nlinarith [sq_le_sq.2 (hx.le y s hy.toRat)]
  have hq : 2 * q ≤ r + s := by nlinarith [sq_le_sq.2 (hy.le x r hx.toRat)]
  linarith

/-! ### The range -/

/-- The magnitudes of whole numbers that are rounded to a double. -/
theorem roundUnits_lt_limit_iff (m : ℕ) :
    roundUnits (m * one) 1 < limit ↔ m < 2 ^ 1024 - 2 ^ 970 := by
  have hlast : roundUnits ((2 ^ 1024 - 2 ^ 970 - 1) * one) 1 < limit := by decide +kernel
  have hbeyond : limit ≤ roundUnits ((2 ^ 1024 - 2 ^ 970) * one) 1 := by decide +kernel
  constructor
  · intro h
    by_contra hle
    exact absurd (hbeyond.trans (roundUnits_whole_mono (not_lt.1 hle))) (not_le.2 h)
  · intro h
    exact (roundUnits_whole_mono (Nat.le_sub_one_of_lt h)).trans_lt hlast

theorem ofInt?_eq_none_iff : ofInt? n = none ↔ 2 ^ 1024 - 2 ^ 970 ≤ |n| := by
  have hrange : Representable (roundUnits (n.natAbs * one) 1) ↔ n.natAbs < 2 ^ 1024 - 2 ^ 970 := by
    rw [Representable, roundUnits_lt_limit_iff, and_iff_left (roundUnits_mod_step _ Nat.one_pos)]
  have hcast {a b : ℕ} (h : b ≤ a) : ((2 ^ a - 2 ^ b : ℕ) : ℤ) = 2 ^ a - 2 ^ b := by
    rw [Nat.cast_sub (Nat.pow_le_pow_right two_pos h), Nat.cast_pow, Nat.cast_pow, Nat.cast_ofNat]
  simp only [ofInt?, dite_eq_right_iff, reduceCtorEq, imp_false, hrange, not_lt]
  rw [Int.abs_eq_natAbs, ← hcast (by norm_num), Nat.cast_le]

end Double

end NativeProps
