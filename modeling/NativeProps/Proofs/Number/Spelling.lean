import Mathlib.Data.List.TakeWhile
import NativeProps.Number.Notation
import NativeProps.Number.Numeral
import NativeProps.Proofs.Number.Shortest

/-!
# The texts of decimals

A decimal is written in one of two forms, and either is read as a decimal of the same value.

* `Numeral.Fixed`, `Numeral.Scientific`: the two forms.
* `Decimal.amount`: the number that digits stand for, the first one at a given place.
* `Numeral.scan_parts`: what is read from digits, a fraction and an exponent.
* `Decimal.fixed_write`, `Decimal.scientific_write`, `Decimal.scan_write`: the form and the value of
  a written decimal.
* `Numeral.ofText?_of_plain`: the double that is read from the whole text.
-/

namespace NativeProps

open Decimal (digitsOf trimZeros positional scientific exponentText)

namespace Numeral

/-! ### Forms -/

/-- A run of ASCII digits, at least one. -/
structure Digits (cs : List Char) : Prop where
  ne_nil : cs ≠ []
  isDigit : ∀ c ∈ cs, c.isDigit = true

/-- Digits on either side of a point. -/
inductive Fixed : List Char → Prop where
  | mk {whole fraction : List Char} (whole_digits : Digits whole)
      (fraction_digits : Digits fraction) : Fixed (whole ++ '.' :: fraction)

/-- An exponent with its sign and at least two digits. -/
inductive Exponent : List Char → Prop where
  | mk {sign : Char} {digits : List Char} (isSign : sign = '+' ∨ sign = '-')
      (isDigits : Digits digits) (two_le : 2 ≤ digits.length) : Exponent ('e' :: sign :: digits)

/-- One digit, maybe more digits behind a point, and an exponent. -/
inductive Scientific : List Char → Prop where
  | whole {lead : Char} {exponent : List Char} (isDigit : lead.isDigit = true)
      (isExponent : Exponent exponent) : Scientific (lead :: exponent)
  | pointed {lead : Char} {fraction exponent : List Char} (isDigit : lead.isDigit = true)
      (fraction_digits : Digits fraction) (isExponent : Exponent exponent) :
      Scientific (lead :: '.' :: fraction ++ exponent)

variable {cs : List Char}

theorem not_mem_of_isDigit {c : Char} (h : ∀ d ∈ cs, d.isDigit = true)
    (hc : c.isDigit = false) : c ∉ cs := by
  intro hmem
  rw [h c hmem] at hc
  cases hc

theorem Fixed.not_mem (h : Fixed cs) : 'e' ∉ cs := by
  obtain ⟨hwhole, hfraction⟩ := h
  simp [not_mem_of_isDigit hwhole.isDigit, not_mem_of_isDigit hfraction.isDigit]

theorem Fixed.mem (h : Fixed cs) : '.' ∈ cs := by
  obtain ⟨-, -⟩ := h
  simp

theorem Scientific.mem (h : Scientific cs) : 'e' ∈ cs := by
  obtain ⟨-, ⟨-, -, -⟩⟩ | ⟨-, -, ⟨-, -, -⟩⟩ := h <;> simp

/-- A text of a form behind a sign. -/
def Signed (Form : List Char → Prop) (text : String) : Prop :=
  ∃ negative body, Form body ∧ text = String.ofList (Double.signText negative ++ body)

/-- No text is of both forms. -/
theorem Signed.not_fixed {text : String} (h : Signed Scientific text) : ¬Signed Fixed text := by
  obtain ⟨negative, body, hbody, rfl⟩ := h
  rintro ⟨other, fixed, hfixed, htext⟩
  have hsign : 'e' ∉ Double.signText other := by cases other <;> simp [Double.signText]
  have hmem : 'e' ∈ Double.signText other ++ fixed := by
    rw [← String.ofList_injective htext]
    exact List.mem_append_right _ hbody.mem
  exact (List.mem_append.1 hmem).elim hsign hfixed.not_mem

/-! ### Digits -/

theorem digits_digitsOf (n : ℕ) : Digits (digitsOf n) where
  ne_nil := Nat.toDigits_ne_nil
  isDigit _ := Nat.isDigit_of_mem_toDigits (by norm_num) le_rfl

theorem digits_singleton {c : Char} (h : c.isDigit = true) : Digits [c] :=
  ⟨List.cons_ne_nil _ _, by simpa using h⟩

theorem isDigit_of_mem_zeros {k : ℕ} {c : Char} (h : c ∈ List.replicate k '0') :
    c.isDigit = true := by
  rw [(List.mem_replicate.1 h).2]
  rfl

theorem digits_zeros_append (h : Digits cs) (k : ℕ) :
    Digits (List.replicate k '0' ++ cs) where
  ne_nil := by simp [h.ne_nil]
  isDigit c hc := (List.mem_append.1 hc).elim isDigit_of_mem_zeros (h.isDigit c)

theorem digits_append_zeros (h : Digits cs) (k : ℕ) :
    Digits (cs ++ List.replicate k '0') where
  ne_nil := by simp [h.ne_nil]
  isDigit c hc := (List.mem_append.1 hc).elim (h.isDigit c) isDigit_of_mem_zeros

@[simp] theorem value_zeros (start k : ℕ) :
    value start (List.replicate k '0') = 10 ^ k * start :=
  Nat.ofDigitChars_replicate_zero

@[simp] theorem value_digitsOf (n : ℕ) : value 0 (digitsOf n) = n :=
  Nat.ofDigitChars_ten_toDigits

end Numeral

namespace Decimal

open Numeral (Digits)

/-- Only zeros are taken from the end of digits. -/
theorem exists_eq_trimZeros_append {digits : List Char} (h : digits ≠ []) :
    ∃ k, digits = trimZeros digits ++ List.replicate k '0' := by
  obtain ⟨k, hk⟩ : ∃ k, digits.reverse.takeWhile (· == '0') = List.replicate k '0' :=
    ⟨_, List.eq_replicate_length.2 fun c hc => by simpa using List.mem_takeWhile_imp hc⟩
  have hsplit : digits =
      (digits.reverse.dropWhile (· == '0')).reverse ++ List.replicate k '0' := by
    rw [← List.reverse_replicate, ← hk, ← List.reverse_append, List.takeWhile_append_dropWhile,
      List.reverse_reverse]
  unfold trimZeros
  cases hs : (digits.reverse.dropWhile (· == '0')).reverse with
  | cons c rest => exact ⟨k, by rwa [hs] at hsplit⟩
  | nil =>
    -- the digits are all zero, and one of them is kept
    rw [hs, List.nil_append] at hsplit
    cases k with
    | zero => exact absurd hsplit h
    | succ k => exact ⟨k, hsplit⟩

theorem digits_trimZeros {digits : List Char} (h : Digits digits) : Digits (trimZeros digits) where
  ne_nil := by
    unfold trimZeros
    split <;> simp_all
  isDigit c hc := by
    obtain ⟨k, hk⟩ := exists_eq_trimZeros_append h.ne_nil
    exact h.isDigit c (hk ▸ List.mem_append_left _ hc)

/-- The number that digits stand for, the first one at a given place. -/
def amount (digits : List Char) (place : ℤ) : ℚ :=
  Numeral.value 0 digits * 10 ^ (place + 1 - digits.length)

theorem amount_append_zeros (digits : List Char) (k : ℕ) (place : ℤ) :
    amount (digits ++ List.replicate k '0') place = amount digits place := by
  have hexponent : place + 1 - digits.length = k + (place + 1 - (digits.length + k : ℕ)) := by
    push_cast
    ring
  rw [amount, amount, Numeral.value_append, Numeral.value_zeros, List.length_append,
    List.length_replicate, hexponent, zpow_add₀ (by norm_num), zpow_natCast]
  push_cast
  ring

/-- Zeros in front of digits move them to lower places. -/
theorem amount_zeros_append (digits : List Char) (k : ℕ) (place : ℤ) :
    amount (List.replicate k '0' ++ digits) place = amount digits (place - k) := by
  have hexponent : place + 1 - (k + digits.length : ℕ) = place - k + 1 - digits.length := by
    push_cast
    ring
  rw [amount, amount, Numeral.value_append, Numeral.value_zeros, mul_zero, List.length_append,
    List.length_replicate, hexponent]

theorem amount_trimZeros {digits : List Char} (h : digits ≠ []) (place : ℤ) :
    amount (trimZeros digits) place = amount digits place := by
  obtain ⟨k, hk⟩ := exists_eq_trimZeros_append h
  rw [hk, amount_append_zeros, ← hk]

/-- The last place of the digits before the point is that of one. -/
theorem value_parts (whole fraction : List Char) :
    value ⟨Numeral.value 0 (whole ++ fraction), -fraction.length⟩ =
      amount (whole ++ fraction) (whole.length - 1) := by
  have hexponent : (whole.length : ℤ) - 1 + 1 - (whole ++ fraction).length = -fraction.length := by
    rw [List.length_append]
    omega
  rw [value_mk, amount, hexponent]

theorem amount_digitsOf (d : Decimal) : amount (digitsOf d.digits) (d.extent - 1) = d.value := by
  rw [amount, value, Numeral.value_digitsOf, sub_add_cancel, extent, add_sub_cancel_left]

end Decimal

/-! ### Reading -/

namespace Numeral

/-- A fraction behind its point, nothing for no digits. -/
def pointed (fraction : List Char) : List Char :=
  if fraction.isEmpty then [] else '.' :: fraction

variable {whole fraction rest rest' : List Char} {e : ℤ}

/-- Digits end before what is no digit. -/
theorem span_isDigit (h : ∀ c ∈ whole, c.isDigit = true)
    (hrest : ∀ c ∈ rest.head?, c.isDigit = false) :
    (whole ++ rest).takeWhile Char.isDigit = whole ∧
      (whole ++ rest).dropWhile Char.isDigit = rest := by
  rw [List.takeWhile_append_of_pos h, List.dropWhile_append_of_pos h]
  cases rest with
  | nil => simp
  | cons c rest => simp [hrest c rfl]

/-- Digits, a fraction and what follows are read as they are written. -/
theorem scan_parts (hwhole : Digits whole) (hfraction : ∀ c ∈ fraction, c.isDigit = true)
    (hrest : ∀ c ∈ rest.head?, c.isDigit = false ∧ c ≠ '.')
    (he : (exponent? rest).getD (0, rest) = (e, rest')) :
    scan (whole ++ pointed fraction ++ rest) =
      some (⟨value 0 (whole ++ fraction), e - fraction.length⟩, rest') := by
  have hdigit : ∀ c ∈ rest.head?, c.isDigit = false := fun c hc => (hrest c hc).1
  have hnone : whole.isEmpty = false := by simpa using hwhole.ne_nil
  rw [List.append_assoc]
  cases fraction with
  | nil =>
    have hpoint : ∀ more, rest ≠ '.' :: more := by
      rintro more rfl
      exact (hrest '.' rfl).2 rfl
    obtain ⟨htake, hdrop⟩ := span_isDigit hwhole.isDigit hdigit
    simp only [scan, pointed, List.isEmpty_nil, if_true, List.nil_append, htake, hdrop]
    simp [hnone, he]
  | cons d fraction =>
    have hpoint : ∀ c ∈ ('.' :: (d :: fraction ++ rest)).head?, c.isDigit = false := by
      rintro c ⟨⟩
      rfl
    obtain ⟨htake, hdrop⟩ := span_isDigit hwhole.isDigit hpoint
    obtain ⟨htake', hdrop'⟩ := span_isDigit hfraction hdigit
    rw [pointed, List.isEmpty_cons, if_neg Bool.false_ne_true, List.cons_append]
    simp only [scan, htake, hdrop, htake', hdrop', he]
    simp [hnone]

theorem scan_fixed (hwhole : Digits whole) (hfraction : Digits fraction) :
    scan (whole ++ '.' :: fraction) =
      some (⟨value 0 (whole ++ fraction), -fraction.length⟩, []) := by
  have h : scan (whole ++ pointed fraction ++ []) =
      some (⟨value 0 (whole ++ fraction), 0 - fraction.length⟩, []) :=
    scan_parts hwhole hfraction.isDigit (by simp) rfl
  rwa [pointed, if_neg (by simpa using hfraction.ne_nil), List.append_nil, zero_sub] at h

/-- A written exponent is a sign and digits. -/
theorem exponentText_parts (style : NumberStyle) (e : ℤ) :
    ∃ digits, Digits digits ∧ value 0 digits = e.natAbs ∧ style.exponentWidth ≤ digits.length ∧
      exponentText style e = (if e < 0 then '-' else '+') :: digits := by
  refine ⟨_, digits_zeros_append (digits_digitsOf _) _, ?_, ?_, rfl⟩
  · rw [value_append, value_zeros, mul_zero, value_digitsOf]
  · rw [List.length_append, List.length_replicate]
    omega

theorem exponent_exponentText {style : NumberStyle} (h : 2 ≤ style.exponentWidth) (e : ℤ) :
    Exponent ('e' :: exponentText style e) := by
  obtain ⟨digits, hdigits, -, hlength, htext⟩ := exponentText_parts style e
  rw [htext]
  exact .mk (by split <;> simp) hdigits (h.trans hlength)

theorem exponent?_exponentText (style : NumberStyle) (e : ℤ) :
    exponent? ('e' :: exponentText style e) = some (e, []) := by
  obtain ⟨digits, hdigits, hvalue, -, htext⟩ := exponentText_parts style e
  have hnone : digits ≠ [] := hdigits.ne_nil
  have htake := List.takeWhile_eq_self_iff.2 hdigits.isDigit
  have hdrop := List.dropWhile_eq_nil_iff.2 hdigits.isDigit
  rw [htext]
  by_cases he : e < 0
  · simp [exponent?, he, htake, hdrop, hnone, hvalue, abs_of_neg he]
  · simp [exponent?, he, htake, hdrop, hnone, hvalue, abs_of_nonneg (not_lt.1 he)]

end Numeral

/-! ### Writing -/

namespace Decimal

open Numeral (Digits Fixed Scientific scan)

variable {digits : List Char} {style : NumberStyle} {d : Decimal}

/-- What is written positionally: digits on either side of a point. -/
theorem positional_parts (h : Digits digits) (place : ℤ) :
    ∃ whole fraction, Digits whole ∧ Digits fraction ∧
      positional digits place = whole ++ '.' :: fraction ∧
      amount (whole ++ fraction) (whole.length - 1) = amount digits place := by
  have hzero : Digits ['0'] := Numeral.digits_singleton rfl
  unfold positional
  by_cases hplace : place < 0
  · obtain ⟨k, hk⟩ : ∃ k : ℕ, -place - 1 = k := ⟨(-place - 1).toNat, by omega⟩
    rw [if_pos hplace, hk, Int.toNat_natCast]
    refine ⟨['0'], _, hzero, Numeral.digits_zeros_append h k, by simp, ?_⟩
    have hfirst : (['0'].length : ℤ) - 1 - (k + 1 : ℕ) = place := by
      rw [List.length_singleton]
      omega
    rw [← List.append_assoc, List.singleton_append, ← List.replicate_succ, amount_zeros_append,
      hfirst]
  · obtain ⟨n, rfl⟩ := Int.eq_ofNat_of_zero_le (not_lt.1 hplace)
    simp only [if_neg hplace, Int.toNat_natCast]
    rcases le_or_gt digits.length (n + 1) with hlength | hlength
    · -- zeros up to the point, and one behind it
      obtain ⟨k, hk⟩ := Nat.exists_eq_add_of_le hlength
      refine ⟨digits ++ List.replicate k '0', ['0'], Numeral.digits_append_zeros h k, hzero, ?_, ?_⟩
      · simp [hk]
      · have hlast : ((digits ++ List.replicate k '0').length : ℤ) - 1 = n := by
          rw [List.length_append, List.length_replicate]
          omega
        rw [hlast, List.append_assoc, ← List.replicate_succ', amount_append_zeros]
    · have hwhole : (digits.take (n + 1)).length = n + 1 := List.length_take_of_le hlength.le
      have hfraction : 0 < (digits.drop (n + 1)).length := by
        rw [List.length_drop]
        omega
      refine ⟨digits.take (n + 1), digits.drop (n + 1),
        ⟨List.ne_nil_of_length_pos (by omega), fun c hc => h.isDigit c (List.mem_of_mem_take hc)⟩,
        ⟨List.ne_nil_of_length_pos hfraction, fun c hc => h.isDigit c (List.mem_of_mem_drop hc)⟩,
        ?_, ?_⟩
      · have hnone : digits.drop (n + 1) ≠ [] := List.ne_nil_of_length_pos hfraction
        simp [Nat.sub_eq_zero_of_le hlength.le, hnone]
      · rw [List.take_append_drop, hwhole]
        simp

/-- What is written with an exponent: one digit, and the others behind a point. -/
theorem scientific_parts (lead : Char) (fraction : List Char) (place : ℤ) :
    scientific style (lead :: fraction) place =
      [lead] ++ Numeral.pointed fraction ++ 'e' :: exponentText style place := rfl

theorem scan_scientific {lead : Char} {fraction : List Char} (h : Digits (lead :: fraction))
    (place : ℤ) :
    scan (scientific style (lead :: fraction) place) =
      some (⟨Numeral.value 0 (lead :: fraction), place - fraction.length⟩, []) := by
  have hlead := Numeral.digits_singleton (h.isDigit lead List.mem_cons_self)
  have hexponent := Numeral.exponent?_exponentText style place
  refine Numeral.scan_parts hlead (fun c hc => h.isDigit c (List.mem_cons_of_mem _ hc)) ?_ ?_
  · rintro c ⟨⟩
    exact ⟨rfl, by simp⟩
  · rw [hexponent, Option.getD_some]

/-- Whether the leading place is within the bounds of a style. -/
def IsPositional (style : NumberStyle) (d : Decimal) : Prop :=
  style.leastPlace ≤ d.extent - 1 ∧ d.extent - 1 ≤ style.greatestPlace

instance (style : NumberStyle) (d : Decimal) : Decidable (IsPositional style d) :=
  inferInstanceAs (Decidable (_ ∧ _))

theorem write_eq (style : NumberStyle) (d : Decimal) :
    d.write style =
      if IsPositional style d then
        positional (trimZeros (digitsOf d.digits)) (d.extent - 1)
      else scientific style (trimZeros (digitsOf d.digits)) (d.extent - 1) := by
  have hplace : d.exponent + (digitsOf d.digits).length - 1 = d.extent - 1 := by
    rw [extent, add_comm]
  simp only [write, hplace]
  rfl

theorem fixed_write (h : IsPositional style d) : Fixed (d.write style) := by
  obtain ⟨whole, fraction, hwhole, hfraction, htext, -⟩ :=
    positional_parts (digits_trimZeros (Numeral.digits_digitsOf d.digits)) (d.extent - 1)
  rw [write_eq, if_pos h, htext]
  exact .mk hwhole hfraction

theorem scientific_write (hstyle : 2 ≤ style.exponentWidth) (h : ¬IsPositional style d) :
    Scientific (d.write style) := by
  have hdigits := digits_trimZeros (Numeral.digits_digitsOf d.digits)
  have hexponent := Numeral.exponent_exponentText hstyle (d.extent - 1)
  rw [write_eq, if_neg h]
  obtain ⟨lead, fraction, hcons⟩ := List.exists_cons_of_ne_nil hdigits.ne_nil
  rw [hcons] at hdigits ⊢
  have hlead := hdigits.isDigit lead List.mem_cons_self
  rw [scientific_parts]
  cases fraction with
  | nil => exact .whole hlead hexponent
  | cons c fraction =>
    exact .pointed hlead
      ⟨List.cons_ne_nil _ _, fun c hc => hdigits.isDigit c (List.mem_cons_of_mem _ hc)⟩ hexponent

/-- A written decimal is read as a decimal of the same value. -/
theorem scan_write (style : NumberStyle) (d : Decimal) :
    ∃ e, scan (d.write style) = some (e, []) ∧ e.value = d.value := by
  have hdigits := digits_trimZeros (Numeral.digits_digitsOf d.digits)
  have hamount : amount (trimZeros (digitsOf d.digits)) (d.extent - 1) = d.value := by
    rw [amount_trimZeros (Numeral.digits_digitsOf d.digits).ne_nil, amount_digitsOf]
  rw [write_eq, ← hamount]
  split
  · obtain ⟨whole, fraction, hwhole, hfraction, htext, hvalue⟩ :=
      positional_parts hdigits (d.extent - 1)
    rw [htext, ← hvalue, ← value_parts]
    exact ⟨_, Numeral.scan_fixed hwhole hfraction, rfl⟩
  · obtain ⟨lead, fraction, hcons⟩ := List.exists_cons_of_ne_nil hdigits.ne_nil
    rw [hcons] at hdigits ⊢
    refine ⟨_, scan_scientific hdigits (d.extent - 1), ?_⟩
    have hlast : d.extent - 1 + 1 - (lead :: fraction).length = d.extent - 1 - fraction.length := by
      rw [List.length_cons]
      omega
    rw [value_mk, amount, hlast]

end Decimal

/-! ### Whole texts -/

namespace Numeral

variable {c : Char} {cs body : List Char} {d : Decimal}

/-- The characters of written decimals. -/
def IsMark (c : Char) : Prop := c.isDigit = true ∨ c ∈ ['.', 'e', '+', '-']

theorem bounds_of_isDigit (h : c.isDigit = true) : 48 ≤ c.toNat ∧ c.toNat ≤ 57 :=
  Char.isDigit_iff_toNat.1 h

theorem IsMark.bounds (h : IsMark c) : 32 < c.toNat ∧ c.toNat < 128 ∧ c ≠ '_' := by
  rcases h with h | h
  · obtain ⟨hlower, hupper⟩ := bounds_of_isDigit h
    refine ⟨by omega, by omega, ?_⟩
    rintro rfl
    cases h
  · simp only [List.mem_cons, List.not_mem_nil, or_false] at h
    rcases h with rfl | rfl | rfl | rfl <;> decide

theorem IsMark.isPadding_eq_false (h : IsMark c) : isPadding c = false := by
  have hbounds := h.bounds.1
  have hspace : c ≠ ' ' := by
    rintro rfl
    exact absurd hbounds (by decide)
  have hcontrol : ¬c.toNat ≤ 13 := by omega
  simp [isPadding, hspace, hcontrol]

theorem dropWhile_isPadding (h : ∀ c ∈ cs, IsMark c) : cs.dropWhile isPadding = cs := by
  cases cs with
  | nil => rfl
  | cons c rest =>
    have hc := (h c List.mem_cons_self).isPadding_eq_false
    exact List.dropWhile_cons_of_neg (by simp [hc])

theorem strip_of_marks (h : ∀ c ∈ cs, IsMark c) : strip cs = cs := by
  have hreverse : ∀ c ∈ cs.reverse, IsMark c := fun c hc => h c (List.mem_reverse.1 hc)
  rw [strip, dropWhile_isPadding h, dropWhile_isPadding hreverse, List.reverse_reverse]

theorem map_plain_of_marks (h : ∀ c ∈ cs, IsMark c) : cs.map plain = cs := by
  have hplain : ∀ c ∈ cs, plain c = id c := fun c hc => if_pos (h c hc).bounds.2.1
  rw [List.map_congr_left hplain, List.map_id]

theorem joinGroups_of_marks (h : ∀ c ∈ cs, IsMark c) (afterDigit : Bool) :
    joinGroups afterDigit cs = some cs := by
  induction cs generalizing afterDigit with
  | nil => rfl
  | cons c rest ih =>
    have hc := (h c List.mem_cons_self).bounds.2.2
    have hrest := ih fun c hc => h c (List.mem_cons_of_mem _ hc)
    simp [joinGroups, hc, hrest]

/-- Marks are read as they stand, without anything taken from them. -/
theorem ofText?_of_marks (h : ∀ c ∈ cs, IsMark c) :
    Double.ofText? (String.ofList cs) = signed cs := by
  rw [Double.ofText?, String.toList_ofList, map_plain_of_marks h, strip_of_marks h,
    joinGroups_of_marks h, Option.bind_some]

/-- A text that starts with a digit is no name of a number. -/
theorem unsigned_of_isDigit (hc : c.isDigit = true) (negative : Bool)
    (hscan : scan (c :: cs) = some (d, [])) :
    unsigned negative (c :: cs) = some (d.toDouble negative) := by
  have hlower : c.toLower = c := by
    refine dif_neg fun hupper => ?_
    have hcode : 65 ≤ c.toNat := UInt32.le_iff_toNat_le.1 hupper.1
    have hdigit := (bounds_of_isDigit hc).2
    omega
  have hi : c ≠ 'i' := by rintro rfl; cases hc
  have hn : c ≠ 'n' := by rintro rfl; cases hc
  simp [unsigned, hlower, hi, hn, hscan]

/-- A text that starts with a digit and consists of marks. -/
structure Plain (cs : List Char) : Prop where
  starts : ∃ c rest, cs = c :: rest ∧ c.isDigit = true
  isMark : ∀ c ∈ cs, IsMark c

theorem Digits.isMark (h : Digits cs) : ∀ c ∈ cs, IsMark c := fun c hc => .inl (h.isDigit c hc)

theorem Digits.plain_append (h : Digits cs) {rest : List Char} (hrest : ∀ c ∈ rest, IsMark c) :
    Plain (cs ++ rest) where
  starts := by
    obtain ⟨c, cs, rfl⟩ := List.exists_cons_of_ne_nil h.ne_nil
    exact ⟨c, cs ++ rest, rfl, h.isDigit c List.mem_cons_self⟩
  isMark := List.forall_mem_append.2 ⟨h.isMark, hrest⟩

theorem Fixed.plain (h : Fixed cs) : Plain cs := by
  obtain ⟨hwhole, hfraction⟩ := h
  exact hwhole.plain_append (List.forall_mem_cons.2 ⟨.inr (by simp), hfraction.isMark⟩)

theorem Exponent.isMark (h : Exponent cs) : ∀ c ∈ cs, IsMark c := by
  obtain ⟨hsign, hdigits, -⟩ := h
  rw [List.forall_mem_cons, List.forall_mem_cons]
  exact ⟨.inr (by simp), .inr (by rcases hsign with rfl | rfl <;> simp), hdigits.isMark⟩

theorem Scientific.plain (h : Scientific cs) : Plain cs := by
  cases h with
  | whole hlead hexponent => exact (digits_singleton hlead).plain_append hexponent.isMark
  | pointed hlead hfraction hexponent =>
    refine (digits_singleton hlead).plain_append (List.forall_mem_cons.2 ⟨.inr (by simp), ?_⟩)
    exact List.forall_mem_append.2 ⟨hfraction.isMark, hexponent.isMark⟩

/-- A decimal in either form is read back from the whole text. -/
theorem ofText?_of_plain (h : Plain body) (negative : Bool) (hscan : scan body = some (d, [])) :
    Double.ofText? (String.ofList (Double.signText negative ++ body)) =
      some (d.toDouble negative) := by
  obtain ⟨⟨c, rest, rfl, hc⟩, hmarks⟩ := h
  rw [ofText?_of_marks, ← unsigned_of_isDigit hc negative hscan]
  · cases negative with
    | true => rfl
    | false =>
      have hminus : c ≠ '-' := by rintro rfl; cases hc
      have hplus : c ≠ '+' := by rintro rfl; cases hc
      simp [Double.signText, signed, hminus, hplus]
  · cases negative with
    | true => exact List.forall_mem_cons.2 ⟨.inr (by simp), hmarks⟩
    | false => exact hmarks

end Numeral

end NativeProps
