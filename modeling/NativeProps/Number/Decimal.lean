import NativeProps.Number.Double

/-!
# Decimal fractions and doubles

* `Decimal`: a whole number of powers of ten.
* `Decimal.units`: the double magnitude nearest to a decimal.
* `Decimal.toDouble`: the double nearest to a signed decimal. Decimals far beyond the range are told
  by their leading place, so that no huge power of ten is ever formed.
* `Decimal.shortest`: the decimal of fewest digits that is nearest to no other double.
-/

namespace NativeProps

/-- A whole number of powers of ten: `digits * 10 ^ exponent`. -/
structure Decimal where
  digits : Nat
  exponent : Int
  deriving DecidableEq, Repr

namespace Decimal

/-- The decimal digits of a natural number, at least one. -/
def digitsOf (n : Nat) : List Char := Nat.toDigits 10 n

/-- The power of ten with a whole exponent. -/
def power (exponent : Nat) : Nat := Nat.pow 10 exponent

theorem power_pos (n : Nat) : 0 < power n := Nat.pow_pos (by decide)

/-- A decimal as a quotient of whole numbers, counted in double units. -/
def quotient (d : Decimal) : Nat × Nat :=
  if 0 ≤ d.exponent then (d.digits * power d.exponent.toNat * Double.one, 1)
  else (d.digits * Double.one, power (-d.exponent).toNat)

/-- The double magnitude nearest to a decimal. -/
def units (d : Decimal) : Nat :=
  Double.roundUnits d.quotient.1 d.quotient.2

/-- One more than the place of the leading digit. -/
def extent (d : Decimal) : Int := (digitsOf d.digits).length + d.exponent

/-- The double nearest to a signed decimal. Beyond `10 ^ 310` all is infinite and below
`10 ^ -330` all is zero. -/
def toDouble (negative : Bool) (d : Decimal) : Double :=
  if d.digits = 0 ∨ d.extent < -330 then .finite negative 0 Double.representable_zero
  else if 310 < d.extent then .infinite negative
  else Double.ofQuotient negative d.quotient.1 d.quotient.2

/-! ### The shortest decimal of a magnitude -/

/-- The place of the leading decimal digit of a positive magnitude. -/
def leadingPlace (units : Nat) : Int :=
  if Double.one ≤ units then (digitsOf (units / Double.one)).length - 1
  else -(digitsOf ((Double.one + units - 1) / units - 1)).length

/-- The multiples of `10 ^ place` just below and just above a magnitude, as counts, and whether the
lower one is the better approximation: the nearer, or the even one if both are equally near. -/
def neighbours (units : Nat) (place : Int) : Nat × Nat × Bool :=
  let p := if 0 ≤ place then units else units * power (-place).toNat
  let q := if 0 ≤ place then Double.one * power place.toNat else Double.one
  let below := p / q
  let twice := 2 * (p % q)
  (below, below + 1, decide (twice < q) || (decide (twice = q) && below % 2 == 0))

/-- The better multiple of `10 ^ place` among those next to a magnitude whose nearest double is
that magnitude. -/
def candidate? (units : Nat) (place : Int) : Option Decimal :=
  let (below, above, lower) := neighbours units place
  let fits (count : Nat) : Bool := Decimal.units ⟨count, place⟩ == units
  match fits below, fits above with
  | true, true => some ⟨if lower then below else above, place⟩
  | true, false => some ⟨below, place⟩
  | false, true => some ⟨above, place⟩
  | false, false => none

/-- The first candidate at `place` or at one of the next `count - 1` lower places. -/
def search (units : Nat) : Nat → Int → Option Decimal
  | 0, _ => none
  | count + 1, place => (candidate? units place).or (search units count (place - 1))

/-- All decimal digits of a magnitude. -/
def exact (units : Nat) : Decimal := ⟨units * Nat.pow 5 1074, -1074⟩

/-- The decimal of fewest digits, and among those the nearest, that reads back as the magnitude.
Seventeen digits always do; the exact digits stand in should none of the shorter ones. -/
def shortest (units : Nat) : Decimal :=
  (search units 17 (leadingPlace units)).getD (exact units)

end Decimal

end NativeProps
