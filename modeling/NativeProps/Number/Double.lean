/-!
# Binary floating-point numbers of double precision

A finite double is a whole number of *units*, the unit being the least positive double
`2 ^ -1074`. Counting in units makes the arithmetic of doubles arithmetic of natural numbers.

* `Double.step`: the distance of neighbouring doubles at a magnitude.
* `Double.Representable`: the magnitudes that a double can have.
* `Double`: a signed magnitude, an infinity, or not a number.
* `Double.roundDiv`: the nearest whole number to a quotient, an even one where two are equally near.
* `Double.roundUnits`: the nearest magnitude to a quotient, before the range is checked.
* `Double.ofQuotient`, `Double.ofInt?`: rounding to a double; a quotient may become an infinity,
  a whole number beyond the range has no double.
-/

namespace NativeProps

namespace Double

/-- The number of units in one: `2 ^ 1074`. -/
def one : Nat := 1 <<< 1074

/-- The least magnitude beyond the range, `2 ^ 1024` in units. -/
def limit : Nat := 1 <<< 2098

/-- The distance of neighbouring doubles at a magnitude: a double has 53 binary digits. -/
def step (units : Nat) : Nat := 1 <<< (units.log2 - 52)

/-- A magnitude that a double can have: within the range and with at most 53 binary digits. -/
def Representable (units : Nat) : Prop := units < limit ∧ units % step units = 0

instance (units : Nat) : Decidable (Representable units) :=
  inferInstanceAs (Decidable (_ ∧ _))

theorem representable_zero : Representable 0 := by decide +kernel

end Double

/-- A binary floating-point number of double precision. -/
inductive Double where
  | finite (negative : Bool) (units : Nat) (representable : Double.Representable units)
  | infinite (negative : Bool)
  | nan
  deriving DecidableEq, Repr

namespace Double

/-- Positive zero. -/
def zero : Double := .finite false 0 representable_zero

instance : Inhabited Double := ⟨zero⟩

/-- Whether the number is a zero of either sign. -/
def isZero : Double → Bool
  | .finite _ units _ => units == 0
  | _ => false

/-! ### Rounding -/

/-- The nearest whole number to `p / q`; a half goes to the even neighbour. -/
def roundDiv (p q : Nat) : Nat :=
  let below := p / q
  let twice := 2 * (p % q)
  if twice < q then below
  else if q < twice then below + 1
  else below + below % 2

/-- The magnitude nearest to `p / q` units, as if doubles had no largest one. -/
def roundUnits (p q : Nat) : Nat :=
  let s := step (p / q)
  roundDiv p (q * s) * s

/-- The double nearest to `p / q` units, an infinity beyond the range. -/
def ofQuotient (negative : Bool) (p q : Nat) : Double :=
  let units := roundUnits p q
  if h : Representable units then .finite negative units h else .infinite negative

/-- The double nearest to a whole number, if it is within the range. -/
def ofInt? (n : Int) : Option Double :=
  let units := roundUnits (n.natAbs * one) 1
  if h : Representable units then some (.finite (decide (n < 0)) units h) else none

end Double

end NativeProps
