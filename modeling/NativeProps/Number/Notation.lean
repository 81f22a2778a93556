import NativeProps.Number.Decimal

/-!
# Number notation

How numbers are written.

* `Double.text`: the shortest decimal that reads back, positional for leading places from
  `10 ^ -4` to `10 ^ 15` and scientific outside.
* `Double.literal`: a floating literal. Whole numbers below `10 ^ 21` show all their digits, both
  zeros are `0.0`.
-/

namespace NativeProps

/-- The choices made in writing a decimal. -/
structure NumberStyle where
  /-- The least leading place written positionally. -/
  leastPlace : Int
  /-- The greatest leading place written positionally. -/
  greatestPlace : Int
  /-- The least number of digits of a written exponent. -/
  exponentWidth : Nat

/-- The style of all numbers of this library. -/
def numberStyle : NumberStyle := ⟨-4, 15, 2⟩

namespace Decimal

/-- The digits without the zeros at their end, of which the first is kept. -/
def trimZeros (digits : List Char) : List Char :=
  match (digits.reverse.dropWhile (· == '0')).reverse with
  | [] => ['0']
  | trimmed => trimmed

/-- Digits with the first one at a place written positionally, at least one digit on either side of
the point. -/
def positional (digits : List Char) (place : Int) : List Char :=
  if place < 0 then
    ['0', '.'] ++ List.replicate (-place - 1).toNat '0' ++ digits
  else
    let whole := place.toNat + 1
    let fraction := digits.drop whole
    digits.take whole ++ List.replicate (whole - digits.length) '0' ++ ['.'] ++
      (if fraction.isEmpty then ['0'] else fraction)

/-- An exponent with its sign, padded with zeros. -/
def exponentText (style : NumberStyle) (e : Int) : List Char :=
  let digits := digitsOf e.natAbs
  (if e < 0 then '-' else '+') ::
    (List.replicate (style.exponentWidth - digits.length) '0' ++ digits)

/-- Digits with the first one at a place written with an exponent. -/
def scientific (style : NumberStyle) (digits : List Char) (place : Int) : List Char :=
  let fraction := digits.drop 1
  digits.take 1 ++ (if fraction.isEmpty then [] else '.' :: fraction) ++
    'e' :: exponentText style place

/-- A decimal in the notation of the style. -/
def write (style : NumberStyle) (d : Decimal) : List Char :=
  let digits := digitsOf d.digits
  let place := d.exponent + digits.length - 1
  if style.leastPlace ≤ place ∧ place ≤ style.greatestPlace then
    positional (trimZeros digits) place
  else
    scientific style (trimZeros digits) place

end Decimal

namespace Double

/-- The sign of a number as written. -/
def signText (negative : Bool) : List Char := if negative then ['-'] else []

/-- The shortest text of a number that reads back as the same number. -/
def chars : Double → List Char
  | .nan => "nan".toList
  | .infinite negative => signText negative ++ "inf".toList
  | .finite negative units _ =>
    signText negative ++
      (if units = 0 then ['0', '.', '0'] else (Decimal.shortest units).write numberStyle)

/-- The shortest text of a number that reads back as the same number. -/
def text (x : Double) : String := String.ofList x.chars

/-- Whether a magnitude is whole and below `10 ^ 21`. -/
def showsAllDigits (units : Nat) : Bool :=
  units % one == 0 && decide (units < Decimal.power 21 * one)

/-- A floating literal. -/
def literalChars : Double → List Char
  | .finite negative units h =>
    if units = 0 then ['0', '.', '0']
    else if showsAllDigits units then
      signText negative ++ Decimal.digitsOf (units / one) ++ ['.', '0']
    else chars (.finite negative units h)
  | x => chars x

/-- A floating literal. -/
def literal (x : Double) : String := String.ofList x.literalChars

end Double

end NativeProps
