import NativeProps.Number.Decimal
import NativeProps.Text.Blank
import NativeProps.Text.Digit

/-!
# Numerals

Reading a number from text.

* `Numeral.scan`: an unsigned decimal at the front of a text: digits with an optional point, at
  least one digit in all, and an optional exponent. An exponent without digits is left unread.
* `Double.ofText?`: the number that a whole text stands for. Blanks around it are ignored, digits
  may be of any script, an underscore may stand between two digits, and `inf`, `infinity` and `nan`
  are numbers in any case of letters.
-/

namespace NativeProps

namespace Numeral

/-- The value of a run of ASCII digits after the digits read so far. -/
def value (start : Nat) (digits : List Char) : Nat :=
  digits.foldl (fun n c => 10 * n + (c.toNat - 48)) start

@[simp] theorem value_nil (start : Nat) : value start [] = start := by
  rw [value, List.foldl_nil]

@[simp] theorem value_cons (start : Nat) (c : Char) (digits : List Char) :
    value start (c :: digits) = value (10 * start + (c.toNat - 48)) digits := by
  rw [value, value, List.foldl_cons]

theorem value_append (start : Nat) (a b : List Char) :
    value start (a ++ b) = value (value start a) b := by
  simp [value]

/-- The exponent at the front of a text, if there is one with digits, and what follows it. -/
def exponent? : List Char → Option (Int × List Char)
  | [] => none
  | c :: rest =>
    if c = 'e' ∨ c = 'E' then
      let (negative, unsigned) :=
        match rest with
        | '-' :: more => (true, more)
        | '+' :: more => (false, more)
        | _ => (false, rest)
      let digits := unsigned.takeWhile Char.isDigit
      if digits.isEmpty then none
      else
        let n := value 0 digits
        some (if negative then -(n : Int) else n, unsigned.dropWhile Char.isDigit)
    else none

/-- The unsigned decimal at the front of a text and what follows it. -/
def scan (cs : List Char) : Option (Decimal × List Char) :=
  let whole := cs.takeWhile Char.isDigit
  let afterWhole := cs.dropWhile Char.isDigit
  let (fraction, afterFraction) :=
    match afterWhole with
    | '.' :: more => (more.takeWhile Char.isDigit, more.dropWhile Char.isDigit)
    | _ => ([], afterWhole)
  if whole.isEmpty && fraction.isEmpty then none
  else
    let (e, rest) := (exponent? afterFraction).getD (0, afterFraction)
    some (⟨value 0 (whole ++ fraction), e - fraction.length⟩, rest)

/-- Digits of all scripts as ASCII digits, and blanks beyond ASCII as spaces. -/
def plain (c : Char) : Char :=
  if c.toNat < 128 then c
  else if Text.isBlank c then ' '
  else
    match Text.digitValue? c with
    | some d => Nat.digitChar d
    | none => c

/-- The blanks that may surround a numeral. -/
def isPadding (c : Char) : Bool := c == ' ' || (decide (9 ≤ c.toNat) && decide (c.toNat ≤ 13))

/-- A text without the padding around it. -/
def strip (cs : List Char) : List Char :=
  ((cs.dropWhile isPadding).reverse.dropWhile isPadding).reverse

/-- Removes underscores, each of which has to stand between two digits; `afterDigit` tells whether
the character before is a digit. -/
def joinGroups (afterDigit : Bool) : List Char → Option (List Char)
  | [] => some []
  | '_' :: c :: rest =>
    if afterDigit && c.isDigit then (joinGroups true rest).map (c :: ·) else none
  | c :: rest => if c = '_' then none else (joinGroups c.isDigit rest).map (c :: ·)

/-- The double of a text without sign, padding or underscores. -/
def unsigned (negative : Bool) (cs : List Char) : Option Double :=
  let lower := cs.map Char.toLower
  if lower = "inf".toList ∨ lower = "infinity".toList then some (.infinite negative)
  else if lower = "nan".toList then some .nan
  else
    match scan cs with
    | some (d, []) => some (d.toDouble negative)
    | _ => none

/-- The double of a text without padding or underscores. -/
def signed : List Char → Option Double
  | '-' :: rest => unsigned true rest
  | '+' :: rest => unsigned false rest
  | cs => unsigned false cs

end Numeral

/-- The number that a text stands for. -/
def Double.ofText? (s : String) : Option Double :=
  (Numeral.joinGroups false (Numeral.strip (s.toList.map Numeral.plain))).bind Numeral.signed

end NativeProps
