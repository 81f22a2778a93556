import NativeProps.Text.Printable

/-!
# Quoted text

A text between quotes, with an escape for every character that would not be seen as itself.

* `quoteMark`: the single quote, unless the text holds one and no double quote.
* `escape`: the written form of a character inside quotes.
* `quoted`: the quoted text.
-/

namespace NativeProps.Text

/-- The lower-case hexadecimal digits of a number, padded with zeros to a width. -/
def hex (width n : Nat) : List Char :=
  let digits := Nat.toDigits 16 n
  List.replicate (width - digits.length) '0' ++ digits

/-- The mark put around a text. -/
def quoteMark (s : List Char) : Char :=
  if s.contains '\'' && !s.contains '"' then '"' else '\''

/-- The numeric escape of a character, of the least width that holds it. -/
def numericEscape (c : Char) : List Char :=
  let n := c.toNat
  if n ≤ 0xff then '\\' :: 'x' :: hex 2 n
  else if n ≤ 0xffff then '\\' :: 'u' :: hex 4 n
  else '\\' :: 'U' :: hex 8 n

/-- The written form of a character between two marks. -/
def escape (mark c : Char) : List Char :=
  if c = mark ∨ c = '\\' then ['\\', c]
  else if c = '\n' then ['\\', 'n']
  else if c = '\r' then ['\\', 'r']
  else if c = '\t' then ['\\', 't']
  else if isPrintable c then [c]
  else numericEscape c

/-- A text between quotes. -/
def quotedChars (s : List Char) : List Char :=
  let mark := quoteMark s
  mark :: s.flatMap (escape mark) ++ [mark]

/-- A text between quotes. -/
def quoted (s : String) : String := String.ofList (quotedChars s.toList)

end NativeProps.Text
