import NativeProps.Json.Value
import NativeProps.Number.Numeral
import NativeProps.Text.Half

/-!
# Reading JSON

A recursive-descent reader over the characters of a document. A fault is told by the number of
characters that were left when it was met, so that no step has to count; `Position.of` turns that
number into an offset, a line and a column. Numbers of any length and values of any depth are read.

* `Json.number?`, `Json.stringBody`: the tokens that are more than one character.
* `Json.value`: a value at the front of a text. Besides the grammar it takes `NaN`, `Infinity` and
  `-Infinity`; a number with a point or an exponent is a floating-point number.
* `Json.read`: the value of a whole document. A key that is repeated keeps its first place and
  takes its last value.
* `ReadFault.message`: what is wrong and where.
-/

namespace NativeProps

namespace Json

/-- What is wrong with a document. -/
inductive Cause where
  | byteOrderMark
  | expectedValue
  | expectedName
  | expectedColon
  | expectedComma
  | extraData
  | unterminatedString
  | controlCharacter
  | badEscape
  | badUnicodeEscape
  deriving DecidableEq, Repr

/-- The words for a cause. -/
def Cause.text : Cause → String
  | .byteOrderMark => "Unexpected UTF-8 BOM (decode using utf-8-sig)"
  | .expectedValue => "Expecting value"
  | .expectedName => "Expecting property name enclosed in double quotes"
  | .expectedColon => "Expecting ':' delimiter"
  | .expectedComma => "Expecting ',' delimiter"
  | .extraData => "Extra data"
  | .unterminatedString => "Unterminated string starting at"
  | .controlCharacter => "Invalid control character at"
  | .badEscape => "Invalid \\escape"
  | .badUnicodeEscape => "Invalid \\uXXXX escape"

/-- A cause and the number of characters left where it shows. -/
structure Stop where
  cause : Cause
  remaining : Nat
  deriving DecidableEq, Repr

/-- The fault of a cause in front of a text. -/
def stop {α : Type} (cause : Cause) (rest : List Char) : Except Stop α :=
  .error ⟨cause, rest.length⟩

/-! ### Tokens -/

/-- The four characters that may stand between tokens. -/
def isGap (c : Char) : Bool := c == ' ' || c == '\t' || c == '\n' || c == '\r'

/-- A text without the gap at its front. -/
def skip (cs : List Char) : List Char := cs.dropWhile isGap

/-- The digits of a number before its point: a zero, or digits without a zero in front. -/
def wholeDigits? : List Char → Option (List Char × List Char)
  | '0' :: rest => some (['0'], rest)
  | cs =>
    match cs.takeWhile Char.isDigit with
    | [] => none
    | digits => some (digits, cs.dropWhile Char.isDigit)

/-- The digits of a fraction after its point, none if no digit follows the point. -/
def fractionDigits : List Char → List Char × List Char
  | '.' :: rest =>
    match rest.takeWhile Char.isDigit with
    | [] => ([], '.' :: rest)
    | digits => (digits, rest.dropWhile Char.isDigit)
  | cs => ([], cs)

/-- The number at the front of a text without its sign. -/
def unsigned? (negative : Bool) (cs : List Char) : Option (Value × List Char) :=
  match wholeDigits? cs with
  | none => none
  | some (whole, afterWhole) =>
    let (fraction, afterFraction) := fractionDigits afterWhole
    let n := Numeral.value 0 (whole ++ fraction)
    match Numeral.exponent? afterFraction with
    | some (e, rest) => some (.float (Decimal.toDouble negative ⟨n, e - fraction.length⟩), rest)
    | none =>
      if fraction.isEmpty then some (.int (if negative then -(n : Int) else n), afterFraction)
      else some (.float (Decimal.toDouble negative ⟨n, -fraction.length⟩), afterFraction)

/-- The number at the front of a text. -/
def number? : List Char → Option (Value × List Char)
  | '-' :: rest => unsigned? true rest
  | cs => unsigned? false cs

/-- The word or number at the front of a text. -/
def scalar? : List Char → Option (Value × List Char)
  | 'n' :: 'u' :: 'l' :: 'l' :: rest => some (.null, rest)
  | 't' :: 'r' :: 'u' :: 'e' :: rest => some (.bool true, rest)
  | 'f' :: 'a' :: 'l' :: 's' :: 'e' :: rest => some (.bool false, rest)
  | 'N' :: 'a' :: 'N' :: rest => some (.float .nan, rest)
  | 'I' :: 'n' :: 'f' :: 'i' :: 'n' :: 'i' :: 't' :: 'y' :: rest =>
    some (.float (.infinite false), rest)
  | '-' :: 'I' :: 'n' :: 'f' :: 'i' :: 'n' :: 'i' :: 't' :: 'y' :: rest =>
    some (.float (.infinite true), rest)
  | cs => number? cs

/-! ### Strings -/

/-- The value of a hexadecimal digit. -/
def hexDigit? (c : Char) : Option Nat :=
  if c.isDigit then some (c.toNat - 48)
  else if 'a' ≤ c ∧ c ≤ 'f' then some (c.toNat - 87)
  else if 'A' ≤ c ∧ c ≤ 'F' then some (c.toNat - 55)
  else none

/-- The code unit of four hexadecimal digits. -/
def codeUnit? (a b c d : Char) : Option Nat := do
  return 4096 * (← hexDigit? a) + 256 * (← hexDigit? b) + 16 * (← hexDigit? c) + (← hexDigit? d)

/-- The character of an escape of one letter. -/
def letterEscape? : Char → Option Char
  | '"' => some '"'
  | '\\' => some '\\'
  | '/' => some '/'
  | 'b' => some '\x08'
  | 'f' => some '\x0c'
  | 'n' => some '\n'
  | 'r' => some '\r'
  | 't' => some '\t'
  | _ => none

/-- Whether a code unit is the first of a pair. -/
def isHigh (unit : Nat) : Bool := decide (0xd800 ≤ unit) && decide (unit < 0xdc00)

/-- Whether a code unit is the second of a pair. -/
def isLow (unit : Nat) : Bool := decide (0xdc00 ≤ unit) && decide (unit < 0xe000)

/-- The character of a pair of code units. -/
def pairChar (high low : Nat) : Char :=
  Char.ofNat (0x10000 + 0x400 * (high - 0xd800) + (low - 0xdc00))

section Reading

variable (h : Halves)

/-- The character of a single code unit. Another one stands for half a pair. -/
def unitChar (unit : Nat) : Char :=
  if isHigh unit || isLow unit then h.stand unit else Char.ofNat unit

/-- Reads a string up to its closing quote. `start` is the text from the opening quote on, `done`
holds the characters read so far in reverse, and `high` is the code unit of an escape just read
that waits for the second of its pair. -/
def stringBody (start : List Char) (high : Option Nat) (done : List Char) :
    List Char → Except Stop (String × List Char)
  | [] => stop .unterminatedString start
  | ['\\'] => stop .unterminatedString start
  | '"' :: rest => .ok (String.ofList done.reverse, rest)
  | '\\' :: 'u' :: a :: b :: c :: d :: rest =>
    match codeUnit? a b c d, rest.isEmpty with
    | some unit, false =>
      match high, isLow unit with
      | some first, true => stringBody start none (pairChar first unit :: done.tail) rest
      | _, _ =>
        stringBody start (if isHigh unit then some unit else none) (unitChar h unit :: done) rest
    | _, _ => stop .badUnicodeEscape ('u' :: a :: b :: c :: d :: rest)
  | '\\' :: 'u' :: rest => stop .badUnicodeEscape ('u' :: rest)
  | '\\' :: c :: rest =>
    match letterEscape? c with
    | some plain => stringBody start none (plain :: done) rest
    | none => stop .badEscape ('\\' :: c :: rest)
  | c :: rest =>
    if c < ' ' then stop .controlCharacter (c :: rest)
    else stringBody start none (c :: done) rest

/-! ### Values -/

/-- Sets a member: a known key keeps its place. -/
def put (key : String) (v : Value) : Members → Members
  | [] => [(key, v)]
  | (k, old) :: rest => if k = key then (k, v) :: rest else (k, old) :: put key v rest

mutual

/-- Reads the value at the front of a text. The first argument bounds the number of nested steps. -/
def value : Nat → List Char → Except Stop (Value × List Char)
  | 0, cs => stop .expectedValue cs
  | fuel + 1, cs =>
    match cs with
    | '"' :: rest => do
      let (s, rest) ← stringBody h cs none [] rest
      return (.string s, rest)
    | '[' :: rest =>
      match skip rest with
      | ']' :: rest => .ok (.array [], rest)
      | rest => do
        let (items, rest) ← items fuel rest
        return (.array items, rest)
    | '\x7b' :: rest =>
      match skip rest with
      | '\x7d' :: rest => .ok (.object [], rest)
      | rest => do
        let (members, rest) ← members fuel [] rest
        return (.object members, rest)
    | _ =>
      match scalar? cs with
      | some (v, rest) => .ok (v, rest)
      | none => stop .expectedValue cs

/-- Reads the items of an array up to its closing bracket. -/
def items : Nat → List Char → Except Stop (List Value × List Char)
  | 0, cs => stop .expectedValue cs
  | fuel + 1, cs => do
    let (v, rest) ← value fuel cs
    match skip rest with
    | ',' :: rest => do
      let (more, rest) ← items fuel (skip rest)
      return (v :: more, rest)
    | ']' :: rest => return ([v], rest)
    | rest => stop .expectedComma rest

/-- Reads the members of an object up to its closing brace, after the members read so far. -/
def members : Nat → Members → List Char → Except Stop (Members × List Char)
  | 0, _, cs => stop .expectedName cs
  | fuel + 1, found, cs =>
    match cs with
    | '"' :: rest => do
      let (key, rest) ← stringBody h cs none [] rest
      match skip rest with
      | ':' :: rest => do
        let (v, rest) ← value fuel (skip rest)
        match skip rest with
        | ',' :: rest => members fuel (put key v found) (skip rest)
        | '\x7d' :: rest => return (put key v found, rest)
        | rest => stop .expectedComma rest
      | rest => stop .expectedColon rest
    | _ => stop .expectedName cs

end

/-- Reads a whole document. Each nested step reads a character, and each item takes two steps. -/
def document (cs : List Char) : Except Stop Value :=
  match cs with
  | '\ufeff' :: _ => stop .byteOrderMark cs
  | _ => do
    let (v, rest) ← value h (2 * cs.length + 2) (skip cs)
    match skip rest with
    | [] => return v
    | rest => stop .extraData rest

end Reading

/-! ### Positions -/

/-- A place in a document: the number of characters before it, and its line and column from one. -/
structure Position where
  offset : Nat
  line : Nat
  column : Nat
  deriving DecidableEq, Repr

/-- The place with a number of characters left. -/
def Position.of (cs : List Char) (remaining : Nat) : Position :=
  let before := cs.take (cs.length - remaining)
  { offset := before.length
    line := before.count '\n' + 1
    column := (before.reverse.takeWhile (· != '\n')).length + 1 }

end Json

/-- A fault of a document. -/
structure ReadFault where
  cause : Json.Cause
  position : Json.Position
  deriving DecidableEq, Repr

/-- A fault in words. -/
def ReadFault.message (f : ReadFault) : String :=
  f.cause.text ++ ": line " ++ Value.intText f.position.line ++ " column " ++
    Value.intText f.position.column ++ " (char " ++ Value.intText f.position.offset ++ ")"

/-- The value of a JSON document. -/
def Json.read (h : Halves) (text : String) : Except ReadFault Value :=
  let cs := text.toList
  match Json.document h cs with
  | .ok v => .ok v
  | .error s => .error ⟨s.cause, .of cs s.remaining⟩

end NativeProps
