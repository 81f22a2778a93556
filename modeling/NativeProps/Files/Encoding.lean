import NativeProps.Text.Half
import NativeProps.Text.Quoted

/-!
# Texts and bytes

Files hold texts as UTF-8.

* `textOf?`: the text of bytes, if they are one.
* `DecodeFault`, `decodeFault`: where and why bytes are no text.
* `EncodeFault`, `Halves.encodeFault?`: where a text has no bytes.
* `Halves.written`: as much of chunks of text as is written before one of them cannot be encoded.
-/

namespace NativeProps

/-! ### Bytes that are no text -/

/-- Why bytes are no text. -/
inductive DecodeFault.Reason where
  | badStart
  | badContinuation
  | endOfData
  deriving DecidableEq, Repr

/-- A reason in words. -/
def DecodeFault.Reason.text : DecodeFault.Reason → String
  | .badStart => "invalid start byte"
  | .badContinuation => "invalid continuation byte"
  | .endOfData => "unexpected end of data"

/-- Bytes that are no character: the first of them, its place, and how many there are. -/
structure DecodeFault where
  byte : UInt8
  start : Nat
  length : Nat
  reason : DecodeFault.Reason
  deriving DecidableEq, Repr

/-- Bytes that are no character, in words. -/
def DecodeFault.message (f : DecodeFault) : String :=
  "'utf-8' codec can't decode " ++
    (if f.length = 1 then
      "byte 0x" ++ String.ofList (Text.hex 2 f.byte.toNat) ++ " in position " ++ toString f.start
    else
      "bytes in position " ++ toString f.start ++ "-" ++ toString (f.start + f.length - 1)) ++
    ": " ++ f.reason.text

/-- A character that is being read: its first byte and the place of that, how many bytes are
missing, and the bounds of the next one. -/
structure PartialChar where
  byte : UInt8
  start : Nat
  missing : Nat
  low : UInt8 := 0x80
  high : UInt8 := 0xbf

/-- The character that a first byte begins, unless no character begins with it. -/
def PartialChar.ofByte? (byte : UInt8) (start : Nat) : Option PartialChar :=
  if byte < 0x80 then some { byte, start, missing := 0 }
  else if byte < 0xc2 then none
  else if byte < 0xe0 then some { byte, start, missing := 1 }
  else if byte = 0xe0 then some { byte, start, missing := 2, low := 0xa0 }
  else if byte = 0xed then some { byte, start, missing := 2, high := 0x9f }
  else if byte < 0xf0 then some { byte, start, missing := 2 }
  else if byte = 0xf0 then some { byte, start, missing := 3, low := 0x90 }
  else if byte < 0xf4 then some { byte, start, missing := 3 }
  else if byte = 0xf4 then some { byte, start, missing := 3, high := 0x8f }
  else none

/-- The first fault of bytes from a place on, behind a character of which bytes are missing. -/
def decodeFaultFrom (place : Nat) (open? : Option PartialChar) : List UInt8 → Option DecodeFault
  | [] => open?.map fun p => ⟨p.byte, p.start, place - p.start, .endOfData⟩
  | byte :: rest =>
    match open? with
    | none =>
      match PartialChar.ofByte? byte place with
      | none => some ⟨byte, place, 1, .badStart⟩
      | some p => decodeFaultFrom (place + 1) (if p.missing = 0 then none else some p) rest
    | some p =>
      if p.low ≤ byte ∧ byte ≤ p.high then
        decodeFaultFrom (place + 1)
          (if p.missing = 1 then none
          else some { byte := p.byte, start := p.start, missing := p.missing - 1 }) rest
      else some ⟨p.byte, p.start, place - p.start, .badContinuation⟩

/-- The fault of bytes that are no text. -/
def decodeFault (bytes : ByteArray) : DecodeFault :=
  (decodeFaultFrom 0 none bytes.data.toList).getD ⟨0, 0, 0, .endOfData⟩

/-- The text of bytes, unless they are not UTF-8. -/
def textOf? (bytes : ByteArray) : Option String := String.fromUTF8? bytes

/-! ### Texts without bytes -/

/-- Halves in a text: the first of them, its place, and how many there are in a row. -/
structure EncodeFault where
  unit : Nat
  start : Nat
  length : Nat
  deriving DecidableEq, Repr

/-- Halves in a text, in words. -/
def EncodeFault.message (f : EncodeFault) : String :=
  "'utf-8' codec can't encode " ++
    (if f.length = 1 then
      "character '\\u" ++ String.ofList (Text.hex 4 f.unit) ++ "' in position " ++ toString f.start
    else
      "characters in position " ++ toString f.start ++ "-" ++
        toString (f.start + f.length - 1)) ++
    ": surrogates not allowed"

namespace Halves

/-- The first halves in a text that starts at a place. -/
def encodeFaultFrom (h : Halves) (place : Nat) : List Char → Option EncodeFault
  | [] => none
  | c :: rest =>
    match h.unit? c with
    | some unit => some ⟨unit, place, (rest.takeWhile h.isHalf).length + 1⟩
    | none => h.encodeFaultFrom (place + 1) rest

/-- The first halves in a text. -/
def encodeFault? (h : Halves) (s : List Char) : Option EncodeFault := h.encodeFaultFrom 0 s

/-- As much of chunks as is written one after the other, and why it is not all of them: a chunk that
holds a half is not written, and none behind it. -/
def written (h : Halves) : List (List Char) → List Char × Option EncodeFault
  | [] => ([], none)
  | chunk :: rest =>
    match h.encodeFault? chunk with
    | some f => ([], some f)
    | none => (chunk ++ (h.written rest).1, (h.written rest).2)

/-! ### What is written -/

variable (h : Halves)

theorem encodeFaultFrom_eq_none_iff {place : Nat} {s : List Char} :
    h.encodeFaultFrom place s = none ↔ s.any h.isHalf = false := by
  induction s generalizing place with
  | nil => simp [encodeFaultFrom]
  | cons c rest ih =>
    rw [encodeFaultFrom, List.any_cons, isHalf]
    cases h.unit? c with
    | none => simp [ih]
    | some unit => simp

theorem encodeFault?_eq_none_iff {s : List Char} :
    h.encodeFault? s = none ↔ s.any h.isHalf = false :=
  h.encodeFaultFrom_eq_none_iff

/-- Chunks without halves are written, and what follows them. -/
theorem written_append {chunks : List (List Char)} (rest : List (List Char))
    (plain : ∀ chunk ∈ chunks, h.encodeFault? chunk = none) :
    h.written (chunks ++ rest) =
      (chunks.flatten ++ (h.written rest).1, (h.written rest).2) := by
  induction chunks with
  | nil => rfl
  | cons chunk chunks ih =>
    obtain ⟨hchunk, hchunks⟩ := List.forall_mem_cons.1 plain
    rw [List.cons_append, written, hchunk, ih hchunks, List.flatten_cons, List.append_assoc]

theorem written_of_plain {chunks : List (List Char)}
    (plain : ∀ chunk ∈ chunks, h.encodeFault? chunk = none) :
    h.written chunks = (chunks.flatten, none) := by
  have hwritten := h.written_append [] plain
  rwa [List.append_nil, written, List.append_nil] at hwritten

/-- The first chunk with a half ends the writing. -/
theorem written_of_half {chunk : List Char} {f : EncodeFault} {chunks : List (List Char)}
    (rest : List (List Char)) (plain : ∀ chunk ∈ chunks, h.encodeFault? chunk = none)
    (half : h.encodeFault? chunk = some f) :
    h.written (chunks ++ chunk :: rest) = (chunks.flatten, some f) := by
  rw [h.written_append _ plain, written, half, List.append_nil]

end Halves

end NativeProps
