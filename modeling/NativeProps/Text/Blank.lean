import NativeProps.Text.Span

/-!
# Blank characters

* `isBlank`: the separators and blanks of Unicode, the information separators U+001C to U+001F
  and the next-line control included. The zero-width space and the byte order mark are not blank.
* `isBlankText`: a text that has nothing left once the blanks around it are removed.
-/

namespace NativeProps.Text

/-- The spans of blank code points. -/
def blankSpans : List (Nat × Nat) :=
  [(0x9, 0xd), (0x1c, 0x20), (0x85, 0x85), (0xa0, 0xa0), (0x1680, 0x1680), (0x2000, 0x200a),
    (0x2028, 0x2029), (0x202f, 0x202f), (0x205f, 0x205f), (0x3000, 0x3000)]

/-- Whether a character counts as blank. -/
def isBlank (c : Char) : Bool := inSpans blankSpans c

/-- Whether a text consists of blanks only; the empty text does. -/
def isBlankText (s : String) : Bool := s.toList.all isBlank

end NativeProps.Text
