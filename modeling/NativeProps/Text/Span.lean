/-!
# Spans of code points

A class of characters is given by the closed spans of code points that make it up.

* `inSpans`: membership of a character in such a class.
-/

namespace NativeProps.Text

/-- Whether one of the closed spans holds the character. -/
def inSpans (spans : List (Nat × Nat)) (c : Char) : Bool :=
  spans.any fun s => decide (s.1 ≤ c.toNat) && decide (c.toNat ≤ s.2)

end NativeProps.Text
