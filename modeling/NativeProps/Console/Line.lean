import NativeProps.Text.Cells
import NativeProps.Text.Split

/-!
# Lines in parts

A line is printed part by part, and every tab ends a part.

* `fillTabs`: tabs filled up to the next multiple of eight cells.
* `Line`: the parts of a line.
* `Line.ofText`: the parts of a text without line feeds.
* `Line.take`, `Line.drop`: the front of a line and the rest, in their parts.
* `Line.breakAt`: a line broken where given texts end.
-/

namespace NativeProps.Console

/-! ### Tabs -/

/-- Parts with the tabs between them filled up, from a column on. -/
def fillTabs (column : Nat) : List (List Char) → List (List Char)
  | [] => []
  | [last] => if last.isEmpty then [] else [last]
  | part :: rest =>
    let column := column + Text.cells part
    let gap := 8 - column % 8
    (part ++ List.replicate gap ' ') :: fillTabs (column + gap) rest

/-! ### Parts -/

/-- The parts of the first `n` characters. -/
def takeParts : Nat → List (List Char) → List (List Char)
  | _, [] => []
  | n, part :: rest => if n = 0 then [] else part.take n :: takeParts (n - part.length) rest

/-- The parts of what follows the first `n` characters. -/
def dropParts : Nat → List (List Char) → List (List Char)
  | _, [] => []
  | n, part :: rest =>
    if n < part.length then part.drop n :: rest else dropParts (n - part.length) rest

/-! ### Lines -/

/-- A line in parts. -/
structure Line where
  parts : List (List Char)
  /-- Whether spaces that are put around the line are parts of their own. -/
  apart : Bool

namespace Line

/-- A line as one text. -/
def text (l : Line) : List Char := l.parts.flatten

/-- The line of a text without line feeds. Without tabs it has one part, and so it has with spaces
put around it. -/
def ofText (s : List Char) : Line :=
  match Text.splitOn '\t' s with
  | [part] => ⟨[part], false⟩
  | parts => ⟨fillTabs 0 parts, true⟩

/-- The first `n` characters of a line. -/
def take (n : Nat) (l : Line) : Line := { l with parts := takeParts n l.parts }

/-- What follows the first `n` characters of a line. -/
def drop (n : Nat) (l : Line) : Line := { l with parts := dropParts n l.parts }

/-- A line broken in lines as long as given texts. -/
def breakAt (l : Line) : List (List Char) → List Line
  | [] => []
  | s :: rest => l.take s.length :: (l.drop s.length).breakAt rest

/-- A line in the middle of a width, the odd space on the right. -/
def center (width : Nat) (l : Line) : Line :=
  let free := width - Text.cells l.text
  let left := List.replicate (free / 2) ' '
  let right := List.replicate (free - free / 2) ' '
  if l.apart then { l with parts := left :: l.parts ++ [right] }
  else { l with parts := [left ++ l.text ++ right] }

end Line

end NativeProps.Console
