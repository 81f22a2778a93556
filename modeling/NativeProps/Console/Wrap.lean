import NativeProps.Console.Line
import NativeProps.Console.Markup
import NativeProps.Text.Blank

/-!
# Lines of a width

* `words`: a text in words, each with the blanks behind it; blanks in front of all go with the
  first.
* `Overflow`: what becomes of a word that is wider than a line.
* `breakLine`: a text in lines of whole words.
* `front`: the front of a text that takes a number of cells.
* `Line.clip`: a line cut in the part that reaches a width.
* `broken`: the lines of a text before their ends are cut.
* `wrap`: the lines that a text takes, none of them wider than the width.
-/

namespace NativeProps.Console

/-- What becomes of a word that is wider than a line: it goes on in the next one, or it is cut and
ends in an ellipsis. -/
inductive Overflow where
  | fold
  | ellipsis
  deriving DecidableEq, Repr

/-! ### Words -/

/-- Runs of characters that are blank and not blank in turn. -/
def runs (s : List Char) : List (List Char) :=
  s.splitBy fun a b => Text.isBlank a == Text.isBlank b

/-- Joins every run that stands first, third and so on with the run behind it. -/
def joinPairs : List (List Char) → List (List Char)
  | word :: gap :: rest => (word ++ gap) :: joinPairs rest
  | rest => rest

/-- The words of a text. A text of blanks has none. -/
def words (s : List Char) : List (List Char) :=
  match runs s with
  | [] => []
  | first :: rest =>
    if first.all Text.isBlank then
      match joinPairs rest with
      | [] => []
      | word :: more => (first ++ word) :: more
    else joinPairs (first :: rest)

/-- A text without the blanks at its end. -/
def dropBlanks (s : List Char) : List Char := (s.reverse.dropWhile Text.isBlank).reverse

/-! ### Breaking -/

/-- A text that is being broken: its finished lines in reverse, the line begun, and the cells that
count as taken on it. -/
structure Layout where
  done : List (List Char) := []
  current : List Char := []
  used : Nat := 0

namespace Layout

/-- Begins a line with a text; the first line of all is there already. -/
def begin (l : Layout) (s : List Char) : Layout :=
  if l.done.isEmpty && l.current.isEmpty then ⟨[], s, Text.cells s⟩
  else ⟨l.current :: l.done, s, Text.cells s⟩

/-- The lines of a layout. -/
def lines (l : Layout) : List (List Char) := (l.current :: l.done).reverse

end Layout

/-- The pieces of a word for lines of a width, of which the first has some cells taken. -/
def pieces (width used : Nat) : List Char → List (List Char)
  | [] => [[]]
  | c :: rest =>
    let n := Text.charCells c
    if used + n ≤ width then
      match pieces width (used + n) rest with
      | [] => [[c]]
      | piece :: more => (c :: piece) :: more
    else
      match pieces width n rest with
      | [] => [[], [c]]
      | piece :: more => [] :: (c :: piece) :: more

/-- A layout with one more word. The blanks behind a word need no room. -/
def addWord (width : Nat) (o : Overflow) (l : Layout) (word : List Char) : Layout :=
  let needed := Text.cells (dropBlanks word)
  if l.used + needed ≤ width then
    { l with current := l.current ++ word, used := l.used + Text.cells word }
  else if width < needed ∧ o = .fold then (pieces width 0 word).foldl Layout.begin l
  else l.begin word

/-- A line feed-free text in lines of whole words. -/
def breakLine (width : Nat) (o : Overflow) (s : List Char) : List (List Char) :=
  match words s with
  | [] => [s]
  | ws => (ws.foldl (addWord width o) {}).lines

/-! ### Cutting -/

/-- The front of a text that takes `total` cells, looked for by halving the stretch from `start` to
`stop`: of fronts that differ in characters without width, the first one met counts. Half of a wide
character becomes a space. -/
def frontBetween (s : List Char) (total : Nat) : Nat → Nat → Nat → List Char
  | 0, _, stop => s.take stop
  | fuel + 1, start, stop =>
    let middle := (start + stop) / 2
    let before := s.take (middle + 1)
    let n := Text.cells before
    if n = total + 1 ∧ before.getLast?.any (fun c => Text.charCells c == 2) then
      before.dropLast ++ [' ']
    else if n = total then before
    else if total < n then frontBetween s total fuel start middle
    else frontBetween s total fuel middle stop

/-- The front of a wider text that takes `total` cells. -/
def front (total : Nat) (s : List Char) : List Char :=
  if total = 0 then [] else frontBetween s total s.length 0 s.length

/-- A line without those of the blanks at its end that are more characters than the width. -/
def dropExcess (width : Nat) (s : List Char) : List Char :=
  let blanks := (s.reverse.takeWhile Text.isBlank).length
  s.take (s.length - min blanks (s.length - width))

/-- A line cut to a width if it is wider. -/
def clip (width : Nat) (o : Overflow) (s : List Char) : List Char :=
  if Text.cells s ≤ width then s
  else
    match o with
    | .fold => front width s
    | .ellipsis => front (width - 1) s ++ ['…']

/-- Parts cut to a room: the part that fills it is cut, and what is behind that part is left out. -/
def clipParts : Nat → List (List Char) → List Char
  | _, [] => []
  | room, part :: rest =>
    if Text.cells part < room then part ++ clipParts (room - Text.cells part) rest
    else clip room .fold part

/-- A line cut to a width if it is wider. -/
def Line.clip (width : Nat) (l : Line) : List Char :=
  if Text.cells l.text ≤ width then l.text else clipParts width l.parts

/-! ### Lines of texts -/

/-- The lines of a text with all blanks at their ends; only a text that wraps is broken for the
width. -/
def broken (width : Nat) (wraps : Bool) (o : Overflow) (s : List Char) : List Line :=
  (Text.splitOn '\n' (visible s)).flatMap fun s =>
    let line := Line.ofText s
    if wraps then line.breakAt (breakLine width o line.text) else [line]

/-- The lines of a text in a width. -/
def wrap (width : Nat) (wraps : Bool) (o : Overflow) (s : List Char) : List (List Char) :=
  (broken width wraps o s).map fun line => clip width o (dropExcess width line.text)

/-- Lines as printed on a console of a width: nothing is printed past it, and without any width
nothing at all. -/
def printLines (width : Nat) (lines : List (List Char)) : List Char :=
  if width = 0 then [] else lines.flatMap fun line => clip width .fold line ++ ['\n']

/-- A text as printed on a console of a width. -/
def print (width : Nat) (s : List Char) : List Char := printLines width (wrap width true .fold s)

end NativeProps.Console
