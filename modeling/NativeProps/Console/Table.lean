import NativeProps.Console.Columns
import NativeProps.Console.Item
import NativeProps.Console.Wrap

/-!
# Tables on a console

Tables of which only the first column does not wrap. Styles are not shown.

* `Table.widths`: the width of each column on a console of a width: that of its widest cell and a
  space on either side, as far as there is room.
* `Table.render`: the table in a rounded box under its centred title. Cells are set to the left, a
  rule stands under the header only, and a cell of several lines makes its row as high. The cells of
  the first column are cut where they are too wide, the others are wrapped.
-/

namespace NativeProps

namespace Table

/-- The texts of the header. -/
def header (t : Table) : List (List Char) := t.columns.map fun c => c.header.toList

/-- The texts of the rows. -/
def texts (t : Table) : List (List (List Char)) :=
  t.rows.map fun row => row.map fun c => c.text.toList

/-- The characters of a horizontal rule. -/
structure Rule where
  left : Char
  cross : Char
  right : Char

/-- The rule above the header. -/
def topRule : Rule := ⟨'╭', '┬', '╮'⟩

/-- The rule below the header. -/
def headRule : Rule := ⟨'├', '┼', '┤'⟩

/-- The rule below the last row. -/
def bottomRule : Rule := ⟨'╰', '┴', '╯'⟩

/-! ### Widths -/

/-- The characters that end a line where the width of a cell is taken. -/
def lineEnds : List Char :=
  ['\n', '\x0b', '\x0c', '\r', '\x1c', '\x1d', '\x1e', '\u0085', '\u2028', '\u2029']

/-- The width of the text of a cell, that of its widest line. -/
def cellWidth (cell : List Char) : Nat :=
  let lines := Text.splitOn '\n'
    ((Console.visible cell).map fun c => if lineEnds.contains c then '\n' else c)
  (lines.map Text.cells).foldl max 0

/-- The greater of two widths in each column. -/
def widen : List Nat → List Nat → List Nat
  | a :: as, b :: bs => max a b :: widen as bs
  | as, [] => as
  | [], bs => bs

/-- The width of each column on a console of a width. -/
def widths (console : Nat) (t : Table) : List Nat :=
  let room := console - (t.columns.length + 1)
  let natural := (t.header :: t.texts).foldl
    (fun found row => widen found (row.map fun cell => min (cellWidth cell + 2) room)) []
  Columns.fitColumns room natural

/-- The width of a table with columns of given widths. -/
def totalWidth (widths : List Nat) : Nat := Columns.total widths + widths.length + 1

/-! ### Lines -/

/-- A text filled up with spaces to a width. -/
def padRight (width : Nat) (s : List Char) : List Char :=
  s ++ List.replicate (width - Text.cells s) ' '

/-- Parts with a separator between neighbours, all between two borders. -/
def between (left cross right : Char) : List (List Char) → List Char
  | [] => [left, right]
  | parts => left :: Text.joinWith cross parts ++ [right]

/-- A horizontal rule across columns. -/
def ruleLine (r : Rule) (widths : List Nat) : List Char :=
  between r.left r.cross r.right (widths.map fun w => List.replicate w '─')

/-- The lines of a cell in a column of a width. -/
def cellLines (width : Nat) (wraps : Bool) (cell : List Char) : List (List Char) :=
  if width < 3 then [] else Console.wrap (width - 2) wraps .ellipsis cell

/-- A line of a cell in a column of a width. -/
def framed (width : Nat) (line : List Char) : List Char :=
  if width < 3 then List.replicate width ' ' else padRight width (' ' :: line)

/-- The lines of cells in columns of given widths; only the first cell does not wrap. -/
def rowCells (widths : List Nat) (row : List (List Char)) : List (Nat × List (List Char)) :=
  ((widths.zip row).zipIdx).map fun ((w, cell), n) => (w, cellLines w (n != 0) cell)

/-- The number of lines of a row. -/
def height (cells : List (Nat × List (List Char))) : Nat :=
  (cells.map fun c => c.2.length).foldl max 1

/-- The lines of a row whose cells have their empty lines in front or behind. -/
def rowLines (bottom : Bool) (widths : List Nat) (row : List (List Char)) : List (List Char) :=
  let cells := rowCells widths row
  let n := height cells
  (List.range n).map fun k =>
    between '│' '│' '│'
      (cells.map fun (w, lines) =>
        let above := if bottom then n - lines.length else 0
        framed w (if k < above then [] else lines[k - above]?.getD []))

/-- The lines of the title, centred above a table of a width, on a console of a width. -/
def titleLines (console width : Nat) (title : List Char) : List (List Char) :=
  (Console.broken width true .fold title).map fun line =>
    ((line.take (Console.dropBlanks line.text).length).center width).clip console

/-- The lines of a table on a console of a width. -/
def lines (console : Nat) (t : Table) : List (List Char) :=
  let widths := t.widths console
  titleLines console (totalWidth widths) (t.title.flatMap Console.Part.shown) ++
    [ruleLine topRule widths] ++ rowLines true widths t.header ++ [ruleLine headRule widths] ++
    t.texts.flatMap (rowLines false widths) ++ [ruleLine bottomRule widths]

/-- A table as printed on a console of a width. -/
def render (console : Nat) (t : Table) : List Char :=
  Console.printLines console (t.lines console)

end Table

end NativeProps
