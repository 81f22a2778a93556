/-!
# What is printed

What a console is handed, in the terms of the one who prints. How it is set out, where lines are
broken, what a style looks like and how escaped text is kept literal are the affair of the console.

* `Console.Part`: a part of a text with markup.
* `Table`: a table of styled columns under a title.
* `Console.Item`: what is printed at once.
-/

namespace NativeProps

namespace Console

/-- A part of a text with markup. -/
inductive Part where
  | text (s : String)
  | styled (style s : String)
  /-- Text from elsewhere, escaped so that nothing in it is taken for markup. -/
  | escaped (s : String)
  deriving DecidableEq, Repr

/-- A cell of a table, shown literally. -/
structure Cell where
  text : String
  style : String := ""
  deriving DecidableEq, Repr

/-- A column of a table. -/
structure Column where
  header : String
  style : String
  wraps : Bool := true
  deriving DecidableEq, Repr

end Console

/-- A table in a rounded box. -/
structure Table where
  title : List Console.Part
  titleStyle : String
  columns : List Console.Column
  rows : List (List Console.Cell)
  deriving DecidableEq, Repr

/-- What is printed at once. -/
inductive Console.Item where
  | blank
  | markup (parts : List Console.Part)
  /-- A text in which nothing is markup and nothing is highlighted. -/
  | plain (s : String)
  | table (t : Table)
  deriving DecidableEq, Repr

end NativeProps
