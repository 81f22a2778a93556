import NativeProps.Text.Split

/-!
# Paths

* `Path`: the root and the steps of a path.
* `Path.ofText`: the path of a text in its shortest form: empty steps and `.` are dropped, `..` is
  kept.
* `Path.written`, `Path.writtenFile`: the path to a directory and to a file exactly as a text writes
  it: `.` is a step.
* `Path.text`: the path as shown, `.` for the relative path without steps.
* `Path.extension`: the last step from its last dot on, unless that dot is its first or last
  character.
* `Path.isJson`: whether the extension is `.json` in any case of letters.
-/

namespace NativeProps

/-- Where a path begins: where the program runs, or at the top, which two slashes show as well. -/
inductive Root where
  | here
  | top
  | twoSlashes
  deriving DecidableEq, Repr

/-- The slashes in front of a path. -/
def Root.text : Root → String
  | .here => ""
  | .top => "/"
  | .twoSlashes => "//"

/-- A path. -/
structure Path where
  root : Root
  steps : List String
  deriving DecidableEq, Repr

namespace Path

/-- The root of a text. Two slashes are told from one, more are not. -/
def rootOf : List Char → Root
  | '/' :: '/' :: '/' :: _ => .top
  | '/' :: '/' :: _ => .twoSlashes
  | '/' :: _ => .top
  | _ => .here

/-- The path of a text in its shortest form. -/
def ofText (s : String) : Path where
  root := rootOf s.toList
  steps := ((Text.splitOn '/' s.toList).filter fun p => p ≠ [] ∧ p ≠ ['.']).map String.ofList

/-- The path to a directory as a text writes it. -/
def written (s : String) : Path where
  root := rootOf s.toList
  steps := ((Text.splitOn '/' s.toList).filter (· ≠ [])).map String.ofList

/-- The path to a file as a text writes it. A slash at the end leads to the directory in front of
it, as the step `.` does. -/
def writtenFile (s : String) : Path :=
  let p := written s
  if s.toList.getLast? = some '/' then { p with steps := p.steps ++ ["."] } else p

/-- A path as shown. -/
def text (p : Path) : String :=
  if p.root = .here ∧ p.steps.isEmpty then "." else p.root.text ++ "/".intercalate p.steps

/-- The extension of a file name, with its dot. -/
def extensionOf (name : List Char) : List Char :=
  let tail := (name.reverse.takeWhile (· != '.')).reverse
  let dot := name.length - tail.length
  if tail = [] ∨ dot ≤ 1 then [] else '.' :: tail

/-- The extension of the last step, with its dot. -/
def extension (p : Path) : List Char :=
  match p.steps.getLast? with
  | some name => extensionOf name.toList
  | none => []

/-- Whether the path names a JSON file. -/
def isJson (p : Path) : Bool := p.extension.map Char.toLower == ".json".toList

/-- Whether a step holds a character that no file name can hold. -/
def isUnusableStep (step : String) : Bool := step.toList.contains '\x00'

/-- Whether the path holds a character that no file name can hold. -/
def isUnusable (p : Path) : Bool := p.steps.any isUnusableStep

end Path

end NativeProps
