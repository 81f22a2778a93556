import NativeProps.Console.Item

/-!
# Console text

What a terminal shows of a text. Codes of emoji in a text are left as they are.

* `Console.continuesTag`: a text that makes an opening bracket the start of a tag.
* `Console.shown`: a text put into markup so that its tags are seen. A backslash in front of a
  bracket that opens no tag is lost, and a single backslash at the end is doubled.
* `Console.Part.shown`: a part of a text with markup.
* `Console.visible`: a text without the control characters that a terminal does not show.
-/

namespace NativeProps.Console

/-- Whether a character can follow the opening bracket of a tag. -/
def opensTag (c : Char) : Bool :=
  (decide ('a' ≤ c) && decide (c ≤ 'z')) || c == '#' || c == '/' || c == '@'

/-- Whether a text closes a bracket before it opens another. -/
def closes : List Char → Bool
  | [] => false
  | c :: rest => c == ']' || (c != '[' && closes rest)

/-- Whether a text is, after an opening bracket, the rest of a tag. -/
def continuesTag : List Char → Bool
  | [] => false
  | c :: rest => opensTag c && closes rest

/-- A text without the backslashes in front of brackets that open no tag. -/
def dropEscapes : List Char → List Char
  | [] => []
  | '\\' :: '[' :: rest =>
    if continuesTag rest then '\\' :: '[' :: dropEscapes rest else '[' :: dropEscapes rest
  | c :: rest => c :: dropEscapes rest

/-- Whether a text ends in a single backslash. -/
def endsInBackslash (s : List Char) : Bool :=
  (s.reverse.takeWhile (· == '\\')).length == 1

/-- A text put into markup. -/
def shown (s : List Char) : List Char :=
  dropEscapes s ++ (if endsInBackslash s then ['\\'] else [])

/-- What is seen of a part. -/
def Part.shown : Part → List Char
  | .text s | .styled _ s => s.toList
  | .escaped s => Console.shown s.toList

/-- The control characters that a terminal does not show. -/
def hiddenControls : List Char := ['\x07', '\x08', '\x0b', '\x0c', '\x0d']

/-- A text without hidden control characters. -/
def visible (s : List Char) : List Char := s.filter fun c => !hiddenControls.contains c

end NativeProps.Console
