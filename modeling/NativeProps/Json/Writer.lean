import NativeProps.Text.Quoted

/-!
# Writing JSON

* `Json.escape`: the written form of a character of a string. Only the quote, the backslash and the
  control characters are escaped.
* `Json.quote`: a string as a JSON string.
* `Json.writeObject`: an object of strings, one member to a line, indented by two.
* `Json.objectChunks`: the chunks in which it is written.
-/

namespace NativeProps.Json

/-- The written form of a character of a JSON string. -/
def escape (c : Char) : List Char :=
  if c = '"' then ['\\', '"']
  else if c = '\\' then ['\\', '\\']
  else if c = '\n' then ['\\', 'n']
  else if c = '\r' then ['\\', 'r']
  else if c = '\t' then ['\\', 't']
  else if c = '\x0c' then ['\\', 'f']
  else if c = '\x08' then ['\\', 'b']
  else if c < ' ' then '\\' :: 'u' :: Text.hex 4 c.toNat
  else [c]

/-- A string as a JSON string. -/
def quote (s : String) : List Char := '"' :: s.toList.flatMap escape ++ ['"']

/-- The members of an object, one to a line. -/
def writeMembers : List (String × String) → List Char
  | [] => []
  | (key, v) :: rest =>
    '\n' :: ' ' :: ' ' :: quote key ++ ':' :: ' ' :: quote v ++
      (if rest.isEmpty then ['\n'] else ',' :: writeMembers rest)

/-- The chunks of the members of an object. A key and a value are chunks of their own. -/
def memberChunks : List (String × String) → List (List Char)
  | [] => []
  | (key, v) :: rest =>
    ['\n', ' ', ' '] :: quote key :: [':', ' '] :: quote v ::
      (if rest.isEmpty then [['\n']] else [','] :: memberChunks rest)

/-- The chunks of an object of strings. -/
def objectChunks (members : List (String × String)) : List (List Char) :=
  ['\x7b'] :: memberChunks members ++ [['\x7d']]

/-- An object of strings. -/
def writeObject (members : List (String × String)) : String :=
  String.ofList ('\x7b' :: writeMembers members ++ ['\x7d'])

theorem flatten_memberChunks (members : List (String × String)) :
    (memberChunks members).flatten = writeMembers members := by
  induction members with
  | nil => rfl
  | cons m rest ih =>
    obtain ⟨key, v⟩ := m
    rw [memberChunks, writeMembers]
    cases rest with
    | nil => simp
    | cons next rest => simp [ih]

/-- The chunks of an object are its text. -/
theorem flatten_objectChunks (members : List (String × String)) :
    (objectChunks members).flatten = (writeObject members).toList := by
  simp [objectChunks, writeObject, flatten_memberChunks]

end NativeProps.Json
