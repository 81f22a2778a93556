import NativeProps.Files.Encoding
import NativeProps.Files.Path

/-!
# Trees of files

Files and directories, without links and without permissions: what is there can be read and written,
and there is room for all that is written.

* `FileTree`: files and directories, and the directory where the program runs.
* `FileTree.walk`: the entry that a path leads to, one directory at a time.
* `FileTree.exists?`, `FileTree.content`, `FileTree.write`: what can be done with a path.
* `FileTree.writeChunks`: writing a text chunk by chunk.
* `FileTree.read`, `FileTree.place`: what can be done with a text that is taken as it is written.
* `Refusal`: why it cannot be done.
* `unifyNewlines`: text as read from a file, every line end a single line feed.
-/

namespace NativeProps

/-- What a path can lead to. -/
inductive Entry where
  | file (content : ByteArray)
  | directory

/-- A finite set of entries under the steps that lead to them from the top; the first entry of a
name counts. -/
structure FileTree where
  entries : List (List String × Entry)
  /-- The directory where the program runs. -/
  start : List String := []
  /-- What stands for halves of surrogate pairs in texts that are read and written. -/
  halves : Halves := .standard

/-- Why a path is refused. -/
inductive Refusal where
  | notFound
  | notDirectory
  | isDirectory
  | alreadyExists
  | nameTooLong
  /-- A step holds a character that no file name can hold. -/
  | unusable
  deriving DecidableEq, Repr

/-- A refusal in words, with its number if it has one. -/
def Refusal.text : Refusal → String
  | .notFound => "[Errno 2] No such file or directory"
  | .alreadyExists => "[Errno 17] File exists"
  | .notDirectory => "[Errno 20] Not a directory"
  | .isDirectory => "[Errno 21] Is a directory"
  | .nameTooLong => "[Errno 36] File name too long"
  | .unusable => "embedded null byte"

/-- A refusal with the path refused. -/
structure PathFault where
  refusal : Refusal
  path : Path
  deriving DecidableEq, Repr

/-- The refusal of a path that is shown as a text, in words. -/
def Refusal.message (r : Refusal) (shown : String) : String :=
  if r = .unusable then r.text else r.text ++ ": " ++ Text.quoted shown

/-- A refused path in words. -/
def PathFault.message (f : PathFault) : String := f.refusal.message f.path.text

/-- Why a text is not written to a file, or not as a whole. -/
inductive WriteFault where
  | refused (refusal : Refusal)
  | unencodable (fault : EncodeFault)
  deriving DecidableEq, Repr

namespace FileTree

/-- The tree without entries. -/
def empty : FileTree where
  entries := []

/-- The entry of a name. The directory where the program runs and all above it are directories. -/
def lookup? (t : FileTree) (name : List String) : Option Entry :=
  if name.isPrefixOf t.start then some .directory else t.entries.lookup name

/-- The name reached from `here` by one step. There is nothing above the top. -/
def next (here : List String) (step : String) : List String :=
  if step = "." then here else if step = ".." then here.dropLast else here ++ [step]

/-- The name that steps lead to, where every step starts in a directory and has at most 255
bytes. -/
def walk (t : FileTree) : List String → List String → Except Refusal (List String)
  | here, [] => .ok here
  | here, step :: rest =>
    match t.lookup? here with
    | some .directory =>
      if 255 < step.utf8ByteSize then .error .nameTooLong else walk t (next here step) rest
    | some (.file _) => .error .notDirectory
    | none => .error .notFound

/-- The name from which a path leads on. -/
def base (t : FileTree) (p : Path) : List String := if p.root = .here then t.start else []

/-- The name that a usable path of fewer than 4096 bytes leads to. -/
def resolve (t : FileTree) (p : Path) : Except Refusal (List String) :=
  if p.isUnusable then .error .unusable
  else if 4096 ≤ p.text.utf8ByteSize then .error .nameTooLong else t.walk (t.base p) p.steps

/-- The entry that a path leads to. -/
def find (t : FileTree) (p : Path) : Except Refusal Entry := do
  let name ← t.resolve p
  match t.lookup? name with
  | some e => return e
  | none => throw .notFound

/-- Whether a path leads to an entry; a path with a name that is too long is refused. -/
def exists? (t : FileTree) (p : Path) : Except Refusal Bool :=
  match t.find p with
  | .ok _ => .ok true
  | .error .nameTooLong => .error .nameTooLong
  | .error _ => .ok false

/-- The content of the file that a path leads to. -/
def content (t : FileTree) (p : Path) : Except Refusal ByteArray := do
  match ← t.find p with
  | .file bytes => return bytes
  | .directory => throw .isDirectory

/-- The content of the file that a text leads to as it is written. The empty text leads nowhere. -/
def read (t : FileTree) (name : String) : Except Refusal ByteArray :=
  if name.isEmpty then .error .notFound else t.content (.writtenFile name)

/-- Sets the entry of a name. -/
def set (t : FileTree) (name : List String) (e : Entry) : FileTree :=
  { t with entries := (name, e) :: t.entries.filter fun old => old.1 != name }

theorem lookup?_set_self (t : FileTree) {name : List String} (e : Entry)
    (h : name.isPrefixOf t.start = false) : (t.set name e).lookup? name = some e := by
  simp [lookup?, set, h]

theorem lookup?_set_of_ne (t : FileTree) {name other : List String} (e : Entry)
    (h : other ≠ name) : (t.set name e).lookup? other = t.lookup? other := by
  have hb : (other == name) = false := by simpa using h
  have lookup_filter (l : List (List String × Entry)) :
      (l.filter fun old => old.1 != name).lookup other = l.lookup other := by
    induction l with
    | nil => rfl
    | cons old rest ih =>
      obtain ⟨key, v⟩ := old
      by_cases hk : key = name
      · subst hk
        simp [List.lookup_cons, hb, ih]
      · simp [List.lookup_cons, hk, ih]
  simp [lookup?, set, List.lookup_cons, hb, lookup_filter]

/-- Replaces or creates the file that a path leads to. -/
def write (t : FileTree) (p : Path) (bytes : ByteArray) : Except Refusal FileTree := do
  let name ← t.resolve p
  match t.lookup? name with
  | some .directory => throw .isDirectory
  | _ => return t.set name (.file bytes)

/-- The tree after chunks are written to the file that a path leads to, and why not all of them are.
The file is emptied when it is opened. A chunk that cannot be encoded ends the writing, and what was
written before it stays. -/
def writeChunks (t : FileTree) (p : Path) (chunks : List (List Char)) :
    FileTree × Except WriteFault Unit :=
  let (text, fault?) := t.halves.written chunks
  match t.write p (String.ofList text).toUTF8 with
  | .error r => (t, .error (.refused r))
  | .ok t =>
    match fault? with
    | none => (t, .ok ())
    | some f => (t, .error (.unencodable f))

/-- The tree with the directories that steps lead through, created where they are missing, and why
that stopped early. Directories created before remain. -/
def createDirectories (t : FileTree) (here : List String) :
    List String → FileTree × Except Refusal Unit
  | [] => (t, .ok ())
  | step :: rest =>
    if Path.isUnusableStep step then (t, .error .unusable)
    else
      match t.walk here [step] with
      | .error r => (t, .error r)
      | .ok name =>
        match t.lookup? name, rest with
        | none, _ => createDirectories (t.set name .directory) name rest
        | some (.file _), [] => (t, .error .alreadyExists)
        | some _, _ => createDirectories t name rest

/-- The tree with an entry at the end of the way that a text writes down, where the directories in
front of it are there. A directory may be there already, and a file replaces a file. -/
def placeLast (t : FileTree) (name : String) : Entry → FileTree × Except Refusal Unit
  | .directory => t.createDirectories (t.base (.written name)) (Path.written name).steps
  | .file bytes =>
    match t.write (Path.writtenFile name) bytes with
    | .ok t => (t, .ok ())
    | .error r => (t, .error r)

/-- The tree with an entry at the place that a text writes down, and why there is none. The
directories in front of it are created first. The empty text leads nowhere. -/
def place (t : FileTree) (name : String) (e : Entry) : FileTree × Except Refusal Unit :=
  if name.isEmpty then (t, .error .notFound)
  else
    match t.createDirectories (t.base (.writtenFile name))
      (Path.writtenFile name).steps.dropLast with
    | (t, .error r) => (t, .error r)
    | (t, .ok _) => t.placeLast name e

end FileTree

/-- Writes every line end as a line feed. -/
def unifyNewlines : List Char → List Char
  | '\r' :: '\n' :: rest => '\n' :: unifyNewlines rest
  | '\r' :: rest => '\n' :: unifyNewlines rest
  | c :: rest => c :: unifyNewlines rest
  | [] => []

end NativeProps
