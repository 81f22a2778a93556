import NativeProps.Config.Layers
import NativeProps.Files.Document
import NativeProps.Json.Writer
import NativeProps.Outcome

/-!
# Configuration files

* `Config.readFile`: the members of a configuration file.
* `Config.load`: a configuration from defaults, an optional file and overrides.
* `Config.save`: the tree that is left when a configuration is written to a file.
-/

namespace NativeProps.Config

/-- The members of the configuration file that is at a path. -/
def readMembers (files : FileTree) (path : Path) : Outcome Members :=
  if !path.isJson then .fault (.config (.notJsonFile path))
  else
    match files.document path with
    | .error (.refused r) => .fault (.config (.unreadable path ⟨r, path⟩))
    | .error (.undecodable f) => .misuse (.undecodable f)
    | .error (.invalid f) => .fault (.config (.invalidJson path f))
    | .ok (.object members) => do
      .log .debug .config ("Loaded configuration file " ++ path.text)
      return members
    | .ok _ => .fault (.config (.notObject path))

/-- The members of the configuration file that a path leads to. -/
def readFile (files : FileTree) (path : Path) : Outcome Members :=
  match files.exists? path with
  | .error r => .misuse (.unopened r path.text)
  | .ok false => .fault (.config (.fileNotFound path))
  | .ok true => readMembers files path

/-- The members of the file of a name; no name, or an empty one, gives none. -/
def readLayer (files : FileTree) : Option String → Outcome Members
  | none => return []
  | some name => if name.isEmpty then return [] else readFile files (.ofText name)

/-- A configuration from defaults, the file of a name and overrides. -/
def load (files : FileTree) (defaults : Config) (file : Option String) (custom : Value) :
    Outcome Config := do
  let layer ← readLayer files file
  let upper ← overrides custom
  merge defaults layer upper

/-- A configuration as the text of a file. -/
def fileText (c : Config) : String := Json.writeObject c.entries

/-- The failure of a path to which a configuration cannot be written. -/
def saveFailure (path : Path) : WriteFault → Failure
  | .refused .unusable => .misuse (.unopened .unusable path.text)
  | .refused r => .fault (.config (.unwritable path ⟨r, path⟩))
  | .unencodable f => .misuse (.unencodable f)

/-- The tree that is left when a configuration is written to the file of a name, and what came of
it. The file is opened before the first chunk is encoded. -/
def save (files : FileTree) (c : Config) (name : String) : FileTree × Except Failure Unit :=
  let path := Path.ofText name
  let (left, result) := files.writeChunks path (Json.objectChunks c.entries)
  (left, result.mapError (saveFailure path))

end NativeProps.Config
