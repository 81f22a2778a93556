import NativeProps.Files.Document
import NativeProps.Outcome

/-!
# Schema files

* `Schema.load`: the value of the JSON file of a name. A file without the extension `.json` is read
  with a warning.
-/

namespace NativeProps.Schema

/-- The value of the file that is at a path. -/
def readPath (files : FileTree) (path : Path) : Outcome Value := do
  if !path.isJson then
    .log .warning .files ("File does not have .json extension: " ++ path.text)
  match files.document path with
  | .error (.refused r) => .fault (.source (.unreadable path ⟨r, path⟩))
  | .error (.undecodable f) => .misuse (.undecodable f)
  | .error (.invalid f) => .fault (.source (.invalidJson path f))
  | .ok v => do
    .log .info .files ("Loaded JSON from " ++ path.text)
    return v

/-- The value of the file that a path leads to. -/
def loadPath (files : FileTree) (path : Path) : Outcome Value := do
  .log .debug .files ("Attempting to load JSON from file: " ++ path.text)
  match files.exists? path with
  | .error r => .misuse (.unopened r path.text)
  | .ok false => .fault (.source (.fileNotFound path))
  | .ok true => readPath files path

/-- The value of the file of a name. -/
def load (files : FileTree) (name : String) : Outcome Value := loadPath files (.ofText name)

end NativeProps.Schema
