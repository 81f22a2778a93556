import NativeProps.Config.Storage
import NativeProps.Declaration.Header
import NativeProps.Declaration.TypeName

/-!
# Configuration sessions

A session holds the defaults in force, the configuration obtained last, and the files. All loads
share defaults of their own, which come about with the first load.

* `Session.Step`: what can be done in a session.
* `Session.share`: the session with the defaults that loads share.
* `Session.step`: the session after a step, and the answer. Of a step that fails what was written
  to a file and the directories created on the way to an entry remain.
* `Session.run`: the session after a sequence of steps, and all answers.
-/

namespace NativeProps

/-- The state of a configuration session. -/
structure Session where
  defaults : Config := {}
  shared? : Option Config := none
  current : Config := {}
  files : FileTree := .empty

namespace Session

/-- What can be done in a session. -/
inductive Step where
  /-- Gets a configuration above the defaults in force. -/
  | get (custom : Value) (file : Option String)
  /-- Gets a configuration above the shared defaults. -/
  | load (custom : Value) (file : Option String)
  /-- Sets the defaults: plain ones, or the current configuration. -/
  | setDefaults (fromCurrent : Bool)
  /-- Writes the current configuration to a file. -/
  | save (path : String)
  /-- Places an entry in the files. -/
  | place (path : String) (entry : Entry)
  /-- Reads the text of a file. -/
  | read (path : String)
  /-- Asks the current configuration for the type name of a tag. -/
  | typeName (tag : Value)
  /-- Asks the current configuration for the header of a primitive. -/
  | header (name : Value)

/-- What a step answers. -/
inductive Answer where
  | config (c : Config)
  | text (s : String)
  | header (s : Option String)
  | done

/-- The text of the file of a name. -/
def fileText (files : FileTree) (name : String) : Except Failure String :=
  match files.read name with
  | .error r => .error (.misuse (.unopened r name))
  | .ok bytes =>
    match textOf? bytes with
    | some s => .ok s
    | none => .error (.misuse (.undecodable (decodeFault bytes)))

/-- The files after an entry is placed at a name, and what came of it. -/
def placeEntry (files : FileTree) (name : String) (e : Entry) : FileTree × Except Failure Unit :=
  let (files, placed) := files.place name e
  (files, placed.mapError fun r => .misuse (.unopened r name))

/-- The session with the configuration of an outcome as the current one, if it has one. -/
def obtain (s : Session) (x : Outcome Config) : Session × Outcome Answer :=
  match x.result with
  | .ok c => ({ s with current := c }, .config <$> x)
  | .error _ => (s, .config <$> x)

/-- The session with shared defaults, and these. Without any they are made, as plain ones. -/
def share (s : Session) : Session × Config :=
  match s.shared? with
  | some c => (s, c)
  | none => ({ s with shared? := some {} }, {})

/-- The session after a step, and the answer. -/
def step (s : Session) : Step → Session × Outcome Answer
  | .get custom file => s.obtain (Config.load s.files s.defaults file custom)
  | .load custom file =>
    let (s, shared) := s.share
    s.obtain (Config.load s.files shared file custom)
  | .setDefaults fromCurrent =>
    ({ s with defaults := if fromCurrent then s.current else {} }, return .done)
  | .save path =>
    let (files, saved) := Config.save s.files s.current path
    ({ s with files }, (fun _ => .done) <$> (saved : Outcome Unit))
  | .place path entry =>
    let (files, placed) := placeEntry s.files path entry
    ({ s with files }, (fun _ => .done) <$> (placed : Outcome Unit))
  | .read path => (s, .text <$> (fileText s.files path : Outcome String))
  | .typeName tag => (s, .text <$> scalarTypeOf s.current tag)
  | .header name => (s, .header <$> (headerOf s.current (.value name) : Outcome (Option String)))

/-- The session after steps, and their answers in order. -/
def run (s : Session) : List Step → Session × List (Outcome Answer)
  | [] => (s, [])
  | a :: rest =>
    let (s, answer) := s.step a
    let (s, answers) := s.run rest
    (s, answer :: answers)

end Session

end NativeProps
