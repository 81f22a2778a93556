import NativeProps.Json.Value
import NativeProps.Text.Digit

/-!
# Command-line arguments

* `Switch`: the options of the command line with their spellings.
* `Word`: an argument as it is taken: an operand, the separator `--`, a switch or an unknown option.
* `Word.ofText`: how an argument is taken. A long option may be cut short as long as one option only
  begins like that.
* `Request`: what is asked for. `Request.ofArguments`: the request of an argument list.
* `Halt`: why there is no request: help, the version, or a usage fault.
-/

namespace NativeProps

/-- An option of the command line. -/
inductive Switch where
  | help
  | component
  | config
  | verbose
  | version
  deriving DecidableEq, Repr

namespace Switch

/-- The spellings of an option. -/
def spellings : Switch → List String
  | .help => ["-h", "--help"]
  | .component => ["--component", "-c"]
  | .config => ["--config"]
  | .verbose => ["--verbose", "-v"]
  | .version => ["--version"]

/-- All options. -/
def all : List Switch := [.help, .component, .config, .verbose, .version]

/-- All spellings with their options. -/
def table : List (String × Switch) :=
  all.flatMap fun s => s.spellings.map fun spelling => (spelling, s)

/-- The option of a spelling. -/
def ofSpelling? (spelling : String) : Option Switch := table.lookup spelling

/-- The option with all its spellings, as named in messages. -/
def title (s : Switch) : String := "/".intercalate s.spellings

/-- Whether an option takes a value. -/
def takesValue : Switch → Bool
  | .component | .config => true
  | _ => false

end Switch

/-- The operand of the command line, as named in messages. -/
def operandTitle : String := "SCHEMA"

/-- A mistake in the arguments. -/
inductive UsageFault where
  | ambiguous (word : String) (spellings : List String)
  | ignoredValue (s : Switch) (value : String)
  | expectedValue (s : Switch)
  | required (titles : List String)
  | unrecognized (words : List String)
  deriving DecidableEq, Repr

/-- A mistake in words. -/
def UsageFault.message : UsageFault → String
  | .ambiguous word spellings =>
    "ambiguous option: " ++ word ++ " could match " ++ ", ".intercalate spellings
  | .ignoredValue s value =>
    "argument " ++ s.title ++ ": ignored explicit argument " ++ Text.quoted value
  | .expectedValue s => "argument " ++ s.title ++ ": expected one argument"
  | .required titles => "the following arguments are required: " ++ ", ".intercalate titles
  | .unrecognized words => "unrecognized arguments: " ++ " ".intercalate words

/-! ### Words -/

/-- The characters written in one word with an option; an equals sign behind the option is not
among them. -/
inductive Attached where
  /-- Characters behind an option that is a word. -/
  | assigned (value : List Char)
  /-- Characters behind an option of one letter. -/
  | joined (tail : List Char)
  deriving DecidableEq, Repr

/-- How an argument is taken. -/
inductive Word where
  | operand (text : String)
  | separator
  | switch (s : Switch) (attached : Option Attached)
  | unknown (text : String)
  deriving DecidableEq, Repr

namespace Word

/-- A text up to its first equals sign and, if there is one, what follows it. -/
def splitAssigned : List Char → List Char × Option (List Char)
  | [] => ([], none)
  | c :: rest =>
    if c = '=' then ([], some rest)
    else
      let (name, value) := splitAssigned rest
      (c :: name, value)

/-- Whether a text is a minus sign and a number with digits of any script. -/
def isNegativeNumber (cs : List Char) : Bool :=
  let isDigit (c : Char) : Bool := (Text.digitValue? c).isSome
  let cs := if cs.getLast? = some '\n' then cs.dropLast else cs
  match cs with
  | '-' :: rest =>
    match rest.dropWhile isDigit with
    | [] => !rest.isEmpty
    | '.' :: fraction => !fraction.isEmpty && fraction.all isDigit
    | _ => false
  | _ => false

/-- The options whose spelling begins like a long option. -/
def candidates (name : List Char) : List (String × Switch) :=
  Switch.table.filter fun entry => name.isPrefixOf entry.1.toList

/-- How a text that begins with a hyphen and is no spelling is taken, if no option fits it. -/
def unmatched (cs : List Char) : Word :=
  if isNegativeNumber cs || cs.contains ' ' then .operand (String.ofList cs)
  else .unknown (String.ofList cs)

/-- How an argument in front of the separator is taken. -/
def ofText (text : String) : Except UsageFault Word :=
  let cs := text.toList
  match cs with
  | '-' :: second :: tail =>
    match Switch.ofSpelling? text with
    | some s => .ok (.switch s none)
    | none =>
      let (name, value) := splitAssigned cs
      match value, Switch.ofSpelling? (String.ofList name) with
      | some v, some s =>
        .ok (.switch s (some (if second = '-' then .assigned v else .joined v)))
      | _, _ =>
        if second = '-' then
          match candidates name with
          | [] => .ok (unmatched cs)
          | [(_, s)] => .ok (.switch s (value.map .assigned))
          | many => .error (.ambiguous text (many.map Prod.fst))
        else
          match Switch.ofSpelling? (String.ofList ['-', second]) with
          | some s => .ok (.switch s (some (.joined tail)))
          | none => .ok (unmatched cs)
  | _ => .ok (.operand text)

/-- How arguments are taken; behind the separator all are operands. -/
def ofTexts : List String → Except UsageFault (List Word)
  | [] => .ok []
  | text :: rest =>
    if text = "--" then .ok (.separator :: rest.map .operand)
    else do
      let word ← ofText text
      return word :: (← ofTexts rest)

end Word

/-! ### Clusters of options -/

/-- What a word with an option stands for: options with their values in order, and at last possibly
one that takes its value from the next word. -/
structure Cluster where
  settings : List (Switch × String)
  pending : Option Switch

namespace Cluster

/-- An option without attached value. -/
def bare (s : Switch) : Cluster := if s.takesValue then ⟨[], some s⟩ else ⟨[(s, "")], none⟩

/-- An option with a value. -/
def assigned (s : Switch) (value : List Char) : Except UsageFault Cluster :=
  if s.takesValue then .ok ⟨[(s, String.ofList value)], none⟩
  else .error (.ignoredValue s (String.ofList value))

/-- An option of one letter with the characters behind it: its value, or the letters of more
options. -/
def joined (s : Switch) : List Char → Except UsageFault Cluster
  | [] => assigned s []
  | c :: rest =>
    if s.takesValue then assigned s (c :: rest)
    else
      match Switch.ofSpelling? (String.ofList ['-', c]) with
      | none => .error (.ignoredValue s (String.ofList (c :: rest)))
      | some next => do
        let more ← if rest.isEmpty then .ok (bare next) else joined next rest
        return { more with settings := (s, "") :: more.settings }

/-- What an option with an attached value stands for. -/
def ofSwitch (s : Switch) : Option Attached → Except UsageFault Cluster
  | none => .ok (bare s)
  | some (.assigned value) => assigned s value
  | some (.joined tail) => joined s tail

end Cluster

/-! ### Requests -/

/-- What is asked for on the command line. The component is a text unless its option was given no
values. -/
structure Request where
  schema : String
  component : Value
  config : Option String
  verbosity : Nat
  deriving Repr

/-- The value of an option. A separator attached to the option says that no values follow. -/
def optionValue (text : String) : Value := if text = "--" then .array [] else .string text

/-- The text of a value, if it is one. -/
def textValue? : Value → Option String
  | .string s => some s
  | _ => none

/-- Why there is no request. -/
inductive Halt where
  | help
  | version
  | usage (fault : UsageFault)
  deriving DecidableEq, Repr

/-- What is known of a request while its arguments are gone through. -/
structure Draft where
  schema : Option String := none
  component : Option Value := none
  config : Option String := none
  verbosity : Nat := 0
  /-- The arguments that nothing takes. -/
  extra : List String := []

namespace Draft

/-- A draft after an option. -/
def set (d : Draft) : Switch × String → Except Halt Draft
  | (.help, _) => .error .help
  | (.version, _) => .error .version
  | (.verbose, _) => .ok { d with verbosity := d.verbosity + 1 }
  | (.component, value) => .ok { d with component := some (optionValue value) }
  | (.config, value) => .ok { d with config := textValue? (optionValue value) }

/-- A draft after options. -/
def setAll (d : Draft) (settings : List (Switch × String)) : Except Halt Draft :=
  settings.foldlM set d

/-- A draft with arguments that nothing takes. -/
def addExtra (d : Draft) (words : List String) : Draft := { d with extra := d.extra ++ words }

/-- A draft after words. The first operand is the schema; a separator next to it goes with it. -/
def take (d : Draft) : List Word → Except Halt Draft
  | [] => .ok d
  | .operand text :: .separator :: rest =>
    if d.schema.isNone then take { d with schema := some text } rest
    else take (d.addExtra [text, "--"]) rest
  | .operand text :: rest =>
    if d.schema.isNone then take { d with schema := some text } rest
    else take (d.addExtra [text]) rest
  | .separator :: .operand text :: rest =>
    if d.schema.isNone then take { d with schema := some text } rest
    else take (d.addExtra ["--", text]) rest
  | .separator :: rest => take (d.addExtra ["--"]) rest
  | .unknown text :: rest => take (d.addExtra [text]) rest
  | .switch s attached :: rest =>
    match Cluster.ofSwitch s attached with
    | .error f => .error (.usage f)
    | .ok cluster =>
      match cluster.pending with
      | none =>
        match d.setAll cluster.settings with
        | .error h => .error h
        | .ok d => take d rest
      | some s =>
        match rest with
        | .operand value :: rest =>
          match d.setAll (cluster.settings ++ [(s, value)]) with
          | .error h => .error h
          | .ok d => take d rest
        | _ => .error (.usage (.expectedValue s))

/-- The request of a draft that has all that is required and nothing else. -/
def finish (d : Draft) : Except Halt Request :=
  match d.schema, d.component with
  | some schema, some component =>
    if d.extra.isEmpty then .ok ⟨schema, component, d.config, d.verbosity⟩
    else .error (.usage (.unrecognized d.extra))
  | schema, component =>
    .error (.usage (.required
      ((if schema.isNone then [operandTitle] else []) ++
        (if component.isNone then [Switch.component.title] else []))))

end Draft

/-- The request of an argument list. All arguments are taken as words before any has an effect. -/
def Request.ofArguments (arguments : List String) : Except Halt Request :=
  match Word.ofTexts arguments with
  | .error f => .error (.usage f)
  | .ok words => do
    let d ← Draft.take {} words
    d.finish

end NativeProps
