import NativeProps.Files.Tree
import NativeProps.Json.Reader
import NativeProps.Schema.Tag

/-!
# Failures

Why a request has no answer. A *fault* is a finding about the input, worded for the user by
`Fault.message`; the command line reports it. A *misuse* applies an operation to a value that does
not have it; it ends a run, and its words are those of the operation.

* `SchemaFault`, `ConfigFault`, `SourceFault`: faults of the schema data, of a configuration and of
  a schema file.
* `Fault`: all faults.
* `Misuse`: all misuses.
* `Failure`: a fault or a misuse.
-/

namespace NativeProps

/-! ### Schema data -/

/-- The place of a schema where something is required. -/
inductive Place where
  | type
  | property
  | namedProperty (name : Value)
  | variant (tag : Tag)
  deriving Repr

/-- A place in words. -/
def Place.text : Place → String
  | .type => "typeAnnotation"
  | .property => "property"
  | .namedProperty name => "property '" ++ name.text ++ "'"
  | .variant tag => tag.name

/-- What is wrong with the shape of schema data. -/
inductive SchemaFault where
  | expectedObject (place : Place) (found : Kind)
  | missingKey (key : String) (place : Place)
  | expectedProperties (found : Kind)
  deriving Repr

/-- A fault of schema data in words. -/
def SchemaFault.message : SchemaFault → String
  | .expectedObject place found => "Expected an object for " ++ place.text ++ ", got " ++ found.name
  | .missingKey key place => "Missing '" ++ key ++ "' in " ++ place.text
  | .expectedProperties found => "Expected a list of properties, got " ++ found.name

/-! ### Configurations -/

/-- What is wrong with a configuration. -/
inductive ConfigFault where
  | fileNotFound (path : Path)
  | notJsonFile (path : Path)
  | invalidJson (path : Path) (fault : ReadFault)
  | unreadable (path : Path) (fault : PathFault)
  | notObject (path : Path)
  | unwritable (path : Path) (fault : PathFault)
  | unknownKeys (keys : List String)
  | invalidValue (key : String)
  deriving Repr

/-- A fault of a configuration in words. -/
def ConfigFault.message : ConfigFault → String
  | .fileNotFound path => "Configuration file not found: " ++ path.text
  | .notJsonFile path => "Configuration file must be JSON: " ++ path.text
  | .invalidJson path fault =>
    "Invalid JSON in configuration file " ++ path.text ++ ": " ++ fault.message
  | .unreadable path fault =>
    "Failed to load configuration file " ++ path.text ++ ": " ++ fault.message
  | .notObject path => "Configuration file must contain a JSON object: " ++ path.text
  | .unwritable path fault =>
    "Failed to save configuration to " ++ path.text ++ ": " ++ fault.message
  | .unknownKeys keys => "Unknown configuration keys: " ++ ", ".intercalate keys
  | .invalidValue key => "Configuration value for '" ++ key ++ "' must be a non-empty string"

/-! ### Schema files -/

/-- What is wrong with a schema file. -/
inductive SourceFault where
  | fileNotFound (path : Path)
  | invalidJson (path : Path) (fault : ReadFault)
  | unreadable (path : Path) (fault : PathFault)
  | noProperties
  deriving Repr

/-- A fault of a schema file in words. -/
def SourceFault.message : SourceFault → String
  | .fileNotFound path => "File not found: " ++ path.text
  | .invalidJson path fault => "Invalid JSON in file " ++ path.text ++ ": " ++ fault.message
  | .unreadable path fault => "Error reading file " ++ path.text ++ ": " ++ fault.message
  | .noProperties => "Expected a list of props or an object with a 'props' list"

/-! ### All failures -/

/-- A kind of property that cannot do without a default. -/
inductive Need where
  | scalar (s : Scalar)
  | stringEnum
  | enumArray
  deriving DecidableEq, Repr

/-- A need in words. -/
def Need.text : Need → String
  | .scalar s => s.name
  | .stringEnum => Tag.stringEnum.name
  | .enumArray => "array " ++ Tag.stringEnum.name

/-- A finding about the input. -/
inductive Fault where
  | unknownType (value : Value)
  | unknownPrimitive (value : Value)
  | missingDefault (need : Need) (property : Value)
  | emptyWord
  | emptySegment (name : String)
  | schema (fault : SchemaFault)
  | config (fault : ConfigFault)
  | source (fault : SourceFault)
  deriving Repr

/-- A fault in words. -/
def Fault.message : Fault → String
  | .unknownType value => "Received invalid typeAnnotation: " ++ value.literal
  | .unknownPrimitive value => "Received invalid native primitive name: " ++ value.literal
  | .missingDefault need property =>
    "A default is required for " ++ need.text ++ " (prop '" ++ property.text ++ "')"
  | .emptyWord => "Cannot upper-case the first character of an empty string"
  | .emptySegment name =>
    "Cannot build an identifier from " ++ Text.quoted name ++ ": empty name segment"
  | .schema fault => fault.message
  | .config fault => fault.message
  | .source fault => fault.message

/-- An operation on a value that does not have it. -/
inductive Misuse where
  /-- A value is asked for a member that values of its kind do not have. -/
  | lacks (kind : Kind) (member : String)
  /-- A value that has no parts is asked for its first one. -/
  | notIndexed (kind : Kind)
  /-- The rest of an array is put behind a text. -/
  | notJoined
  /-- An object is asked for its first part. -/
  | noFirstMember
  /-- A value that is no sequence is gone through. -/
  | notSequence (kind : Kind)
  /-- An option of an enumeration has no name. -/
  | unnamedOption
  /-- A value that is no number and no text is read as a number. -/
  | notNumber (kind : Kind)
  /-- A text does not spell a number. -/
  | notNumeral (text : String)
  /-- A whole number is beyond the range of the doubles. -/
  | outOfRange
  /-- The bytes of a file are no text. -/
  | undecodable (fault : DecodeFault)
  /-- A text has no bytes. -/
  | unencodable (fault : EncodeFault)
  /-- A file cannot be opened or created. -/
  | unopened (refusal : Refusal) (path : String)
  /-- An override is no sequence. -/
  | overrideNotSequence (place : Nat)
  /-- An override is a sequence, but no pair. -/
  | overrideNotPair (place length : Nat)
  /-- The key of an override is a collection. -/
  | keyNotHashable (kind : Kind)
  /-- The key of an override is not a text. -/
  | keyNotText
  /-- A text does not name a log level. -/
  | unknownLevel (name : String)
  /-- A value that is no number and no text is given as a log level. -/
  | notLevel (value : Value)
  /-- The title of a report is no text. -/
  | titleNotText
  /-- A cell of a report is no text. -/
  | cellNotText
  deriving Repr

/-- A misuse in words, where these follow from it. Those for a text that cannot be printed are the
affair of the console, and those for a key that is no text depend on the order in which a set of
keys is gone through. -/
def Misuse.message? : Misuse → Option String
  | .lacks kind member =>
    some ("'" ++ kind.name ++ "' object has no attribute '" ++ member ++ "'")
  | .notIndexed kind => some ("'" ++ kind.name ++ "' object is not subscriptable")
  | .notJoined => some "can only concatenate str (not \"list\") to str"
  | .noFirstMember => some "0"
  | .notSequence kind => some ("'" ++ kind.name ++ "' object is not iterable")
  | .unnamedOption => some "'name'"
  | .notNumber kind =>
    some ("float() argument must be a string or a real number, not '" ++ kind.name ++ "'")
  | .notNumeral text => some ("could not convert string to float: " ++ Text.quoted text)
  | .outOfRange => some "int too large to convert to float"
  | .undecodable fault => some fault.message
  | .unencodable fault => some fault.message
  | .unopened refusal path => some (refusal.message path)
  | .overrideNotSequence place =>
    some ("cannot convert dictionary update sequence element #" ++ toString place ++
      " to a sequence")
  | .overrideNotPair place length =>
    some ("dictionary update sequence element #" ++ toString place ++ " has length " ++
      toString length ++ "; 2 is required")
  | .keyNotHashable kind => some ("unhashable type: '" ++ kind.name ++ "'")
  | .unknownLevel name => some ("Unknown level: " ++ Text.quoted name)
  | .notLevel value => some ("Level not an integer or a valid string: " ++ value.literal)
  | .keyNotText | .titleNotText | .cellNotText => none

/-- Why a request has no answer. -/
inductive Failure where
  | fault (fault : Fault)
  | misuse (misuse : Misuse)
  deriving Repr

/-- A failure in words, where these follow from it. -/
def Failure.message? : Failure → Option String
  | .fault f => some f.message
  | .misuse m => m.message?

end NativeProps
