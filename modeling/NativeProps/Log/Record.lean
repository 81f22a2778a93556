/-!
# Log records

* `Level`: how grave a record is.
* `Logger`: the part of the program that writes a record, with the name it goes by.
* `Record`: one line of the log.
-/

namespace NativeProps

/-- How grave a record is. -/
inductive Level where
  | debug
  | info
  | warning
  | error
  deriving DecidableEq, Repr

namespace Level

/-- The name of a level. -/
def name : Level → String
  | .debug => "DEBUG"
  | .info => "INFO"
  | .warning => "WARNING"
  | .error => "ERROR"

/-- The number of a level; graver levels have greater numbers. -/
def number : Level → Int
  | .debug => 10
  | .info => 20
  | .warning => 30
  | .error => 40

end Level

/-- The name of the logger above all others. -/
def rootLogger : String := "prop_codegen"

/-- A part of the program that writes records. -/
inductive Logger where
  | schema
  | config
  | types
  | headers
  | defaults
  | files
  | commandLine
  deriving DecidableEq, Repr

/-- The name of a logger below the root logger. -/
def Logger.suffix : Logger → String
  | .schema => "core.schema"
  | .config => "core.config"
  | .types => "cpp.types"
  | .headers => "cpp.imports"
  | .defaults => "cpp.defaults"
  | .files => "utils"
  | .commandLine => "cli"

/-- The full name of a logger. -/
def Logger.name (l : Logger) : String := rootLogger ++ "." ++ l.suffix

/-- One line of the log. -/
structure Record where
  level : Level
  logger : Logger
  message : String
  deriving DecidableEq, Repr

end NativeProps
