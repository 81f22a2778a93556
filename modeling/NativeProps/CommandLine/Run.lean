import NativeProps.CommandLine.Arguments
import NativeProps.Config.Storage
import NativeProps.Console.Printing
import NativeProps.Declaration.Header
import NativeProps.Declaration.Summary
import NativeProps.Log.Setup
import NativeProps.Schema.Conversion
import NativeProps.Schema.File

/-!
# The command

* `Exit`: how a run ends: with text for the two streams if the arguments end it, with what is
  printed on the console if a report was asked for.
* `findings`: all that a report shows, stage by stage; the first stage that fails decides.
* `printFindings`, `faultLine`: what is printed of findings and of a fault.
* `report`: a report, with a fault turned into a line and exit code one.
* `CommandLine.run`: a whole run on an argument list.
-/

namespace NativeProps

/-- How a run ends. -/
inductive Exit where
  | usage (code : Nat) (stdout stderr : String)
  | report (code : Nat) (printed : List Console.Item)
  deriving DecidableEq, Repr

namespace CommandLine

/-! ### Fixed texts -/

/-- The name of the command. -/
def commandName : String := "prop-codegen"

/-- The version of the command. -/
def versionText : String := commandName ++ " 0.1.0\n"

/-- How the command is used. -/
def usageText : String :=
  "usage: prop-codegen [-h] --component NAME [--config FILE] [--verbose]\n" ++
  "                    [--version]\n" ++
  "                    SCHEMA\n"

/-- What the command does and takes. -/
def helpText : String :=
  usageText ++
  "\n" ++
  "Show the C++ types, defaults and includes derived from component props\n" ++
  "\n" ++
  "positional arguments:\n" ++
  "  SCHEMA                JSON file with a list of props\n" ++
  "\n" ++
  "options:\n" ++
  "  -h, --help            show this help message and exit\n" ++
  "  --component NAME, -c NAME\n" ++
  "                        Component name used to build enum and struct names\n" ++
  "  --config FILE         JSON configuration file\n" ++
  "  --verbose, -v         Increase log verbosity\n" ++
  "  --version             show program's version number and exit\n"

/-- The end of a run without a request. -/
def haltExit : Halt → Exit
  | .help => .usage 0 helpText ""
  | .version => .usage 0 versionText ""
  | .usage f => .usage 2 "" (usageText ++ commandName ++ ": error: " ++ f.message ++ "\n")

/-! ### Reports -/

/-- What a report shows. -/
structure Findings where
  summaries : List Summary
  headers : List String

/-- The findings of a request. -/
def findings (files : FileTree) (r : Request) : Outcome Findings := do
  let config ← Config.load files {} r.config .null
  let document ← Schema.load files r.schema
  let items ← Schema.extractProperties document
  let properties ← Schema.readProperties (.array items)
  let summaries ← describe r.component.text config properties
  let headers ← headers config properties
  return ⟨summaries, headers⟩

/-- The cell of a text that may be missing. -/
def cell (s : String) : Console.Cell := if s.isEmpty then ⟨"—", "dim"⟩ else ⟨s, ""⟩

/-- The row of a summary, whose name has to be a text. -/
def summaryRow (s : Summary) : Except Failure (List Console.Cell) :=
  match s.name with
  | .string name => .ok [⟨name, ""⟩, ⟨s.tag.name, ""⟩, cell (s.type?.getD ""), cell s.initializer]
  | _ => .error (.misuse .cellNotText)

/-- The title of the report on a component, which has to be a text. -/
def reportTitle : Value → Except Failure (List Console.Part)
  | .string name => .ok [.text "📋 ", .escaped name, .text " props"]
  | _ => .error (.misuse .titleNotText)

/-- The table of a report. -/
def reportTable (title : List Console.Part) (rows : List (List Console.Cell)) : Table where
  title := title
  titleStyle := "bold cyan"
  columns := [⟨"Prop", "bold green", false⟩, ⟨"Annotation", "dim", true⟩,
    ⟨"C++ type", "cyan", true⟩, ⟨"Default", "blue", true⟩]
  rows := rows

/-- The section of a report that lists the headers. -/
def headerSection : List String → List Console.Item
  | [] => [.markup [.text "\n", .styled "dim" "No includes needed"]]
  | headers =>
    .markup [.text "\n", .styled "bold" "Includes:"] :: headers.map fun h => .plain ("  " ++ h)

/-- Prints the findings on a component. -/
def printFindings (component : Value) (f : Findings) : Printing Unit := do
  let title ← reportTitle component
  let rows ← (f.summaries.mapM summaryRow : Except Failure (List (List Console.Cell)))
  Printing.print [.blank]
  Printing.print [.table (reportTable title rows)]
  Printing.print (headerSection f.headers)

/-- The line for a fault. -/
def faultLine (f : Fault) : Console.Item :=
  .markup [.styled "red" "✗ Error:", .text " ", .escaped f.message]

/-- The report of a request. It comes to an exit code. -/
def report (files : FileTree) (r : Request) : Printing Nat :=
  let found := findings files r
  match found.result with
  | .error (.fault f) => do
    Outcome.mk found.records (.ok ())
    Outcome.log .error .commandLine ("Failed to process " ++ r.schema ++ ": " ++ f.message)
    Printing.print [faultLine f]
    return 1
  | _ => do
    printFindings r.component (← found)
    return 0

/-- The threshold of the log for a number of requests for more. -/
def threshold (verbosity : Nat) : Threshold :=
  .number (if verbosity = 0 then Level.warning else if verbosity = 1 then .info else .debug).number

/-- An outcome with the records that a threshold keeps. -/
def kept {α : Type} (t : Threshold) (x : Outcome α) : Outcome α :=
  ⟨x.records.filter fun r => t.keeps r.level, x.result⟩

/-- A run on an argument list. -/
def run (files : FileTree) (arguments : List String) : Outcome Exit :=
  match Request.ofArguments arguments with
  | .error h => return haltExit h
  | .ok r =>
    let reported := report files r
    kept (threshold r.verbosity) ((Exit.report · reported.printed) <$> reported.outcome)

end CommandLine

end NativeProps
