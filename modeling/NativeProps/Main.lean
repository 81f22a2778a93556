import NativeProps.CommandLine.Run
import NativeProps.Console.Screen

/-!
# The program

* `readEntry`: what is at a path.
* `snapshot`: the tree of the files that a request names.
* `consoleWidth`: the width that a report is set for.
* `program`, `main`: runs the command on its arguments. Log records go to the error stream.
-/

namespace NativeProps

/-- What is at a path, as far as it can be read. -/
def readEntry (path : String) : IO (Option Entry) := do
  let here ← IO.currentDir
  if ← (here / path).isDir then return some .directory
  match ← (IO.FS.readBinFile path).toBaseIO with
  | .ok bytes => return some (.file bytes)
  | .error _ => return none

/-- The tree of the files that a request names. -/
def snapshot (r : Request) : IO FileTree := do
  let start := ((← IO.currentDir).toString.splitOn "/").filter (· ≠ "")
  (r.schema :: r.config.toList).foldlM (fun t path => do
    match ← readEntry path with
    | some e => return (t.place path e).1
    | none => return t) { entries := [], start }

/-- The tree that a run on arguments can look at. -/
def visibleFiles (arguments : List String) : IO FileTree :=
  match Request.ofArguments arguments with
  | .ok r => snapshot r
  | .error _ => return .empty

/-- Writes the texts of an exit to the streams, for a console of a width. -/
def finish (width : Nat) : Exit → IO UInt32
  | .usage code stdout stderr => do
    IO.print stdout
    IO.eprint stderr
    return code.toUInt32
  | .report code printed => do
    IO.print (Console.screen width printed)
    return code.toUInt32

/-- The width of the console, as far as it is known. -/
def consoleWidth : IO Nat := do
  let columns ← IO.getEnv "COLUMNS"
  return (columns.bind String.toNat?).getD 80

/-- Runs the command on arguments. -/
def program (arguments : List String) : IO UInt32 := do
  let files ← visibleFiles arguments
  let outcome := CommandLine.run files arguments
  for r in outcome.records do
    IO.eprintln (r.level.name ++ " " ++ r.logger.name ++ ": " ++ r.message)
  match outcome.result with
  | .ok e => finish (← consoleWidth) e
  | .error f =>
    IO.eprintln (f.message?.getD "A value that is no text cannot be printed.")
    return 1

end NativeProps

/-- The entry point of the command. -/
def main (arguments : List String) : IO UInt32 := NativeProps.program arguments
