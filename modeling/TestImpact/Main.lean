import TestImpact.CommandLine.Program
import TestImpact.Document.Json
import TestImpact.FileSystem.Snapshot
import TestImpact.Process.Spawn

/-!
# The program on its own

The project is read from the standard input: a JSON document with the tree of files
(`files`), the working directory (`cwd`) and the variables of the environment (`env`).
Test processes run on a machine that holds this tree. The output goes to the standard
output, and the exit status is that of the program.
-/

namespace TestImpact

/-- The text entries of a table. -/
def textEntries (document : Value) (key : String) : List (String × String) :=
  match document.field? key with
  | some (.table entries) => entries.filterMap fun
    | (name, .string text) => some (name, text)
    | _ => none
  | _ => []

/-- The search path where the document names none. -/
def usualSearchPath : String := "/usr/bin:/bin"

/-- The world that a document describes. Paths in it start at its working directory. -/
def World.ofDocument (document : Value) : World :=
  let directory := Path.ofString ((Snapshot.text? document "cwd").getD "/")
  let files : FileSystem := Machine.installTools .empty
  let files := Snapshot.put files directory .directory
  let described := match document.field? "files" with
    | some (.table entries) => entries
    | _ => []
  let given := textEntries document "env"
  { files := Snapshot.enter (Snapshot.load files directory described) directory
    environment := if (given.lookup "PATH").isSome then given
      else ("PATH", usualSearchPath) :: given
    terminal := ⟨false, 80⟩ }

/-- Runs the program in a world: the output, what is said about a failure, and the status. -/
def runProgram (world : World) (arguments : List String) : String × Option String × Nat :=
  match (CommandLine.program (spawn world.environment) arguments).run.run world with
  | (.ok status, world) => (world.output, none, status)
  | (.error raised, world) =>
    (world.output, some raised.failure.message, CommandLine.statusFailures)

end TestImpact

/-- Reads the standard input to its end. -/
partial def readAll (input : IO.FS.Stream) (before : String) : IO String := do
  let line ← input.getLine
  if line.isEmpty then pure before else readAll input (before ++ line)

def main (arguments : List String) : IO UInt32 := do
  let text ← readAll (← IO.getStdin) ""
  match TestImpact.Json.parse text with
  | .error error => do
    IO.eprintln s!"Unable to parse the project: {error.message}"
    pure (UInt32.ofNat TestImpact.CommandLine.statusUsage)
  | .ok document =>
    let (output, failure, status) := TestImpact.runProgram (.ofDocument document) arguments
    IO.print output
    if let some message := failure then IO.eprintln message
    pure (UInt32.ofNat status)
