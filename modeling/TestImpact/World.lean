import TestImpact.Display.Status
import TestImpact.Discovery.Resolver
import TestImpact.Process.Basic
import TestImpact.Process.Search
import TestImpact.Report.LineCount
import TestImpact.Result

/-!
# Actions and what they change

A `World` is everything an action can see and change: the files, the variables of the
environment, the clock, what was called and printed, which results were delivered, and
what was learned on the way and need not be found out again. An `Action` may end with a
failure; what it changed before stays changed.
-/

namespace TestImpact

/-- What an interpreter says about its coverage engine. -/
structure EngineState where
  loaded : Bool
  modes : List String := []
  deriving DecidableEq, Repr

/-- What was found out during a run and is kept. -/
structure Knowledge where
  engine : Option EngineState := none
  index : Memory := none
  lineCounts : LineCounts := []

/-- Everything that actions see and change. -/
structure World where
  files : FileSystem := .empty
  environment : List (String × String) := []
  terminal : Terminal := {}
  clock : List Float := []
  output : String := ""
  calls : List Call := []
  delivered : List TestResult := []
  knowledge : Knowledge := {}

/-- Something that is done in a world and may fail. -/
abbrev Action := ExceptT Raised (StateM World)

namespace Action

/-- Ends an action. -/
def fail {α : Type} (failure : Failure) : Action α :=
  throw (failure : Raised)

/-- The value of something that may have failed. -/
def ofExcept {α : Type} : Except Failure α → Action α
  | .ok a => pure a
  | .error failure => fail failure

/-- What comes of an action, a failure included. The action itself cannot fail any more. -/
def attempt {α : Type} (action : Action α) : Action (Except Raised α) :=
  tryCatch (Except.ok <$> action) fun raised => pure (.error raised)

/-- Ends as something did that was attempted before. -/
def release {α : Type} : Except Raised α → Action α
  | .ok a => pure a
  | .error raised => throw raised

/-- Asks the file system. -/
def ask {α : Type} (question : FileSystem → Except Fault α) : Action α := do
  ofExcept (orFailure (question (← get).files))

/-- Changes the file system. -/
def change (operation : FileSystem → Except Fault FileSystem) : Action Unit := do
  let files ← ask operation
  modify fun world => { world with files }

/-- The next reading of the clock; zero when there is none. -/
def tick : Action Float := do
  let world ← get
  set { world with clock := world.clock.drop 1 }
  pure (world.clock.headD 0)

/-- Sends a text to the output. -/
def print (text : String) : Action Unit :=
  modify fun world => { world with output := world.output ++ text }

/-- Sends a status line to the output. Without a wish about colours the terminal decides. -/
def report (level : Level) (message : String) (emoji : Bool) (coloured : Option Bool := none) :
    Action Unit := do
  print (Status.line (← get).terminal level message emoji coloured)

/-- Sends a styled text to the output, in its colours if they are wanted and can be seen. -/
def display (text : StyledText) (coloured : Bool) : Action Unit := do
  let terminal := (← get).terminal
  print (terminal.show (coloured && terminal.isTerminal) text)

/-- Sends an empty line and a heading to the output. -/
def heading (title : String) (coloured : Bool) (detail : Option String) : Action Unit := do
  let terminal := (← get).terminal
  print (terminal.show false [])
  print (← ofExcept (Status.heading terminal coloured title detail))

/-- Calls a program. -/
def call (runner : Runner) (command : Call) : Action (Except Refusal Finished) := do
  let world ← get
  let (reply, files) := runner world.calls command world.files
  set { world with files, calls := world.calls ++ [command] }
  match reply with
  | .finished process => pure (.ok process)
  | .notStarted refusal => pure (.error refusal)
  | .broken failure => fail failure

/-- Does something with the index of tests. -/
def resolving {α : Type} (action : Resolving α) : Action α := do
  let world ← get
  let (outcome, index) := action.run world.knowledge.index
  set { world with knowledge := { world.knowledge with index } }
  ofExcept outcome

/-- Does something with the line counts. -/
def counting {α : Type} (action : Counting α) : Action (Except Failure α) := do
  let world ← get
  let (outcome, lineCounts) := action.run world.knowledge.lineCounts
  set { world with knowledge := { world.knowledge with lineCounts } }
  pure outcome

/-- Notes that a result was delivered. -/
def deliver (result : TestResult) : Action Unit :=
  modify fun world => { world with delivered := world.delivered ++ [result] }

/-- The program that a name stands for. -/
def findProgram (name : String) : Action (Option String) := do
  let world ← get
  pure (Search.find? world.files ((world.environment.lookup "PATH").getD "") name)

end Action

end TestImpact
