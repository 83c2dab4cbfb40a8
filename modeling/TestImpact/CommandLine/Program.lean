import TestImpact.CommandLine.Options
import TestImpact.Config.Load
import TestImpact.Display.Results
import TestImpact.Engine
import TestImpact.Report.Export

/-!
# The program

`program` does what the arguments ask for and ends with an exit status: zero when all is
well (also when there is nothing to run), one when tests failed or dependencies are stale,
and two when the caller has to mend something first. Any other failure leaves the program.
-/

namespace TestImpact.CommandLine

/-- All is well. -/
def statusFine : Nat := 0

/-- Tests failed, or packages are stale. -/
def statusFailures : Nat := 1

/-- The caller has to mend something. -/
def statusUsage : Nat := 2

/-- Is a failure one that the caller can mend? -/
def isUsage : Failure → Bool
  | .config _ | .usage _ => true
  | _ => false

/-- Reports a failure that the caller can mend, and lets every other one out. -/
def mending (flags : RunFlags) (action : Action Nat) : Action Nat :=
  tryCatch action fun raised =>
    if isUsage raised.failure then do
      Action.report .fail raised.failure.message flags.emoji (some flags.colour)
      pure statusUsage
    else throw raised

/-- The configuration of a project and the places of its parts. -/
def loadProject (options : RunOptions) : Action (Config × Layout) := do
  let world ← get
  let config ← Action.ofExcept
    (Config.load world.files options.root world.environment options.overrides)
  let layout ← Action.ofExcept (Layout.ofConfig world.files config options.root true)
  pure (config, layout)

/-- The line about a run that is printed on demand. -/
def debugLine (config : Config) (layout : Layout) : StyledText :=
  StyledText.styled "[debug] " { Style.ofHue .cyan with emphases := [(.bold, true)] } ++
    StyledText.styled
      s!"root={layout.root} strategy={config.strategy.name} jobs={config.effectiveJobs}"
      { emphases := [(.dim, true)] }

/-- Prints what is said at the end of a run, and writes the report to a file if that is asked
for. -/
def finish (flags : RunFlags) (report : RunReport) : Action Unit := do
  (Results.closing report).forM (Action.display · flags.colour)
  if let some destination := flags.export_ then
    Action.change (Export.write · report destination)
    Action.report .ok s!"Wrote JSON report to {destination}" flags.emoji (some flags.colour)

/-- The engine of a run, which prints a mark for every result. -/
def engineOf (runner : Runner) (schedule : Schedule) (flags : RunFlags) (config : Config)
    (layout : Layout) : Engine :=
  { config, layout, runner, schedule
    onResult := fun result => Action.print result.outcome.mark
    emoji := flags.emoji }

/-- Prints what is said before the tests are run. -/
def announce (flags : RunFlags) (config : Config) (layout : Layout) : Action Unit := do
  if flags.debug then Action.display (debugLine config layout) flags.colour
  Action.display (Results.header config.name) flags.colour

/-- Runs the tests that some paths affect and gives the status that their report deserves. It is a
good end if there is nothing to run. -/
def runAffected (engine : Engine) (flags : RunFlags) (paths : List String) : Action Nat := do
  let outcome ← tryCatch (some <$> engine.run paths flags.everything) fun raised =>
    match raised.failure with
    | .usage .noTests => do
      Action.report .warn (UsageError.message .noTests) flags.emoji (some flags.colour)
      pure none
    | _ => throw raised
  match outcome with
  | none => pure statusFine
  | some report => do
    finish flags report
    pure (if report.hasFailures then statusFailures else statusFine)

/-- Runs the tests and prints what became of them. -/
def runTests (runner : Runner) (schedule : Schedule) (flags : RunFlags) (options : RunOptions) :
    Action Nat := do
  let (config, layout) ← loadProject options
  announce flags config layout
  runAffected (engineOf runner schedule flags config layout) flags options.paths

/-- The command `run`. Somebody has to say what is to be run. -/
def run (runner : Runner) (schedule : Schedule) (flags : RunFlags) (paths : List String) :
    Action Nat := do
  let options ← Action.ofExcept (RunOptions.ofFlags (← get).files flags paths)
  if options.paths.isEmpty && !flags.everything then
    Action.report .fail "Pass at least one path or use --everything." flags.emoji
      (some flags.colour)
    pure statusUsage
  else mending flags (runTests runner schedule flags options)

/-- Prints which packages are stale. -/
def listStale (root : Path) : Action (List Value) := do
  let world ← get
  let config ← Action.ofExcept (Config.load world.files root world.environment [])
  Action.heading "Composer dependencies" true (some config.lockFile.toString)
  Action.ofExcept
    (Dependency.check world.files (root / config.lockFile) (root / config.installedManifest))

/-- The command `stale`. -/
def stale (flags : StaleFlags) : Action Nat := do
  let root ← match (← get).files.resolve flags.root with
    | .ok root => pure root
    | .error circle => Action.fail (.linkCircle circle)
  let found ← tryCatch (some <$> listStale root) fun raised =>
    match raised.failure with
    | .config _ | .manifest _ => do
      Action.report .fail raised.failure.message flags.emoji (some true)
      pure none
    | _ => throw raised
  match found with
  | none => pure statusUsage
  | some [] => do
    Action.report .ok "Composer dependencies are up-to-date." flags.emoji (some true)
    pure statusFine
  | some packages => do
    let names ← Action.ofExcept (Dependency.names packages)
    Action.report .warn (Dependency.warning names) flags.emoji (some true)
    pure statusFailures

/-- Does what the arguments ask for. Parallel runs follow the schedule. -/
def program (runner : Runner) (arguments : List String) (schedule : Schedule := .planned) :
    Action Nat :=
  match Command.read? arguments with
  | none => pure statusUsage
  | some (.run flags paths) => run runner schedule flags paths
  | some (.stale flags) => stale flags

end TestImpact.CommandLine
