import TestImpact.CoverageEngine
import TestImpact.Dependency
import TestImpact.Execution.Job
import TestImpact.Execution.Session
import TestImpact.Layout
import TestImpact.Report.Reading

/-!
# A run from changed paths to a report

An `Engine` holds what stays the same during a run. `Engine.run` checks what must be true
before anything happens, warns about stale dependencies, resolves the changed paths, plans
the jobs, and collects what each of them left. A report that cannot be understood is the
failure of one job and nothing else.
-/

namespace TestImpact

/-- Everything that stays the same during a run. -/
structure Engine where
  config : Config
  layout : Layout
  runner : Runner
  onResult : TestResult → Action Unit := fun _ => pure ()
  emoji : Bool := true
  schedule : Schedule := .planned

/-- What became of a job: the results of its reports, or why they could not be understood. -/
inductive Collected where
  | results (found : List TestResult)
  | unreadable (failure : JobFailure)

namespace Collected

/-- The results of a job. -/
def found : Collected → List TestResult
  | .results found => found
  | .unreadable _ => []

/-- The failure of a job. -/
def failure? : Collected → Option JobFailure
  | .results _ => none
  | .unreadable failure => some failure

end Collected

/-- The report of a run from what became of its jobs. -/
def RunReport.ofCollected (stale : List String) (collected : List Collected) : RunReport :=
  { results := collected.flatMap Collected.found
    failures := collected.filterMap Collected.failure?
    stale }

namespace Engine

/-- How affected tests are found. -/
def resolver (engine : Engine) : Resolver :=
  { strategy := engine.config.strategy
    sourceRoot := engine.layout.sourceRoot
    testRoot := engine.layout.testRoot
    convention := engine.config.convention
    testKind := engine.config.testKind
    base := some engine.layout.root }

/-- What the interpreter says about its coverage engine, asked for once. -/
def engineState (engine : Engine) : Action EngineState := do
  match (← get).knowledge.engine with
  | some known => pure known
  | none =>
    let state ← CoverageEngine.probe engine.runner engine.config.interpreter
      (some { directory := some engine.layout.root })
    modify fun world => { world with knowledge := { world.knowledge with engine := some state } }
    pure state

/-- Refuses to go on when coverage is wanted and cannot be measured. -/
def checkPreconditions (engine : Engine) : Action Unit := do
  if engine.config.coverageEnabled then
    let state ← engine.engineState
    Action.ofExcept
      (CoverageEngine.require state engine.config.requiredModes engine.config.interpreter)

/-- The stale packages, with a warning about them. Names that are no texts cannot be shown. -/
def warnAbout (engine : Engine) (stale : List Value) : Action (List String) := do
  let names ← Action.ofExcept (Dependency.names stale)
  if !names.isEmpty then
    Action.report .warn (Dependency.warning names) engine.emoji
  pure names

/-- The stale packages. Manifests that cannot be used only make a warning. -/
def staleDependencies (engine : Engine) : Action (List String) := do
  let root := engine.layout.root
  let files := (← get).files
  match Dependency.check files (root / engine.config.lockFile)
    (root / engine.config.installedManifest) with
  | .ok stale => engine.warnAbout stale
  | .error (.manifest error) => do
    Action.report .warn ("Skipping dependency check: " ++ error.message) engine.emoji
    pure []
  | .error failure => Action.fail failure

/-- How commands are made. Inside a container the test runner has the name that is configured. -/
def builder (engine : Engine) : CommandBuilder :=
  let docker := engine.config.docker
  let configured := engine.config.binary.toString
  { binary := engine.layout.binary
    root := engine.layout.root
    runnerConfig := engine.layout.runnerConfig
    image := if docker.enabled then some docker.image else none
    binaryInside := match docker.binary with
      | none | some "" => if docker.enabled then some configured else none
      | some name => some name }

/-- The surroundings of session steps. -/
def stepOptions (engine : Engine) : ProcessOptions :=
  { directory := some engine.layout.root, timeout := engine.config.timeout }

/-- The surroundings of test processes: in a session they have variables of their own. -/
def testOptions (engine : Engine) : ProcessOptions :=
  if engine.config.session.enabled then
    { engine.stepOptions with
      bindings := some (ProcessOptions.overlaid none engine.config.session.testEnv) }
  else engine.stepOptions

/-- How jobs are planned and run. -/
def executor (engine : Engine) : Executor :=
  { builder := engine.builder
    place := ⟨engine.layout.reportsDirectory, engine.config.coverageEnabled⟩
    jobs := engine.config.effectiveJobs
    options := some engine.testOptions
    base := some engine.layout.root
    schedule := engine.schedule }

/-- Puts the commands of a session around a body, if there is a session. -/
def inSession {α : Type} (engine : Engine) (body : Action α) : Action α :=
  let session := engine.config.session
  if session.enabled then
    Session.around ⟨engine.runner, some engine.stepOptions, engine.emoji⟩
      (engine.builder.sessionCommand session.setup)
      (engine.builder.sessionCommand session.teardown) body
  else body

/-- The results of a completion, read from the reports that lie in the files. -/
def reading (engine : Engine) (files : FileSystem) (completion : Completion) :
    Counting (List TestResult) := do
  let (junit, clover) ← (completion.job.outputs.texts files : Except Failure _)
  Reading.results files engine.layout.root completion.job.testPath junit clover completion.err

/-- What a job left. -/
def collect (engine : Engine) (completion : Completion) : Action Collected := do
  let files := (← get).files
  match ← Action.counting (engine.reading files completion) with
  | .ok found => do
    found.forM engine.onResult
    pure (.results found)
  | .error (.report error) => do
    let testPath := completion.job.testPath
    Action.report .fail (testPath ++ ": " ++ error.message) engine.emoji
    pure (.unreadable ⟨testPath, error.message⟩)
  | .error failure => Action.fail failure

/-- The paths that are resolved: those that were changed, or the test root when everything is to
be run. -/
def startingPaths (engine : Engine) (paths : List String) (everything : Bool) :
    Action (List String) := do
  if everything then
    if engine.config.strategy.runsAll then pure [engine.layout.testRoot]
    else Action.fail (.usage (.cannotRunAll engine.config.strategy.name))
  else pure paths

/-- The jobs for the tests that some paths affect. -/
def plan (engine : Engine) (paths : List String) : Action (List Job) := do
  let files := (← get).files
  let affected ← Action.resolving (engine.resolver.resolve files paths)
  engine.builder.requireAvailable
  Action.ofExcept engine.executor.require
  engine.executor.plan affected

/-- What comes before the first process of a job: the stale packages, and the jobs. -/
def prepare (engine : Engine) (paths : List String) (everything : Bool) :
    Action (List String × List Job) := do
  engine.checkPreconditions
  let stale ← engine.staleDependencies
  let jobs ← engine.plan (← engine.startingPaths paths everything)
  pure (stale, jobs)

/-- Runs jobs and collects what each of them left. -/
def collectAll (engine : Engine) (jobs : List Job) : Action (List Collected) :=
  engine.executor.execute engine.runner jobs engine.collect

/-- Runs the tests that some paths affect, or all tests. -/
def run (engine : Engine) (paths : List String) (everything : Bool := false) :
    Action RunReport := do
  let (stale, jobs) ← engine.prepare paths everything
  let collected ← engine.inSession (engine.collectAll jobs)
  pure (RunReport.ofCollected stale collected)

end Engine

end TestImpact
