import TestImpact.Execution.Command

/-!
# Jobs

Each affected test file that exists becomes one job, however often and under whatever
spelling it is affected. Jobs are run one at a time in the order of the plan, or several
at a time. What a parallel run does when is up to the system and given by a `Schedule`: in
any order the processes of the jobs end, and in any order what they left is handed on,
each job once and after its process.
-/

namespace TestImpact

/-- One run of the test runner. -/
structure Job where
  testPath : String
  outputs : Outputs
  command : List String
  deriving DecidableEq, Repr

/-- What the process of a job left. -/
structure Completion where
  job : Job
  status : Int
  out : String
  err : String
  elapsed : Float

/-- What a call of a job left. A process that could not be started is a completion like any
other. -/
def Completion.of (job : Job) (elapsed : Float) : Except Refusal Finished → Completion
  | .ok process => ⟨job, process.status, process.out.getD "", process.err.getD "", elapsed⟩
  | .error refusal => ⟨job, refusedStatus, "", refusal.message, elapsed⟩

/-- A turn of a parallel run: the process of a job ends, or what it left is handed on. -/
inductive Turn where
  | ends (job : Job)
  | handed (job : Job)
  deriving DecidableEq, Repr

namespace Turn

/-- The job whose process ends. -/
def ended? : Turn → Option Job
  | ends job => some job
  | handed _ => none

/-- The job whose completion is handed on. -/
def handed? : Turn → Option Job
  | ends _ => none
  | handed job => some job

/-- The turns in which every job is handed on before the next one is run. -/
def oneByOne (jobs : List Job) : List Turn :=
  jobs.flatMap fun job => [ends job, handed job]

end Turn

/-- The jobs whose processes end, in the order in which they do. -/
def endedIn (turns : List Turn) : List Job :=
  turns.filterMap Turn.ended?

/-- The jobs that are handed on, in the order in which they are. -/
def handedIn (turns : List Turn) : List Job :=
  turns.filterMap Turn.handed?

/-- Does every job that is handed on have a process that ended before and is not handed on yet? -/
def Turn.Ordered (turns : List Turn) : Prop :=
  ∀ before job after, turns = before ++ .handed job :: after →
    before.count (.handed job) < before.count (.ends job)

/-- The turns of parallel runs. -/
structure Schedule where
  turns : List Job → List Turn
  ended : ∀ jobs, (endedIn (turns jobs)).Perm jobs
  handed : ∀ jobs, (handedIn (turns jobs)).Perm jobs
  ordered : ∀ jobs, Turn.Ordered (turns jobs)

theorem endedIn_oneByOne (jobs : List Job) : endedIn (Turn.oneByOne jobs) = jobs := by
  induction jobs with
  | nil => rfl
  | cons job rest ih => exact congrArg (job :: ·) ih

theorem handedIn_oneByOne (jobs : List Job) : handedIn (Turn.oneByOne jobs) = jobs := by
  induction jobs with
  | nil => rfl
  | cons job rest ih => exact congrArg (job :: ·) ih

theorem ordered_oneByOne (jobs : List Job) : Turn.Ordered (Turn.oneByOne jobs) := by
  induction jobs with
  | nil =>
    intro before job after eq
    cases before <;> cases eq
  | cons first rest ih =>
    intro before job after eq
    have eq : Turn.ends first :: Turn.handed first :: Turn.oneByOne rest =
        before ++ .handed job :: after := eq
    match before, eq with
    | [_], eq =>
      cases eq
      simp
    | _ :: _ :: before, eq =>
      simp only [List.cons_append, List.cons.injEq] at eq
      obtain ⟨rfl, rfl, eq⟩ := eq
      have later := ih before job after eq
      by_cases same : first = job <;> simp [same] <;> omega

/-- Every job is handed on before the process of the next one in the plan ends. -/
def Schedule.planned : Schedule where
  turns := Turn.oneByOne
  ended jobs := .of_eq (endedIn_oneByOne jobs)
  handed jobs := .of_eq (handedIn_oneByOne jobs)
  ordered := ordered_oneByOne

instance : Inhabited Schedule := ⟨.planned⟩

/-- How jobs are planned and run. -/
structure Executor where
  builder : CommandBuilder
  place : ReportPlace
  jobs : Int := 4
  options : Option ProcessOptions := none
  base : Option Path := none
  schedule : Schedule := .planned

namespace Executor

/-- Where a test file is found. -/
def located (base : Option Path) (testPath : String) : Path :=
  match base with
  | some base => base / Path.ofString testPath
  | none => Path.ofString testPath

/-- The spelling under which test files are compared. -/
def identity (base : Option Path) (testPath : String) : String :=
  Lexical.normalise (located base testPath).toString

/-- Goes on with a list of test files by the first of each identity that is not yet known. -/
def addUnique (base : Option Path) (known : List String) : List String → List String
  | [] => []
  | testPath :: rest =>
    let key := identity base testPath
    if known.contains key then addUnique base known rest
    else testPath :: addUnique base (key :: known) rest

/-- The affected test files, each under the spelling met first. -/
def uniqueTests (base : Option Path) (affected : Affected) : List String :=
  addUnique base [] (affected.flatMap Prod.snd)

/-- Refuses a number of jobs below one. -/
def require (executor : Executor) : Except Failure Unit :=
  if executor.jobs < 1 then .error (.argument .noJobs) else .ok ()

/-- Makes empty files where a container is to write its reports. -/
def touchOutputs (outputs : Outputs) : Action Unit := do
  Action.change (·.touch outputs.junit)
  if let some clover := outputs.clover then Action.change (·.touch clover)

/-- The job of a test file. -/
def jobOf (executor : Executor) (testPath : String) : Action Job := do
  let outputs ← executor.place.allocate testPath
  if executor.builder.usesDocker then touchOutputs outputs
  pure ⟨testPath, outputs, executor.builder.build testPath outputs⟩

/-- The jobs of those test files that exist. -/
def planTests (executor : Executor) : List String → Action (List Job)
  | [] => pure []
  | testPath :: rest => do
    if ← Action.ask (·.isFile (located executor.base testPath)) then
      let job ← executor.jobOf testPath
      pure (job :: (← executor.planTests rest))
    else executor.planTests rest

/-- The jobs of the affected test files. There must be one. -/
def plan (executor : Executor) (affected : Affected) : Action (List Job) := do
  match ← executor.planTests (uniqueTests executor.base affected) with
  | [] => Action.fail (.usage .noTests)
  | jobs => pure jobs

/-- The call that runs a job. -/
def callOf (executor : Executor) (job : Job) : Call :=
  ⟨job.command, executor.options⟩

/-- Runs a job. -/
def runJob (executor : Executor) (runner : Runner) (job : Job) : Action Completion := do
  let started ← Action.tick
  let reply ← Action.call runner (executor.callOf job)
  let elapsed := (← Action.tick) - started
  pure (.of job elapsed reply)

/-- Are jobs run one at a time? -/
def isSerial (executor : Executor) (jobs : List Job) : Bool :=
  executor.jobs = 1 || jobs.length ≤ 1

/-- Runs jobs and hands each completion on, before the next job is run. -/
def runEach {α : Type} (executor : Executor) (runner : Runner) (hand : Completion → Action α) :
    List Job → Action (List α)
  | [] => pure []
  | job :: rest => do
    let first ← hand (← executor.runJob runner job)
    pure (first :: (← executor.runEach runner hand rest))

/-- What became of processes that ended and is not handed on yet. -/
abbrev Waiting := List (Job × Except Raised Completion)

/-- Takes turns. What breaks a process off comes out when its completion is to be handed on, and
ends the run; a process that ends after that might as well have ended before. -/
def runTurns {α : Type} (executor : Executor) (runner : Runner) (hand : Completion → Action α) :
    Waiting → List Turn → Action (List α)
  | _, [] => pure []
  | waiting, .ends job :: rest => do
    let outcome ← Action.attempt (executor.runJob runner job)
    executor.runTurns runner hand (waiting ++ [(job, outcome)]) rest
  | waiting, .handed job :: rest =>
    match waiting.lookup job with
    | none => executor.runTurns runner hand waiting rest
    | some outcome => do
      let first ← hand (← Action.release outcome)
      pure (first :: (← executor.runTurns runner hand (waiting.eraseP (·.1 = job)) rest))

/-- Runs all jobs and hands each completion on when its process has ended. Gives what became of
the completions. -/
def execute {α : Type} (executor : Executor) (runner : Runner) (jobs : List Job)
    (hand : Completion → Action α) : Action (List α) :=
  if executor.isSerial jobs then executor.runEach runner hand jobs
  else executor.runTurns runner hand [] (executor.schedule.turns jobs)

end Executor

end TestImpact
