import Mathlib.Data.List.Nodup
import Mathlib.Data.List.Pairwise
import TestImpact.Proofs.Engine.Course
import TestImpact.Proofs.Execution.Outputs
import TestImpact.Proofs.SmallProject

/-!
# Runs that do not depend on the order of completions

Jobs share one line-count cache, one directory of reports and one listener. If each job
writes its own reports and its process answers for itself alone (`Engine.Independent`), then
none of this can be told from the outcome. Whatever order a schedule chooses, each job is run
once and collected once, what is collected of a job is the same, and the listener hears
exactly the results of the report.

The invariant `Independent.Holds` is what a run of such jobs keeps from turn to turn: the
reports of every process that waits are still the ones that it wrote, and the line counts
that are known have changed no answer about a source file that some report names.
-/

namespace TestImpact

namespace Engine

/-- The calls and the files that there can be while jobs are run, in any order and any number of
times. -/
inductive During (runner : Runner) (callOf : Job → Call) (jobs : List Job) (calls : List Call)
    (files : FileSystem) : List Call → FileSystem → Prop
  | start : During runner callOf jobs calls files calls files
  | step {earlier : List Call} {now : FileSystem} {job : Job} : job ∈ jobs →
      During runner callOf jobs calls files earlier now →
      During runner callOf jobs calls files (earlier ++ [callOf job])
        (runner earlier (callOf job) now).2

/-- What is collected of a job is decided by the reading of it. -/
def collectedOf (job : Job) : Except Failure (List TestResult) → Collected
  | .ok found => .results found
  | .error failure => .unreadable ⟨job.testPath, failure.message⟩

/-- Jobs that have nothing to do with each other, seen from the world before they are run. The
process of a job answers and leaves reports as the job alone decides, writes no report of another
job and no source file that a report names, and stays where it is. What a job left can be read, or
is reported; and somebody who listens to results only notes them, and may print something. -/
structure Independent (engine : Engine) (jobs : List Job) (start : World) where
  answer : Job → Except Refusal Finished
  reports : Job → String × Option String
  distinct : (jobs.flatMap fun job => job.outputs.paths).Nodup
  answers : ∀ job ∈ jobs, ∀ {earlier files},
    During engine.runner engine.executor.callOf jobs start.calls start.files earlier files →
      (engine.runner earlier (engine.executor.callOf job) files).1 = .answered (answer job)
  writes : ∀ job ∈ jobs, ∀ {earlier files},
    During engine.runner engine.executor.callOf jobs start.calls start.files earlier files →
      job.outputs.texts (engine.runner earlier (engine.executor.callOf job) files).2 =
        .ok (reports job)
  keeps : ∀ job ∈ jobs, ∀ {earlier files},
    During engine.runner engine.executor.callOf jobs start.calls start.files earlier files →
      ∀ other ∈ jobs, ∀ path ∈ other.outputs.paths, path ∉ job.outputs.paths →
        (engine.runner earlier (engine.executor.callOf job) files).2.readText path =
          files.readText path
  sources : ∀ job ∈ jobs, ∀ {earlier files},
    During engine.runner engine.executor.callOf jobs start.calls start.files earlier files →
      ∀ other ∈ jobs,
        ∀ path ∈ (reports other).2.toList.flatMap
          (Clover.named start.files.cwd engine.layout.root),
        LineCounts.read (engine.runner earlier (engine.executor.callOf job) files).2
          engine.layout.root path = LineCounts.read files engine.layout.root path
  stays : ∀ job ∈ jobs, ∀ {earlier files},
    During engine.runner engine.executor.callOf jobs start.calls start.files earlier files →
      (engine.runner earlier (engine.executor.callOf job) files).2.workingDirectory =
        files.workingDirectory
  readable : ∀ job ∈ jobs, ∀ failure,
    Reading.outcome start.files engine.layout.root start.knowledge.lineCounts job.testPath
        (reports job).1 (reports job).2 (Completion.of job 0 (answer job)).err = .error failure →
      ∃ error, failure = .report error
  listens : ∀ result before, ∃ output, (engine.onResult result).Returns before ()
    { before with output, delivered := before.delivered ++ [result] }

namespace Independent

variable {engine : Engine} {jobs : List Job} {start : World}

/-- What the reading of a job comes to when it is the only one. -/
def own (independent : engine.Independent jobs start) (job : Job) :
    Except Failure (List TestResult) :=
  Reading.outcome start.files engine.layout.root start.knowledge.lineCounts job.testPath
    (independent.reports job).1 (independent.reports job).2
    (Completion.of job 0 (independent.answer job)).err

/-- What is collected of a job. -/
def collected (independent : engine.Independent jobs start) (job : Job) : Collected :=
  collectedOf job (independent.own job)

/-- What a run of independent jobs keeps from turn to turn. -/
structure Holds (independent : engine.Independent jobs start) (waiting : Executor.Waiting)
    (world : World) : Prop where
  during : During engine.runner engine.executor.callOf jobs start.calls start.files world.calls
    world.files
  planned : ∀ {job outcome}, (job, outcome) ∈ waiting → job ∈ jobs
  finished : ∀ {job outcome}, (job, outcome) ∈ waiting →
    ∃ elapsed, outcome = .ok (.of job elapsed (independent.answer job))
  unread : ∀ {job outcome}, (job, outcome) ∈ waiting →
    job.outputs.texts world.files = .ok (independent.reports job)
  inside : world.files.workingDirectory = start.files.workingDirectory
  sources : ∀ job ∈ jobs,
    ∀ path ∈ (independent.reports job).2.toList.flatMap
      (Clover.named start.files.cwd engine.layout.root),
    LineCounts.answer world.files engine.layout.root world.knowledge.lineCounts path =
      LineCounts.answer start.files engine.layout.root start.knowledge.lineCounts path

variable {independent : engine.Independent jobs start} {waiting : Executor.Waiting}
  {before : World} {job : Job}

theorem Holds.initially : independent.Holds [] start where
  during := .start
  planned := fun mem => nomatch mem
  finished := fun mem => nomatch mem
  unread := fun mem => nomatch mem
  inside := rfl
  sources := fun _ _ _ _ => rfl

/-! ## Different jobs, different reports -/

theorem disjoint_paths (independent : engine.Independent jobs start) {other : Job}
    (mem : job ∈ jobs) (among : other ∈ jobs) (differs : other ≠ job) {path : Path}
    (written : path ∈ other.outputs.paths) :
    path ∉ job.outputs.paths := by
  have pairwise := (List.nodup_flatMap.1 independent.distinct).2
  have symmetric : Std.Symm (Function.onFun List.Disjoint fun job : Job => job.outputs.paths) :=
    ⟨fun _ _ apart _ left right => apart right left⟩
  exact fun again => pairwise.forall among mem differs written again

theorem nodup (independent : engine.Independent jobs start) : jobs.Nodup := by
  refine (List.nodup_flatMap.1 independent.distinct).2.imp ?_
  rintro job other apart rfl
  exact apart List.mem_cons_self List.mem_cons_self

/-! ## One turn -/

/-- The process of a job that does not wait yet ends, and what it left waits. -/
theorem Holds.ends (holds : independent.Holds waiting before) (mem : job ∈ jobs)
    (fresh : job ∉ waiting.map Prod.fst) :
    ∃ completion, (engine.executor.runJob engine.runner job).Returns before completion
        (engine.executor.afterJob engine.runner job before) ∧
      independent.Holds (waiting ++ [(job, .ok completion)])
        (engine.executor.afterJob engine.runner job before) := by
  have answered := independent.answers job mem holds.during
  refine ⟨.of job ((before.clock.drop 1).headD 0 - before.clock.headD 0) (independent.answer job),
    Executor.returns_runJob.2 ⟨_, _, answered, rfl, rfl, rfl⟩, ?_⟩
  constructor
  case during => exact .step mem holds.during
  case planned =>
    intro other outcome waits
    rcases List.mem_append.1 waits with old | new
    · exact holds.planned old
    · cases List.mem_singleton.1 new
      exact mem
  case finished =>
    intro other outcome waits
    rcases List.mem_append.1 waits with old | new
    · exact holds.finished old
    · cases List.mem_singleton.1 new
      exact ⟨_, rfl⟩
  case unread =>
    intro other outcome waits
    rw [Executor.files_afterJob]
    rcases List.mem_append.1 waits with old | new
    · -- The reports of an earlier process are still there, since this one wrote its own only.
      have differs : other ≠ job := by
        rintro rfl
        exact fresh (List.mem_map.2 ⟨_, old, rfl⟩)
      rw [← holds.unread old]
      apply Outputs.texts_congr
      intro path written
      exact independent.keeps job mem holds.during other (holds.planned old) path written
        (independent.disjoint_paths mem (holds.planned old) differs written)
    · cases List.mem_singleton.1 new
      exact independent.writes job mem holds.during
  case inside =>
    rw [Executor.files_afterJob, independent.stays job mem holds.during, holds.inside]
  case sources =>
    intro other among path asked
    rw [← holds.sources other among path asked, Executor.files_afterJob,
      Executor.knowledge_afterJob]
    unfold LineCounts.answer
    rw [independent.sources job mem holds.during other among path asked]

/-- What a job left is read as if it were the only one. -/
theorem Holds.outcome_eq_own (holds : independent.Holds waiting before) {completion : Completion}
    (waits : (job, .ok completion) ∈ waiting) :
    completion.job = job ∧ engine.outcome before completion = independent.own job := by
  obtain ⟨elapsed, finished⟩ := holds.finished waits
  cases finished
  have about : (Completion.of job elapsed (independent.answer job)).job = job := by
    cases independent.answer job <;> rfl
  have wrote : (Completion.of job elapsed (independent.answer job)).err =
      (Completion.of job 0 (independent.answer job)).err := by
    cases independent.answer job <;> rfl
  have inside : before.files.cwd = start.files.cwd := by
    unfold FileSystem.cwd
    rw [holds.inside]
  refine ⟨about, ?_⟩
  rw [outcome_eq, about, holds.unread waits]
  show Reading.outcome _ _ _ _ _ _ _ = _
  unfold own
  rw [Reading.outcome_eq_resultsBy, Reading.outcome_eq_resultsBy, inside, wrote]
  exact Reading.resultsBy_congr (holds.sources job (holds.planned waits))

theorem listens_all (independent : engine.Independent jobs start) (found : List TestResult)
    (before : World) :
    ∃ output, (found.forM engine.onResult).Returns before ()
      { before with output, delivered := before.delivered ++ found } := by
  induction found generalizing before with
  | nil =>
    refine ⟨before.output, ?_⟩
    rw [List.append_nil]
    exact Action.returns_pure.2 ⟨rfl, rfl⟩
  | cons result rest ih =>
    obtain ⟨first, heard⟩ := independent.listens result before
    obtain ⟨output, later⟩ :=
      ih { before with output := first, delivered := before.delivered ++ [result] }
    refine ⟨output, ?_⟩
    rw [List.append_assoc] at later
    exact Action.returns_bind.2 ⟨(), _, heard, later⟩

/-- What a job left is collected, and the listener hears its results. -/
theorem Holds.handed (holds : independent.Holds waiting before) {outcome : Except Raised Completion}
    (waits : (job, outcome) ∈ waiting) :
    ∃ completion after, outcome = .ok completion ∧
      (engine.collect completion).Returns before (independent.collected job) after ∧
      independent.Holds (waiting.eraseP (·.1 = job)) after ∧ after.calls = before.calls ∧
      after.delivered = before.delivered ++ (independent.collected job).found := by
  obtain ⟨elapsed, rfl⟩ := holds.finished waits
  obtain ⟨about, read⟩ := holds.outcome_eq_own waits
  have mem : job ∈ jobs := holds.planned waits
  have kept : ∀ output delivered, independent.Holds (waiting.eraseP (·.1 = job))
      { engine.afterReading before (.of job elapsed (independent.answer job)) with
        output, delivered } := by
    intro output delivered
    constructor
    case during => exact holds.during
    case planned => exact fun among => holds.planned (List.mem_of_mem_eraseP among)
    case finished => exact fun among => holds.finished (List.mem_of_mem_eraseP among)
    case unread => exact fun among => holds.unread (List.mem_of_mem_eraseP among)
    case inside => exact holds.inside
    case sources =>
      intro other among path asked
      rw [← holds.sources other among path asked]
      exact congrFun (answer_afterReading before _) path
  unfold collected collectedOf
  cases result : independent.own job with
  | ok found =>
    obtain ⟨output, heard⟩ := independent.listens_all found
      (engine.afterReading before (.of job elapsed (independent.answer job)))
    exact ⟨_, _, rfl, returns_collect_iff.2 (Or.inl ⟨found, read.trans result, rfl, heard⟩),
      kept _ _, rfl, rfl⟩
  | error failure =>
    obtain ⟨error, rfl⟩ := independent.readable job mem failure result
    obtain ⟨output, said⟩ := Action.exists_returns_report .fail
      ((Completion.of job elapsed (independent.answer job)).job.testPath ++ ": " ++ error.message)
      engine.emoji none (engine.afterReading before (.of job elapsed (independent.answer job)))
    refine ⟨_, _, rfl, returns_collect_iff.2 (Or.inr ⟨error, read.trans result, ?_, said⟩),
      kept _ _, rfl, (List.append_nil _).symm⟩
    rw [about]
    rfl

/-! ## A whole run -/

/-- A run from some waiting jobs returns what is collected of each job that is handed on. -/
theorem Holds.run (holds : independent.Holds waiting before) {turns : List Turn}
    (ordered : Turn.OrderedAfter (waiting.map Prod.fst) turns)
    (once : (waiting.map Prod.fst ++ endedIn turns).Nodup)
    (planned : ∀ job ∈ endedIn turns, job ∈ jobs) :
    ∃ after, (engine.executor.runTurns engine.runner engine.collect waiting turns).Returns before
        ((handedIn turns).map independent.collected) after ∧
      after.calls = before.calls ++ (endedIn turns).map engine.executor.callOf ∧
      after.delivered = before.delivered ++
        (handedIn turns).flatMap fun job => (independent.collected job).found := by
  induction turns generalizing waiting before with
  | nil =>
    exact ⟨before, Action.returns_pure.2 ⟨rfl, rfl⟩, (List.append_nil _).symm,
      (List.append_nil _).symm⟩
  | cons turn rest ih =>
    cases turn with
    | ends job =>
      rw [endedIn_ends] at once planned
      have fresh : job ∉ waiting.map Prod.fst := by
        intro waits
        exact List.disjoint_of_nodup_append once waits List.mem_cons_self
      obtain ⟨completion, ran, holds⟩ := holds.ends (planned job List.mem_cons_self) fresh
      have ordered := ordered.of_ends
      obtain ⟨after, went, calls, delivered⟩ := ih holds (by rwa [List.map_append])
        (by rwa [List.map_append, List.append_assoc])
        fun other mem => planned other (List.mem_cons_of_mem _ mem)
      refine ⟨after, ?_, ?_, ?_⟩
      · exact Action.returns_bind.2 ⟨.ok completion, _, Action.returns_attempt.2 ran, went⟩
      · rw [calls, Executor.calls_afterJob, endedIn_ends, List.map_cons, List.append_assoc,
          List.singleton_append]
      · rw [delivered, Executor.delivered_afterJob, handedIn_ends]
    | handed job =>
      obtain ⟨waits, later⟩ := ordered.of_handed
      obtain ⟨outcome, found, mem⟩ := Executor.exists_lookup_of_waiting waits
      obtain ⟨completion, between, rfl, collected, holds, calls, heard⟩ := holds.handed mem
      rw [← Executor.map_eraseP_eq_erase] at later
      have fewer : ((waiting.eraseP (·.1 = job)).map Prod.fst ++ endedIn rest).Sublist
          (waiting.map Prod.fst ++ endedIn rest) :=
        (List.eraseP_sublist.map Prod.fst).append_right _
      obtain ⟨after, went, later_calls, later_heard⟩ := ih holds later (once.sublist fewer) planned
      refine ⟨after, ?_, ?_, ?_⟩
      · simp only [Executor.runTurns, found, Action.returns_bind, Action.returns_pure,
          Action.returns_release]
        exact ⟨completion, before, ⟨rfl, rfl⟩, _, between, collected, _, after, went, rfl, rfl⟩
      · rw [later_calls, calls, endedIn_handed]
      · rw [later_heard, heard, handedIn_handed, List.flatMap_cons, List.append_assoc]

/-- Whatever turns a run takes, it returns what is collected of each job, in the order in which the
jobs are handed on. -/
theorem collectAll_returns (independent : engine.Independent jobs start) :
    ∃ after, (engine.collectAll jobs).Returns start
        ((handedIn (engine.executor.turns jobs)).map independent.collected) after ∧
      after.calls = start.calls ++
        (endedIn (engine.executor.turns jobs)).map engine.executor.callOf ∧
      after.delivered = start.delivered ++
        (handedIn (engine.executor.turns jobs)).flatMap fun job =>
          (independent.collected job).found := by
  have ended := engine.executor.endedIn_turns jobs
  have once : (endedIn (engine.executor.turns jobs)).Nodup := ended.nodup_iff.2 independent.nodup
  unfold collectAll
  rw [Executor.execute_eq_runTurns]
  exact Holds.initially.run (engine.executor.ordered_turns jobs).orderedAfter once
    fun job mem => ended.mem_iff.1 mem

/-! ## Any number of jobs at a time, any order -/

/-- What a job adds to the results of a report. -/
def results (independent : engine.Independent jobs start) (job : Job) : List TestResult :=
  match independent.own job with
  | .ok found => found
  | .error _ => []

/-- What a job adds to the failures of a report. -/
def failure? (independent : engine.Independent jobs start) (job : Job) : Option JobFailure :=
  match independent.own job with
  | .ok _ => none
  | .error failure => some ⟨job.testPath, failure.message⟩

theorem found_collected (independent : engine.Independent jobs start) (order : List Job) :
    (order.map independent.collected).flatMap Collected.found =
      order.flatMap independent.results := by
  have each : ∀ job, (independent.collected job).found = independent.results job := by
    intro job
    unfold collected results
    cases independent.own job <;> rfl
  rw [List.flatMap_map]
  exact congrArg (List.flatMap · order) (funext each)

theorem failures_collected (independent : engine.Independent jobs start) (order : List Job) :
    (order.map independent.collected).filterMap Collected.failure? =
      order.filterMap independent.failure? := by
  have each : ∀ job, (independent.collected job).failure? = independent.failure? job := by
    intro job
    unfold collected failure?
    cases independent.own job <;> rfl
  rw [List.filterMap_map]
  exact congrArg (List.filterMap · order) (funext each)

end Independent

/-- An engine with another number of jobs at a time and another schedule. -/
def withJobs (engine : Engine) (n : Int) (schedule : Schedule) : Engine :=
  { engine with config := { engine.config with jobs := n }, schedule }

/-- One job at a time, a session, or no two jobs: then jobs are run as they are planned. -/
theorem turns_withJobs {engine : Engine} {jobs : List Job} {n : Int} {schedule : Schedule}
    (one : n = 1 ∨ engine.config.session.enabled = true ∨ jobs.length ≤ 1) :
    (engine.withJobs n schedule).executor.turns jobs = Turn.oneByOne jobs := by
  have at_a_time : (engine.withJobs n schedule).executor.jobs =
      if engine.config.session.enabled then 1 else n := rfl
  apply Executor.turns_of_isSerial
  unfold Executor.isSerial
  rw [Bool.or_eq_true, decide_eq_true_eq, decide_eq_true_eq, at_a_time]
  rcases one with rfl | session | few
  · exact Or.inl (ite_self 1)
  · exact Or.inl (if_pos session)
  · exact Or.inr few

namespace Independent

variable {engine : Engine} {jobs : List Job} {start : World}

/-- Independence has nothing to do with the number of jobs at a time, nor with the schedule. -/
def withJobs (independent : engine.Independent jobs start) (n : Int) (schedule : Schedule) :
    (engine.withJobs n schedule).Independent jobs start where
  answer := independent.answer
  reports := independent.reports
  distinct := independent.distinct
  answers := independent.answers
  writes := independent.writes
  keeps := independent.keeps
  sources := independent.sources
  stays := independent.stays
  readable := independent.readable
  listens := independent.listens

/-- Independent jobs are each run once and collected once, whatever the number of jobs at a time and
the schedule are. A report has the results of each job in the order in which the jobs are handed on,
and a failure of each job whose reports could not be understood; the listener hears its results and
nothing else. So two runs collect the same, up to the order of the jobs, and a run of one job at a
time keeps the order of the plan. -/
theorem orders_agree (independent : engine.Independent jobs start) (stale : List String) :
    (∀ n schedule, ∃ after,
      let turns := (engine.withJobs n schedule).executor.turns jobs
      let report := RunReport.ofCollected stale ((handedIn turns).map independent.collected)
      ((engine.withJobs n schedule).collectAll jobs).Returns start
          ((handedIn turns).map independent.collected) after ∧
        (endedIn turns).Perm jobs ∧ (handedIn turns).Perm jobs ∧
        after.calls = start.calls ++ (endedIn turns).map engine.executor.callOf ∧
        report.results = (handedIn turns).flatMap independent.results ∧
        report.failures = (handedIn turns).filterMap independent.failure? ∧
        after.delivered = start.delivered ++ report.results ∧
        (n = 1 ∨ engine.config.session.enabled = true ∨ jobs.length ≤ 1 →
          endedIn turns = jobs ∧ handedIn turns = jobs)) ∧
    ∀ n schedule m other left right after later,
      ((engine.withJobs n schedule).collectAll jobs).Returns start left after →
      ((engine.withJobs m other).collectAll jobs).Returns start right later → left.Perm right := by
  have each : ∀ n schedule, ∃ after,
      ((engine.withJobs n schedule).collectAll jobs).Returns start
        ((handedIn ((engine.withJobs n schedule).executor.turns jobs)).map independent.collected)
        after ∧
      after.calls = start.calls ++ (endedIn ((engine.withJobs n schedule).executor.turns jobs)).map
        engine.executor.callOf ∧
      after.delivered = start.delivered ++
        (handedIn ((engine.withJobs n schedule).executor.turns jobs)).flatMap fun job =>
          (independent.collected job).found :=
    fun n schedule => (independent.withJobs n schedule).collectAll_returns
  constructor
  · intro n schedule
    obtain ⟨after, returned, calls, delivered⟩ := each n schedule
    refine ⟨after, returned, (engine.withJobs n schedule).executor.endedIn_turns jobs,
      (engine.withJobs n schedule).executor.handedIn_turns jobs, calls,
      independent.found_collected _, independent.failures_collected _, ?_, ?_⟩
    · rw [delivered]
      exact congrArg (start.delivered ++ ·) (List.flatMap_map ..).symm
    · intro one
      simp only [turns_withJobs one]
      exact ⟨endedIn_oneByOne jobs, handedIn_oneByOne jobs⟩
  · intro n schedule m other left right after later first second
    obtain ⟨_, returned, -⟩ := each n schedule
    obtain ⟨_, again, -⟩ := each m other
    rw [(first.unique returned).1, (second.unique again).1]
    apply List.Perm.map
    exact ((engine.withJobs n schedule).executor.handedIn_turns jobs).trans
      ((engine.withJobs m other).executor.handedIn_turns jobs).symm

end Independent

/-! ## Two independent jobs -/

/-- A job whose test runner does nothing, so that the reports it finds are the ones it leaves. -/
def idleJob (name : String) : Job :=
  ⟨s!"test/{name}Test.php", { junit := Path.ofString s!"/p/{name}.xml" }, [name]⟩

/-- One job leaves a case that passes, the other one a text that is no document. -/
def idleJobs : List Job := [idleJob "A", idleJob "B"]

/-- The world in which they are run. -/
def idleWorld : World :=
  { files := .ofListing
      [(["p"], .directory),
        (["p", "A.xml"], .file (Utf8.encode "<testsuites><testcase name='a'/></testsuites>") false),
        (["p", "B.xml"], .file (Utf8.encode "<testsuites>") false)] ["p"] (by decide +kernel) }

/-- The engine that runs them. It notes the results that are listened to. -/
def idleEngine : Engine :=
  { SmallProject.engine "" with
    runner := fun _ _ files => (.finished {}, files)
    onResult := Action.deliver }

theorem files_during_idle {callOf : Job → Call} {calls : List Call} {files : FileSystem}
    (during :
      During idleEngine.runner callOf idleJobs idleWorld.calls idleWorld.files calls files) :
    files = idleWorld.files := by
  induction during with
  | start => rfl
  | step _ _ ih => exact ih

/-- Does a reading succeed, or fail with a report error? -/
def isContained : Except Failure (List TestResult) → Bool
  | .ok _ | .error (.report _) => true
  | .error _ => false

/-- They have nothing to do with each other. -/
def idleIndependent : idleEngine.Independent idleJobs idleWorld where
  answer _ := .ok {}
  reports job := (job.outputs.texts idleWorld.files).toOption.getD ("", none)
  distinct := by decide +kernel
  answers _ _ _ _ _ := rfl
  writes := by
    intro job mem earlier files during
    have there : ∀ job ∈ idleJobs, job.outputs.texts idleWorld.files =
        .ok ((job.outputs.texts idleWorld.files).toOption.getD ("", none)) := by decide +kernel
    rw [← there job mem, ← files_during_idle during]
    rfl
  keeps _ _ _ _ _ _ _ _ _ _ := rfl
  sources _ _ _ _ _ _ _ _ _ := rfl
  stays _ _ _ _ _ := rfl
  readable := by
    intro job mem failure failed
    have contained : ∀ job ∈ idleJobs, isContained (Reading.outcome idleWorld.files
        idleEngine.layout.root idleWorld.knowledge.lineCounts job.testPath
        ((job.outputs.texts idleWorld.files).toOption.getD ("", none)).1
        ((job.outputs.texts idleWorld.files).toOption.getD ("", none)).2 "") = true := by
      decide +kernel
    have here := (congrArg isContained failed).symm.trans (contained job mem)
    cases failure with
    | report error => exact ⟨error, rfl⟩
    | _ => cases here
  listens result before := ⟨before.output, Action.returns_modify.2 rfl⟩

/-- The two jobs are handed on in reverse, and the listener hears the case that passes. -/
theorem orders_agree_idle :
    ∃ after, ((idleEngine.withJobs 4 (.inOrder (.swap (idleJob "A") (idleJob "B") []))).collectAll
        idleJobs).Returns idleWorld
          [idleIndependent.collected (idleJob "B"), idleIndependent.collected (idleJob "A")] after ∧
      after.delivered = idleIndependent.results (idleJob "A") := by
  obtain ⟨after, returned, -, -, -, results, -, delivered, -⟩ :=
    (idleIndependent.orders_agree []).1 4 (.inOrder (.swap (idleJob "A") (idleJob "B") []))
  have order : handedIn ((idleEngine.withJobs 4 (.inOrder (.swap (idleJob "A") (idleJob "B")
      []))).executor.turns idleJobs) = [idleJob "B", idleJob "A"] := by
    unfold Executor.turns
    rw [if_neg (by decide)]
    exact handedIn_inOrder (.swap (idleJob "A") (idleJob "B") [])
  have malformed : idleIndependent.results (idleJob "B") = [] := by
    rw [← List.isEmpty_iff]
    decide +kernel
  have silent : idleWorld.delivered = [] := rfl
  rw [order] at returned results delivered
  refine ⟨after, returned, ?_⟩
  rw [delivered, results, silent, List.nil_append, List.flatMap_cons, malformed, List.flatMap_cons,
    List.flatMap_nil, List.append_nil, List.nil_append]

end Engine

end TestImpact
