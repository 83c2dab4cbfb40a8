import TestImpact.Proofs.CommandLine.Loading
import TestImpact.Proofs.Engine.Planning
import TestImpact.Proofs.Process.Ending

/-!
# No false green

A run of the tests that ends with the status for a good end has found nothing to run, or
there is nothing wrong with any of its jobs: each process was started, ended before its time
was up and wrote nothing to its error channel, and its reports are there, are well-formed
and lead to no case that alarms.

* `Junit.Alarms`: what a case that fails a run looks like.
* `Engine.Account.Clean`: what it means that nothing is wrong with a job.
* `Engine.Account.clean_of_passes`: a job that brings no failure into the report is clean.
* `Engine.Account.outcome_of_breaksOff`: a process that could not be started, or whose time
  was up, is one broken result, whatever reports it left.
-/

namespace TestImpact

/-! ## Cases that alarm -/

namespace Junit

/-- A case that must not be overlooked: it has a failure; or its first error does not say that it
was skipped; or it has a warning, and nothing that comes before a warning. -/
inductive Alarms (case : Element) : Prop
  | failure {failure : Element} : case.child? "failure" = some failure → Alarms case
  | error {error : Element} : case.child? "error" = some error →
      saysSkipped (message error) = false → Alarms case
  | warning {warning : Element} : case.child? "failure" = none → case.child? "error" = none →
      case.child? "skipped" = none → case.child? "warning" = some warning → Alarms case

theorem Alarms.isFailure {case : Element} (alarms : Alarms case) :
    (classify case).1.isFailure = true := by
  unfold classify
  cases alarms with
  | failure failed =>
    rw [failed]
    rfl
  | error erred serious =>
    rw [erred]
    cases case.child? "failure" with
    | some failure => rfl
    | none => simp [serious, Outcome.isFailure]
  | warning unfailed unerred unskipped warned =>
    rw [unfailed, unerred, unskipped, warned]
    rfl

theorem Case.outcome_of {suite : String} {element : Element} {case : Case}
    (read : Case.of suite element = .ok case) : case.outcome = (classify element).1 := by
  unfold Case.of at read
  obtain ⟨duration, -, made⟩ := of_bind_ok read
  cases made
  rfl

end Junit

namespace Engine

variable {engine : Engine} {system : System}

/-! ## Jobs with which nothing is wrong -/

/-- The reports of a job are all right in a world: the JUnit report is not blank, is well-formed and
leads to no case that alarms, and a Clover report is accepted if there is to be one. -/
structure ReportsFine (engine : Engine) (world : World) (job : Job) : Prop where
  junit : ∃ junit clover document, job.outputs.texts world.files = .ok (junit, clover) ∧
    Reading.isBlankText junit = false ∧ Xml.parse junit = .ok document ∧
    ∀ element, Junit.Reached document element → ¬ Junit.Alarms element
  clover : engine.config.coverageEnabled = true → ∃ junit xml coverage,
    job.outputs.texts world.files = .ok (junit, some xml) ∧
    Clover.parse world.files.cwd engine.layout.root
      (LineCounts.answer world.files engine.layout.root world.knowledge.lineCounts) xml =
        .ok coverage

/-- Nothing is wrong with what a run did about a job. -/
structure Account.Clean (system : System) (account : engine.Account) : Prop where
  ran : system.RanCleanly account.process.called.calls (engine.executor.callOf account.job)
    account.process.called.files
  reported : engine.ReportsFine account.read account.job

/-- A run has a report, and nothing is wrong with any of its planned jobs. -/
def RunsClean (engine : Engine) (system : System) (paths : List String) (everything : Bool)
    (before : World) : Prop :=
  ∃ report after, ∃ course : engine.Course paths everything before after report,
    ∀ job ∈ course.jobs, ∃ account ∈ course.accounts, account.job = job ∧ account.Clean system

/-- A job has a Clover report if coverage is on. -/
theorem exists_clover_of_texts {job : Job} (made : engine.executor.IsJobOf job)
    (enabled : engine.config.coverageEnabled = true) {files : FileSystem} {junit : String}
    {clover : Option String} (texts : job.outputs.texts files = .ok (junit, clover)) :
    ∃ xml, clover = some xml := by
  have wanted : engine.executor.place.coverage = true := enabled
  rw [made.1] at texts
  unfold ReportPlace.outputs Outputs.texts at texts
  rw [if_pos wanted, Option.mapM_some] at texts
  obtain ⟨listed, read, texts⟩ := of_bind_ok texts
  obtain ⟨xml, -, rfl⟩ := of_map_ok read
  obtain ⟨_, -, same⟩ := of_bind_ok texts
  cases same
  exact ⟨xml, rfl⟩

section

variable {completion : Completion} {world before after : World} {job : Job}

/-- What a process said on its error channel is one broken result, whatever reports it left. -/
theorem outcome_of_err {reports : String × Option String} (said : completion.err ≠ "")
    (texts : completion.job.outputs.texts world.files = .ok reports) :
    engine.outcome world completion =
      .ok [Reading.crash completion.job.testPath completion.err] := by
  rw [outcome_of_texts texts]
  exact Reading.resultsBy_of_crashed (Or.inr said)

theorem texts_of_outcome {outcome : Except Failure (List TestResult)}
    (read : engine.outcome world completion = outcome)
    (foreign : ∀ fault, outcome ≠ .error (.file fault)) :
    ∃ reports, completion.job.outputs.texts world.files = .ok reports := by
  cases texts : completion.job.outputs.texts world.files with
  | ok reports => exact ⟨reports, rfl⟩
  | error failure =>
    obtain ⟨fault, rfl⟩ := file_of_texts_error texts
    rw [outcome_eq, texts] at read
    exact absurd read.symm (foreign fault)

/-- A process that left nothing on the error channel ran cleanly. -/
theorem ranCleanly_of_returns (lawful : system.Lawful) (calls : engine.runner = system.runner)
    (ran : (engine.executor.runJob engine.runner job).Returns before completion after)
    (silent : completion.err = "") :
    system.RanCleanly before.calls (engine.executor.callOf job) before.files := by
  obtain ⟨answer, elapsed, replied, -, rfl, -⟩ := Executor.returns_runJob.1 ran
  rw [calls] at replied
  exact System.ranCleanly_of_silent lawful replied silent

/-- A process that cannot be started, or whose time is up, is still a completion, and the reading of
its reports comes to one broken result with a text. -/
theorem crashes_of_breaksOff (lawful : system.Lawful) (calls : engine.runner = system.runner)
    (breaksOff : system.BreaksOff before.calls (engine.executor.callOf job) before.files) :
    ∃ completion after, (engine.executor.runJob engine.runner job).Returns before completion after ∧
      completion.err ≠ "" ∧ ∀ world reports, job.outputs.texts world.files = .ok reports →
        engine.outcome world completion = .ok [Reading.crash job.testPath completion.err] := by
  obtain ⟨answer, replied⟩ := breaksOff.answered
  rw [← calls] at replied
  obtain ⟨completion, after, ran⟩ : ∃ completion after,
      (engine.executor.runJob engine.runner job).Returns before completion after :=
    ⟨_, _, Executor.returns_runJob.2 ⟨answer, _, replied, rfl, rfl, rfl⟩⟩
  have said : completion.err ≠ "" :=
    fun silent => breaksOff.not_ranCleanly (ranCleanly_of_returns lawful calls ran silent)
  refine ⟨completion, after, ran, said, fun world reports texts => ?_⟩
  obtain rfl := Executor.job_of_returns_runJob ran
  exact outcome_of_err said texts

end

namespace Account

theorem ranCleanly (lawful : system.Lawful) (calls : engine.runner = system.runner)
    (account : engine.Account) (silent : account.completion.err = "") :
    system.RanCleanly account.process.called.calls (engine.executor.callOf account.job)
      account.process.called.files :=
  ranCleanly_of_returns lawful calls account.ran silent

theorem outcome_of_breaksOff (lawful : system.Lawful) (calls : engine.runner = system.runner)
    {account : engine.Account}
    (breaksOff : system.BreaksOff account.process.called.calls (engine.executor.callOf account.job)
      account.process.called.files) :
    ∃ text, text ≠ "" ∧ account.outcome = .results [Reading.crash account.job.testPath text] := by
  have said : account.completion.err ≠ "" :=
    fun silent => breaksOff.not_ranCleanly (account.ranCleanly lawful calls silent)
  refine ⟨account.completion.err, said, ?_⟩
  rcases account.collected with ⟨found, read, outcome⟩ | ⟨error, read, -⟩
  · obtain ⟨reports, texts⟩ := texts_of_outcome read fun _ same => nomatch same
    rw [outcome_of_err said texts] at read
    cases read
    rw [outcome, account.job_completion]
  · obtain ⟨reports, texts⟩ := texts_of_outcome read fun _ same => nomatch same
    rw [outcome_of_err said texts] at read
    cases read

/-- An account that brings no failure into a report is an account of a clean job. -/
theorem clean_of_passes (lawful : system.Lawful) (calls : engine.runner = system.runner)
    {account : engine.Account} (job : engine.executor.IsJobOf account.job)
    (passes : ∀ result ∈ account.outcome.found, result.outcome.isFailure = false)
    (readable : account.outcome.failure? = none) : account.Clean system := by
  rcases account.collected with ⟨found, read, outcome⟩ | ⟨error, -, outcome⟩
  · rw [outcome] at passes
    obtain ⟨junit, clover, texts, read⟩ := of_outcome_ok read
    rcases Reading.of_resultsBy_ok read with
      ⟨-, rfl⟩ | ⟨fine, document, cases, coverage, parsed, listed, covered, rfl⟩
    · cases passes _ List.mem_cons_self
    · simp only [Reading.HasCrashed, not_or, not_not, Bool.not_eq_true] at fine
      rw [account.job_completion] at texts
      refine ⟨account.ranCleanly lawful calls fine.2, ?_, ?_⟩
      · refine ⟨junit, clover, document, texts, fine.1, parsed, fun element reached alarms => ?_⟩
        obtain ⟨case, mem, suite, made⟩ := Junit.exists_mem_cases_of_reached listed reached
        have quiet := passes _ (List.mem_map_of_mem mem)
        have same : (Reading.resultOf account.completion.job.testPath coverage case).outcome =
            (Junit.classify element).1 := Junit.Case.outcome_of made
        rw [same, alarms.isFailure] at quiet
        cases quiet
      · intro enabled
        obtain ⟨xml, rfl⟩ := exists_clover_of_texts job enabled texts
        rw [Option.mapM_some] at covered
        obtain ⟨accepted, read, -⟩ := of_map_ok covered
        exact ⟨junit, xml, accepted, texts, read⟩
  · rw [outcome] at readable
    cases readable

end Account

/-- A report without failures is made of clean jobs. -/
theorem Course.clean {before after : World} {paths : List String} {everything : Bool}
    {report : RunReport} (lawful : system.Lawful) (calls : engine.runner = system.runner)
    (course : engine.Course paths everything before after report)
    (green : report.hasFailures = false) {account : engine.Account}
    (mem : account ∈ course.accounts) : account.Clean system := by
  simp only [RunReport.hasFailures, Bool.or_eq_false_iff, Bool.not_eq_false',
    List.isEmpty_iff, List.any_eq_false, Bool.not_eq_true] at green
  obtain ⟨readable, passes⟩ := green
  obtain ⟨start, affected, planned⟩ := returns_prepare course.prepared
  have listed : account.job ∈ course.jobs :=
    course.complete.mem_iff.1 (List.mem_map_of_mem mem)
  apply Account.clean_of_passes lawful calls (Executor.plan_jobs planned _ listed)
  · intro result given
    rw [← course.results_of_job mem] at given
    exact passes result (List.mem_of_mem_filter given)
  · have none_given := course.failures_of_job mem
    rw [readable, List.filter_nil] at none_given
    exact Option.toList_eq_nil_iff.1 none_given.symm

end Engine

namespace CommandLine

variable {schedule : Schedule} {flags : RunFlags} {options : RunOptions} {before after : World}

theorem returns_announce {config : Config} {layout : Layout} {u : Unit}
    (returned : (announce flags config layout).Returns before u after) :
    ∃ output, after = { before with output } := by
  unfold announce at returned
  simp only at returned
  split at returned
  · obtain ⟨_, between, debugged, returned⟩ := Action.returns_bind.1 returned
    obtain ⟨first, rfl⟩ := Action.returns_display debugged
    obtain ⟨output, rfl⟩ := Action.returns_display returned
    exact ⟨output, rfl⟩
  · exact Action.returns_display returned

/-- The status of a run is decided by its report, or it found that there is nothing to run. -/
theorem returns_runAffected {engine : Engine} {paths : List String} {status : Nat}
    (returned : (runAffected engine flags paths).Returns before status after) :
    (∃ report last, (engine.run paths flags.everything).Returns before report last ∧
        status = if report.hasFailures then statusFailures else statusFine) ∨
      ∃ raised last, (engine.run paths flags.everything).Fails before raised last ∧
        raised.failure = .usage .noTests := by
  obtain ⟨outcome, between, caught, returned⟩ := Action.returns_bind.1 returned
  rcases Action.returns_tryCatch.1 caught with done | ⟨raised, last, failed, handled⟩
  · obtain ⟨report, ran, rfl⟩ := Action.returns_map.1 done
    obtain ⟨_, _, -, judged⟩ := Action.returns_bind.1 returned
    exact Or.inl ⟨report, between, ran, (Action.returns_pure.1 judged).1⟩
  · split at handled
    next nothing => exact Or.inr ⟨raised, last, Action.fails_map.1 failed, nothing⟩
    next => exact absurd handled Action.not_returns_throw

/-- Without an export, what is said at the end of a run never fails. -/
theorem exists_returns_finish (plain : flags.export_ = none) (report : RunReport)
    (before : World) : ∃ after, (finish flags report).Returns before () after := by
  rcases Action.returns_or_fails (finish flags report) before with
    ⟨u, after, returned⟩ | ⟨raised, after, failed⟩
  · exact ⟨after, returned⟩
  · unfold finish at failed
    rw [plain] at failed
    rcases Action.fails_bind.1 failed with failed | ⟨_, _, -, failed⟩
    · have quiet : Action.Avoids ((Results.closing report).forM (Action.display · flags.colour))
          raised.failure :=
        Action.composes_avoids.forM
          (fun _ => Action.avoids_of_not_fails Action.not_fails_display) _
      exact absurd rfl (quiet _ _ _ failed)
    · exact absurd failed Action.not_fails_pure

theorem exists_returns_runAffected (plain : flags.export_ = none) {engine : Engine}
    {paths : List String} {report : RunReport}
    (ran : (engine.run paths flags.everything).Returns before report after) :
    ∃ last, (runAffected engine flags paths).Returns before
      (if report.hasFailures then statusFailures else statusFine) last := by
  obtain ⟨last, said⟩ := exists_returns_finish plain report after
  exact ⟨last, Action.returns_bind.2 ⟨some report, after,
    Action.returns_tryCatch.2 (.inl (Action.returns_map.2 ⟨report, ran, rfl⟩)),
    Action.returns_bind.2 ⟨(), last, said, Action.returns_pure.2 ⟨rfl, rfl⟩⟩⟩⟩

theorem returns_runTests {runner : Runner} {status : Nat}
    (returned : (runTests runner schedule flags options).Returns before status after) :
    ∃ config layout output, (loadProject options).Returns before (config, layout) before ∧
      (announce flags config layout).Returns before () { before with output } ∧
      (runAffected (engineOf runner schedule flags config layout) flags options.paths).Returns
        { before with output } status after := by
  obtain ⟨⟨config, layout⟩, _, loaded, rest⟩ := Action.returns_bind.1 returned
  obtain ⟨-, rfl⟩ := returns_loadProject_iff.1 loaded
  obtain ⟨_, _, announced, rest⟩ := Action.returns_bind.1 rest
  obtain ⟨output, rfl⟩ := returns_announce announced
  exact ⟨config, layout, output, loaded, announced, rest⟩

theorem avoids_onResult {runner : Runner} {config : Config} {layout : Layout} {failure : Failure}
    (result : TestResult) :
    ((engineOf runner schedule flags config layout).onResult result).Avoids failure :=
  Action.avoids_of_not_fails Action.not_fails_print

/-- No false green. If a run of the tests ends with the status for a good end, then its planning
found nothing to run, or every planned job is clean. And whatever else the processes do, one that
cannot be started, or whose time is up, is one broken result with a text, and nothing else in a
report is about its job. -/
theorem clean_of_statusFine {system : System} (lawful : system.Lawful) (schedule : Schedule)
    (flags : RunFlags) (options : RunOptions) :
    (∀ before after,
      (runTests system.runner schedule flags options).Returns before statusFine after →
      ∃ config layout output, (loadProject options).Returns before (config, layout) before ∧
        (announce flags config layout).Returns before () { before with output } ∧
        ((engineOf system.runner schedule flags config layout).FindsNothing options.paths
            flags.everything { before with output } ∨
          (engineOf system.runner schedule flags config layout).RunsClean system options.paths
            flags.everything { before with output })) ∧
    ∀ engine : Engine, engine.runner = system.runner →
      (∀ job before,
        system.BreaksOff before.calls (engine.executor.callOf job) before.files →
        ∃ completion after,
          (engine.executor.runJob engine.runner job).Returns before completion after ∧
          completion.err ≠ "" ∧ ∀ world reports, job.outputs.texts world.files = .ok reports →
            engine.outcome world completion = .ok [Reading.crash job.testPath completion.err]) ∧
      ∀ paths everything before after report
        (course : engine.Course paths everything before after report),
        ∀ account ∈ course.accounts,
          system.BreaksOff account.process.called.calls (engine.executor.callOf account.job)
            account.process.called.files →
          ∃ text, text ≠ "" ∧
            report.results.filter (fun result => result.testPath = some account.job.testPath) =
              [Reading.crash account.job.testPath text] ∧
            report.failures.filter (fun failure => failure.testPath = account.job.testPath) =
              [] := by
  constructor
  · intro before after returned
    obtain ⟨config, layout, output, loaded, announced, ran⟩ := returns_runTests returned
    refine ⟨config, layout, output, loaded, announced, ?_⟩
    rcases returns_runAffected ran with
      ⟨report, last, ran, status⟩ | ⟨raised, last, failed, nothing⟩
    · have green : report.hasFailures = false := by
        cases failures : report.hasFailures with
        | false => rfl
        | true =>
          rw [failures] at status
          cases status
      obtain ⟨course⟩ := Engine.exists_course ran
      refine Or.inr ⟨report, last, course, fun job planned => ?_⟩
      obtain ⟨account, mem, same⟩ := course.exists_account planned
      exact ⟨account, mem, same, course.clean lawful rfl green mem⟩
    · have sound : Engine.RepliesSoundly system.runner :=
        fun _ _ _ error => lawful.runner_ne_usage error
      exact Or.inl (Engine.findsNothing_of_fails_run sound avoids_onResult failed nothing)
  · intro engine calls
    refine ⟨fun job before breaksOff => Engine.crashes_of_breaksOff lawful calls breaksOff, ?_⟩
    intro paths everything before after report course account mem breaksOff
    obtain ⟨text, said, outcome⟩ := Engine.Account.outcome_of_breaksOff lawful calls breaksOff
    refine ⟨text, said, ?_, ?_⟩
    · rw [course.results_of_job mem, outcome]
      rfl
    · rw [course.failures_of_job mem, outcome]
      rfl

/-! ## A green run of the small project -/

theorem lawful_leaving (xml : String) : (SmallProject.leaving xml).Lawful := by
  intro earlier command files reply after replied
  cases replied

/-- Processes that leave a report with one case in it. -/
def onePass : System :=
  SmallProject.leaving "<testsuites><testsuite><testcase/></testsuite></testsuites>"

/-- The one test file of the project, without coverage. -/
def oneTest : RunOptions :=
  ⟨Path.ofString "/p", ["/p/test/ATest.php"], [("coverage", .bool false)]⟩

/-- The run finds something to run, and nothing is wrong with it. -/
theorem runsClean_onePass :
    ∃ after, (runTests onePass.runner .planned {} oneTest).Returns SmallProject.world statusFine
        after ∧
      ∃ config layout output,
        (loadProject oneTest).Returns SmallProject.world (config, layout) SmallProject.world ∧
        (engineOf onePass.runner .planned {} config layout).RunsClean onePass oneTest.paths false
          { SmallProject.world with output } := by
  have evaluated : (do
      let project ← loadProject oneTest
      announce {} project.1 project.2
      (engineOf onePass.runner .planned {} project.1 project.2).run oneTest.paths).returnsSome
      SmallProject.world (fun report => !report.hasFailures) = true := by
    decide +kernel
  obtain ⟨report, last, whole, fine⟩ := Action.exists_of_returnsSome evaluated
  obtain ⟨⟨config, layout⟩, _, loaded, rest⟩ := Action.returns_bind.1 whole
  obtain ⟨_, _, announced, ran⟩ := Action.returns_bind.1 rest
  have plain : ({} : RunFlags).export_ = none := rfl
  obtain ⟨after, ended⟩ := exists_returns_runAffected plain ran
  rw [Bool.not_eq_true'] at fine
  rw [fine] at ended
  have returned : (runTests onePass.runner .planned {} oneTest).Returns SmallProject.world
      statusFine after :=
    Action.returns_bind.2 ⟨(config, layout), _, loaded, Action.returns_bind.2
      ⟨_, _, announced, ended⟩⟩
  obtain ⟨config', layout', output, loaded', announced', nothing | clean⟩ :=
    (clean_of_statusFine (lawful_leaving _) .planned _ _).1 _ _ returned
  · obtain ⟨same, rfl⟩ := loaded.unique loaded'
    cases same
    obtain ⟨-, rfl⟩ := announced.unique announced'
    obtain ⟨raised, _, failed, -⟩ := nothing
    exact absurd failed ran.not_fails
  · exact ⟨after, returned, config', layout', output, loaded', clean⟩

end CommandLine

end TestImpact
