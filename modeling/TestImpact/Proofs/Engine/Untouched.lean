import TestImpact.Proofs.Engine.Planning
import TestImpact.Proofs.Execution.Calls
import TestImpact.Proofs.Execution.Spellings
import TestImpact.Proofs.SmallProject

/-!
# Runs that end before they touch anything

An error that is met early ends a run before a directory is made, an old report is removed or a
program is called; only the interpreter may have been asked for its coverage engine. The reports
are cleared by the same pass over the affected tests that finds out whether there is one, so the
point is that a pass that finds none has cleared nothing (`Executor.unchanged_of_no_jobs`). Main
statement: `Engine.no_trace_of_early_error`.
-/

namespace TestImpact

/-- What can be seen of a world from outside: the files, the programs that were called and the
results that were delivered. -/
def World.outside (world : World) : FileSystem × List Call × List TestResult :=
  (world.files, world.calls, world.delivered)

namespace Action

variable {α β : Type}

theorem keeps_resolving {σ : Type} {view : World → σ}
    (learned : ∀ world index,
      view { world with knowledge := { world.knowledge with index } } = view world)
    (action : Resolving α) : (resolving action).Keeps view := fun before =>
  (keeps_ofExcept (action.run before.knowledge.index).1
    { before with knowledge :=
      { before.knowledge with index := (action.run before.knowledge.index).2 } }).trans
    (learned before (action.run before.knowledge.index).2)

/-- A call, and then nothing else that can be seen from outside. -/
theorem outside_call_bind {runner : Runner} {command : Call}
    {next : Except Refusal Finished → Action β} (kept : ∀ answer, (next answer).Keeps World.outside)
    (before : World) :
    ((call runner command >>= next).outcome before).2.outside =
      (called runner command before).outside := by
  rw [outcome_bind, outcome_call]
  cases (runner before.calls command before.files).1 with
  | finished process => exact kept (.ok process) _
  | notStarted refusal => exact kept (.error refusal) _
  | broken failure => rfl

end Action

/-! ## Planning that finds nothing -/

namespace Executor

variable {executor : Executor} {before after : World}

/-- A pass over test files that makes no job has changed nothing. -/
theorem unchanged_of_no_jobs {tests : List String}
    (returned : (executor.planTests tests).Returns before [] after) : after = before := by
  induction tests with
  | nil => exact (Action.returns_pure.1 returned).2
  | cons test rest ih =>
    obtain ⟨found, _, asked, returned⟩ := Action.returns_bind.1 returned
    obtain ⟨-, rfl⟩ := Action.returns_ask.1 asked
    cases found with
    | false => exact ih returned
    | true =>
      obtain ⟨job, _, -, returned⟩ := Action.returns_bind.1 returned
      obtain ⟨others, _, -, returned⟩ := Action.returns_bind.1 returned
      cases (Action.returns_pure.1 returned).1

/-- Planning that fails with a condition that the user can mend has changed nothing. -/
theorem unchanged_of_fails_plan {affected : Affected} {raised : Raised} {error : UsageError}
    (failed : (executor.plan affected).Fails before raised after)
    (usage : raised.failure = .usage error) : after = before := by
  rcases plan_fails failed with ⟨none_made, -⟩ | failed
  · exact unchanged_of_no_jobs none_made
  · obtain ⟨_, _, _, _, _, _, -, -, -, rfl⟩ := fails_planTests failed
    cases usage

end Executor

namespace Engine

variable {engine : Engine} {before after : World} {raised : Raised} {σ : Type} {view : World → σ}

/-! ## What comes before the jobs -/

/-- The call that asks the interpreter for its coverage engine. -/
def probe (engine : Engine) : Call :=
  ⟨[engine.config.interpreter, "-r", CoverageEngine.script],
    some { directory := some engine.layout.root }⟩

/-- Nothing happened that can be seen from outside, except that the interpreter was asked for its
coverage engine, if coverage is wanted and the answer was not known. -/
def LeavesNoTrace (engine : Engine) (before after : World) : Prop :=
  after.outside = before.outside ∨
    engine.config.coverageEnabled = true ∧ before.knowledge.engine = none ∧
      after.outside = (Action.called engine.runner engine.probe before).outside

theorem LeavesNoTrace.trans {between : World} (first : engine.LeavesNoTrace before between)
    (later : after.outside = between.outside) : engine.LeavesNoTrace before after :=
  first.imp later.trans fun ⟨wanted, unknown, asked⟩ => ⟨wanted, unknown, later.trans asked⟩

/-- To ask for the coverage engine is to call the interpreter, unless the answer is known. -/
theorem leavesNoTrace_checkPreconditions (engine : Engine) (before : World) :
    engine.LeavesNoTrace before (engine.checkPreconditions.outcome before).2 := by
  unfold checkPreconditions
  split
  next wanted =>
    have required : ∀ state, Action.Keeps World.outside (Action.ofExcept
        (CoverageEngine.require state engine.config.requiredModes engine.config.interpreter)) :=
      fun _ => Action.keeps_ofExcept _
    rw [engineState, bind_assoc, Action.outcome_get_bind]
    cases known : before.knowledge.engine with
    | some state => exact Or.inl (required state before)
    | none =>
      refine Or.inr ⟨wanted, known, ?_⟩
      simp only [CoverageEngine.probe, bind_assoc]
      refine Action.outside_call_bind (fun answer => ?_) before
      refine Action.keeps_bind ?_ fun state => ?_
      · split <;> exact Action.keeps_pure _
      · exact Action.keeps_bind (fun _ => rfl) fun _ =>
          Action.keeps_bind (Action.keeps_pure state) required
  next => exact Or.inl rfl

/-- To warn about stale packages the engine changes nothing but the output. -/
theorem keeps_staleDependencies (printed : ∀ world output, view { world with output } = view world)
    (engine : Engine) : engine.staleDependencies.Keeps view := by
  have warned : ∀ stale, (engine.warnAbout stale).Keeps view := by
    intro stale
    refine Action.keeps_bind (Action.keeps_ofExcept _) fun names => ?_
    simp only
    split
    · exact Action.keeps_bind (Action.keeps_report printed) fun _ => Action.keeps_pure names
    · exact Action.keeps_bind (Action.keeps_pure _) fun _ => Action.keeps_pure names
  refine Action.keeps_bind Action.keeps_get fun world => ?_
  simp only
  split
  · exact warned _
  · exact Action.keeps_bind (Action.keeps_report printed) fun _ => Action.keeps_pure []
  · exact Action.keeps_fail _

theorem keeps_startingPaths (engine : Engine) (paths : List String) (everything : Bool) :
    (engine.startingPaths paths everything).Keeps view := by
  unfold startingPaths
  split
  · split
    · exact Action.keeps_pure _
    · exact Action.keeps_fail _
  · exact Action.keeps_pure paths

theorem keeps_requireAvailable (builder : CommandBuilder) :
    builder.requireAvailable.Keeps view := by
  unfold CommandBuilder.requireAvailable
  split
  · refine Action.keeps_bind (fun _ => rfl) fun found => ?_
    split
    · exact Action.keeps_fail _
    · exact Action.keeps_pure _
  · exact Action.keeps_pure _

/-- Planning that fails with a condition that the user can mend leaves no trace. -/
theorem outside_of_fails_plan {paths : List String} {error : UsageError}
    (failed : (engine.plan paths).Fails before raised after)
    (usage : raised.failure = .usage error) : after.outside = before.outside := by
  unfold plan at failed
  rw [Action.fails_get_bind] at failed
  rcases Action.fails_bind.1 failed with failed | ⟨affected, resolved, found, failed⟩
  · exact failed.keeps (Action.keeps_resolving (fun _ _ => rfl) _)
  refine Eq.trans ?_ (found.keeps (Action.keeps_resolving (fun _ _ => rfl) _))
  rcases Action.fails_bind.1 failed with failed | ⟨_, there, available, failed⟩
  · exact failed.keeps (keeps_requireAvailable _)
  refine Eq.trans ?_ (available.keeps (keeps_requireAvailable _))
  rcases Action.fails_bind.1 failed with failed | ⟨_, start, enough, failed⟩
  · exact failed.keeps (Action.keeps_ofExcept _)
  refine Eq.trans ?_ (enough.keeps (Action.keeps_ofExcept _))
  rw [Executor.unchanged_of_fails_plan failed usage]

/-- What comes before the jobs leaves no trace if it fails with a condition that the user can
mend. -/
theorem leavesNoTrace_of_fails_prepare {paths : List String} {everything : Bool}
    {error : UsageError} (failed : (engine.prepare paths everything).Fails before raised after)
    (usage : raised.failure = .usage error) : engine.LeavesNoTrace before after := by
  have checked := leavesNoTrace_checkPreconditions engine before
  rcases Action.fails_bind.1 failed with failed | ⟨_, ready, checks, failed⟩
  · rwa [failed] at checked
  rw [checks] at checked
  refine checked.trans ?_
  rcases Action.fails_bind.1 failed with failed | ⟨stale, warned, compared, failed⟩
  · exact failed.keeps (keeps_staleDependencies (fun _ _ => rfl) engine)
  refine Eq.trans ?_ (compared.keeps (keeps_staleDependencies (fun _ _ => rfl) engine))
  rcases Action.fails_bind.1 failed with failed | ⟨starting, start, chosen, failed⟩
  · exact failed.keeps (keeps_startingPaths engine paths everything)
  refine Eq.trans ?_ (chosen.keeps (keeps_startingPaths engine paths everything))
  rcases Action.fails_bind.1 failed with failed | ⟨_, _, -, failed⟩
  · exact outside_of_fails_plan failed usage
  · exact absurd failed Action.not_fails_pure

/-- A run that ends with an error that is met early has called no program, except that the
interpreter may have been asked for its coverage engine, and the files are as they were. No matter
in which order the checks fail and which affected tests are there: no directory was made and no
report removed. The only other way to such an error is that the runner or a listener of results
fails with one of its own, after everything was prepared. -/
theorem no_trace_of_early_error (engine : Engine) (paths : List String) (everything : Bool)
    {before after : World} {raised : Raised} {error : UsageError}
    (failed : (engine.run paths everything).Fails before raised after)
    (same : raised.failure = .usage error) (early : error.IsEarly) :
    engine.LeavesNoTrace before after ∨
      (∃ prepared planned, (engine.prepare paths everything).Returns before prepared planned) ∧
        engine.HandsIn (.usage error) := by
  rcases fails_prepare_of_fails_run failed same early with failed | ⟨prepared, given⟩
  · exact Or.inl (leavesNoTrace_of_fails_prepare failed same)
  · exact Or.inr ⟨prepared, same ▸ given⟩

/-- A run of the small project for a test that is not there leaves everything as it was. -/
theorem no_trace_of_gone_test :
    ∃ after, ((SmallProject.engine "").run ["test/GoneTest.php"]).Fails SmallProject.world
        ⟨.usage .noTests, []⟩ after ∧
      after.files = SmallProject.files ∧ after.calls = [] := by
  have run_fails : ((SmallProject.engine "").run ["test/GoneTest.php"]).failsAs SmallProject.world
      ⟨.usage .noTests, []⟩ = true := by
    decide +kernel
  have prepare_fails : ((SmallProject.engine "").prepare ["test/GoneTest.php"] false).failsAs
      SmallProject.world ⟨.usage .noTests, []⟩ = true := by
    decide +kernel
  obtain ⟨after, failed⟩ := Action.exists_of_failsAs run_fails
  obtain ⟨_, unprepared⟩ := Action.exists_of_failsAs prepare_fails
  refine ⟨after, failed, ?_⟩
  rcases no_trace_of_early_error (SmallProject.engine "") _ _ failed rfl trivial with
    (same | ⟨wanted, -⟩) | ⟨⟨_, _, prepared⟩, -⟩
  · exact ⟨congrArg Prod.fst same, congrArg (fun outside => outside.2.1) same⟩
  · cases wanted
  · exact absurd unprepared prepared.not_fails

end Engine

end TestImpact
