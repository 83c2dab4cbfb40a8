import TestImpact.Proofs.Engine.Advice
import TestImpact.Proofs.Engine.Containment
import TestImpact.Proofs.Execution.Session

/-!
# What planning fails with

Some errors are met before the first test process or step of a session is started
(`UsageError.IsEarly`), and a run that ends with one of them failed there, unless the runner or a
listener fails with an error of its own (`Engine.fails_prepare_of_fails_run`). One of them says that
there is nothing to run. It is taken for a good end, so it must not be what anything but the planning
of the jobs fails with (`Engine.findsNothing_of_fails_run`).
-/

namespace TestImpact

/-! ## Failures that are never met -/

namespace Action

variable {α β : Type} {failure : Failure}

/-- The action fails with other failures only. -/
def Avoids (action : Action α) (failure : Failure) : Prop :=
  ∀ before raised after, action.Fails before raised after → raised.failure ≠ failure

theorem avoids_of_not_fails {action : Action α}
    (never : ∀ {before raised after}, ¬ action.Fails before raised after) :
    action.Avoids failure :=
  fun _ _ _ failed => absurd failed never

theorem avoids_pure (a : α) : (pure a : Action α).Avoids failure :=
  avoids_of_not_fails not_fails_pure

theorem avoids_get : (get : Action World).Avoids failure :=
  avoids_of_not_fails not_fails_get

theorem avoids_modify (change : World → World) : (modify change : Action PUnit).Avoids failure :=
  avoids_of_not_fails not_fails_modify

theorem avoids_report (level : Level) (message : String) (emoji : Bool) :
    (report level message emoji).Avoids failure :=
  avoids_of_not_fails not_fails_report

theorem avoids_tick : tick.Avoids failure :=
  avoids_of_not_fails not_fails_tick

theorem composes_avoids : Composes fun _ action => action.Avoids failure where
  ofPure := avoids_pure
  ofBind first later := by
    intro before raised after failed
    rcases fails_bind.1 failed with failed | ⟨a, between, returned, failed⟩
    · exact first _ _ _ failed
    · exact later a before between returned _ _ _ failed

theorem avoids_bind {action : Action α} {next : α → Action β} (first : action.Avoids failure)
    (later : ∀ a, (next a).Avoids failure) : (action >>= next).Avoids failure :=
  composes_avoids.ofBind first fun a _ _ _ => later a

theorem avoids_fail {other : Failure} (differs : other ≠ failure) :
    (fail other : Action α).Avoids failure := by
  intro before raised after failed
  obtain ⟨rfl, -⟩ := fails_fail.1 failed
  exact differs

theorem avoids_ofExcept {outcome : Except Failure α} (differs : outcome ≠ .error failure) :
    (ofExcept outcome).Avoids failure := by
  cases outcome with
  | ok a => exact avoids_pure a
  | error other => exact avoids_fail fun same => differs (congrArg Except.error same)

theorem avoids_call {runner : Runner} {command : Call}
    (kept : ∀ earlier files, (runner earlier command files).1 ≠ .broken failure) :
    (call runner command).Avoids failure := by
  intro before raised after failed
  obtain ⟨⟨other, broken, rfl⟩, -⟩ := fails_call.1 failed
  rintro rfl
  exact kept before.calls before.files broken

end Action

/-! ## Errors that are met early -/

/-- The error is met before a test process or a step of a session is started, if it is met: there
is nothing to run, coverage cannot be measured, there is no container, or not everything can be
run. -/
def UsageError.IsEarly : UsageError → Prop
  | .noTests | .engineMissing _ | .engineMisconfigured _ _ _ | .dockerMissing
  | .cannotRunAll _ => True
  | .runnerMissing _ | .pathMissing _ _ | .sessionFailed _ _ _ => False

namespace Engine

variable {engine : Engine}

/-- No reply to a call is taken for a condition that the user can mend. -/
def RepliesSoundly (runner : Runner) : Prop :=
  ∀ earlier command files error, (runner earlier command files).1 ≠ .broken (.usage error)

/-! ## What comes before planning -/

theorem avoids_checkPreconditions (sound : RepliesSoundly engine.runner) :
    engine.checkPreconditions.Avoids (.usage .noTests) := by
  have probed : (CoverageEngine.probe engine.runner engine.config.interpreter
      (some { directory := some engine.layout.root })).Avoids (.usage .noTests) := by
    refine Action.avoids_bind (Action.avoids_call fun _ _ => sound _ _ _ _) fun reply => ?_
    split <;> exact Action.avoids_pure _
  have asked : engine.engineState.Avoids (.usage .noTests) := by
    refine Action.avoids_bind Action.avoids_get fun world => ?_
    split
    · exact Action.avoids_pure _
    · refine Action.avoids_bind probed fun state => ?_
      exact Action.avoids_bind (Action.avoids_modify _) fun _ => Action.avoids_pure state
  unfold checkPreconditions
  split
  · refine Action.avoids_bind asked fun state => Action.avoids_ofExcept ?_
    unfold CoverageEngine.require
    split
    · exact fun same => nomatch same
    · split <;> exact fun same => nomatch same
  · exact Action.avoids_pure _

theorem avoids_staleDependencies (error : UsageError) :
    engine.staleDependencies.Avoids (.usage error) :=
  fun _ _ _ failed => (fails_staleDependencies_iff.1 failed).1.ne_usage error

theorem avoids_startingPaths (paths : List String) (everything : Bool) :
    (engine.startingPaths paths everything).Avoids (.usage .noTests) := by
  unfold startingPaths
  split
  · split
    · exact Action.avoids_pure _
    · exact Action.avoids_fail fun same => nomatch same
  · exact Action.avoids_pure paths

/-- If what comes before the jobs fails because there is nothing to run, planning does. -/
theorem plan_of_fails_prepare (sound : RepliesSoundly engine.runner) {paths : List String}
    {everything : Bool} {before after : World} {raised : Raised}
    (failed : (engine.prepare paths everything).Fails before raised after)
    (nothing : raised.failure = .usage .noTests) :
    ∃ between starting start,
      (engine.startingPaths paths everything).Returns between starting start ∧
        (engine.plan starting).Fails start raised after := by
  unfold prepare at failed
  rcases Action.fails_bind.1 failed with failed | ⟨_, _, -, failed⟩
  · exact absurd nothing (avoids_checkPreconditions sound _ _ _ failed)
  rcases Action.fails_bind.1 failed with failed | ⟨_, _, -, failed⟩
  · exact absurd nothing (avoids_staleDependencies .noTests _ _ _ failed)
  rcases Action.fails_bind.1 failed with failed | ⟨starting, start, chosen, failed⟩
  · exact absurd nothing (avoids_startingPaths paths everything _ _ _ failed)
  rcases Action.fails_bind.1 failed with failed | ⟨_, _, -, failed⟩
  · exact ⟨_, starting, start, chosen, failed⟩
  · exact absurd failed Action.not_fails_pure

/-! ## What comes after planning -/

theorem not_escapes_usage {completion : Completion} {world : World} (error : UsageError) :
    ¬ engine.Escapes world completion (.usage error) := by
  intro escapes
  cases escapes with
  | unreadable unread =>
    obtain ⟨fault, same⟩ := file_of_texts_error unread
    cases same
  | report _ escapes => cases escapes

theorem avoids_collect {error : UsageError}
    (heard : ∀ result, (engine.onResult result).Avoids (.usage error)) (completion : Completion) :
    (engine.collect completion).Avoids (.usage error) := by
  intro before raised after failed same
  rcases escapes_of_fails_collect failed with escapes | ⟨found, last, -, failed⟩
  · rw [same] at escapes
    exact not_escapes_usage error escapes
  · exact Action.composes_avoids.forM heard found _ _ _ failed same

theorem avoids_collectAll {error : UsageError}
    (sound : ∀ earlier command files,
      (engine.runner earlier command files).1 ≠ .broken (.usage error))
    (heard : ∀ result, (engine.onResult result).Avoids (.usage error)) (jobs : List Job) :
    (engine.collectAll jobs).Avoids (.usage error) := by
  intro before raised after failed
  obtain ⟨process, -, broken | ⟨completion, read, last, -, failed⟩⟩ := Executor.execute_fails failed
  · have ran := Action.returns_attempt.1 process.ran
    rw [broken] at ran
    obtain ⟨failure, replied, rfl⟩ := Executor.fails_runJob ran
    rintro rfl
    exact sound _ _ _ replied
  · exact avoids_collect heard completion _ _ _ failed

section Session

variable {here : Session.Surroundings} {error : UsageError}

theorem avoids_runStep
    (sound : ∀ earlier command files, (here.runner earlier command files).1 ≠ .broken (.usage error))
    (early : error.IsEarly) (step : SessionStep) (command : List String) :
    (Session.runStep here step command).Avoids (.usage error) := by
  have other : ∀ status stderr, Failure.usage (.sessionFailed step status stderr) ≠ .usage error := by
    rintro status stderr ⟨⟩
    exact early
  apply Session.runStep_of_parts Action.composes_avoids
  · exact Action.avoids_tick
  · exact Action.avoids_call fun _ _ => sound _ _ _
  · exact fun _ _ => Action.avoids_fail (other _ _)
  · exact fun _ => Action.avoids_report _ _ _

theorem avoids_tearDown
    (sound : ∀ earlier command files, (here.runner earlier command files).1 ≠ .broken (.usage error))
    (early : error.IsEarly) (teardown : List String) :
    (Session.tearDown here teardown).Avoids (.usage error) :=
  Action.avoids_bind (Action.avoids_report _ _ _) fun _ =>
    avoids_runStep sound early .teardown teardown

/-- A session that failed does not change what it failed with. -/
theorem failure_tearDownAfter {teardown : List String} {failed raised : Raised} {before after : World}
    (returned : (Session.tearDownAfter here teardown failed).Returns before raised after) :
    raised.failure = failed.failure := by
  unfold Session.tearDownAfter at returned
  rcases Action.returns_tryCatch.1 returned with returned | ⟨second, between, -, returned⟩
  · obtain ⟨_, _, -, last⟩ := Action.returns_bind.1 returned
    rw [(Action.returns_pure.1 last).1]
  · split at returned
    · obtain ⟨_, _, -, last⟩ := Action.returns_bind.1 returned
      rw [(Action.returns_pure.1 last).1]
    · exact absurd returned Action.not_returns_throw

theorem avoids_around {α : Type} {setup teardown : List String} {body : Action α}
    (sound : ∀ earlier command files, (here.runner earlier command files).1 ≠ .broken (.usage error))
    (early : error.IsEarly) (inside : body.Avoids (.usage error)) :
    (Session.around here setup teardown body).Avoids (.usage error) := by
  refine Action.avoids_bind (Action.avoids_report _ _ _) fun _ => ?_
  intro before raised after failed
  rcases Action.fails_bind.1 failed with failed | ⟨attempted, between, ran, failed⟩
  · exact absurd failed Action.not_fails_attempt
  cases attempted with
  | ok a =>
    rcases Action.fails_bind.1 failed with failed | ⟨_, _, -, failed⟩
    · exact avoids_tearDown sound early teardown _ _ _ failed
    · exact absurd failed Action.not_fails_pure
  | error first =>
    have first_ne : first.failure ≠ .usage error :=
      Action.avoids_bind (avoids_runStep sound early .setup setup) (fun _ => inside) _ _ _
        (Action.returns_attempt.1 ran)
    rcases Action.fails_bind.1 failed with failed | ⟨last, _, torn, failed⟩
    · unfold Session.tearDownAfter at failed
      obtain ⟨second, _, failed, handled⟩ := Action.fails_tryCatch.1 failed
      have second_ne : second.failure ≠ .usage error :=
        Action.avoids_bind (avoids_tearDown sound early teardown) (fun _ => Action.avoids_pure _)
          _ _ _ failed
      split at handled
      · exact Action.avoids_bind (Action.avoids_report _ _ _) (fun _ => Action.avoids_pure _)
          _ _ _ handled
      · obtain ⟨rfl, -⟩ := Action.fails_throw.1 handled
        exact second_ne
    · obtain ⟨rfl, -⟩ := Action.fails_throw.1 failed
      rw [failure_tearDownAfter torn]
      exact first_ne

end Session

/-- Something that the engine was given fails with a failure: a call is broken off with it, or it
is what comes of listening to a result. -/
def HandsIn (engine : Engine) (failure : Failure) : Prop :=
  (∃ earlier command files, (engine.runner earlier command files).1 = .broken failure) ∨
    ∃ result before raised after, (engine.onResult result).Fails before raised after ∧
      raised.failure = failure

/-- A run that fails with an error that is met early fails before its first job, unless it was
given the failure by the runner or by a listener. -/
theorem fails_prepare_of_fails_run {paths : List String} {everything : Bool}
    {before after : World} {raised : Raised} {error : UsageError}
    (failed : (engine.run paths everything).Fails before raised after)
    (same : raised.failure = .usage error) (early : error.IsEarly) :
    (engine.prepare paths everything).Fails before raised after ∨
      (∃ prepared planned, (engine.prepare paths everything).Returns before prepared planned) ∧
        engine.HandsIn raised.failure := by
  unfold run at failed
  rcases Action.fails_bind.1 failed with failed | ⟨⟨stale, jobs⟩, planned, prepared, failed⟩
  · exact Or.inl failed
  refine Or.inr ⟨⟨_, _, prepared⟩, ?_⟩
  by_contra own
  rw [same] at own
  have sound : ∀ earlier command files,
      (engine.runner earlier command files).1 ≠ .broken (.usage error) :=
    fun _ _ _ broken => own (Or.inl ⟨_, _, _, broken⟩)
  have heard : ∀ result, (engine.onResult result).Avoids (.usage error) :=
    fun result _ _ _ failed same => own (Or.inr ⟨_, _, _, _, failed, same⟩)
  rcases Action.fails_bind.1 failed with failed | ⟨_, _, -, failed⟩
  · refine absurd same ?_
    unfold inSession at failed
    simp only at failed
    split at failed
    · exact avoids_around sound early (avoids_collectAll sound heard jobs) _ _ _ failed
    · exact avoids_collectAll sound heard jobs _ _ _ failed
  · exact absurd failed Action.not_fails_pure

/-- The planning of the jobs of a run fails because there is nothing to run, and so does the run. -/
def FindsNothing (engine : Engine) (paths : List String) (everything : Bool) (before : World) :
    Prop :=
  ∃ raised after, (engine.run paths everything).Fails before raised after ∧
    raised.failure = .usage .noTests ∧
    ∃ between starting start,
      (engine.startingPaths paths everything).Returns between starting start ∧
        (engine.plan starting).Fails start raised after

/-- A run ends because there is nothing to run only if its planning does. -/
theorem findsNothing_of_fails_run (sound : RepliesSoundly engine.runner)
    (heard : ∀ result, (engine.onResult result).Avoids (.usage .noTests)) {paths : List String}
    {everything : Bool} {before after : World} {raised : Raised}
    (failed : (engine.run paths everything).Fails before raised after)
    (nothing : raised.failure = .usage .noTests) :
    engine.FindsNothing paths everything before := by
  refine ⟨raised, after, failed, nothing, ?_⟩
  rcases fails_prepare_of_fails_run failed nothing trivial with failed | ⟨-, given⟩
  · exact plan_of_fails_prepare sound failed nothing
  · rw [nothing] at given
    rcases given with ⟨_, _, _, broken⟩ | ⟨result, _, _, _, failed, same⟩
    · exact absurd broken (sound _ _ _ _)
    · exact absurd same (heard result _ _ _ failed)

end Engine

end TestImpact
