import TestImpact.Execution.Session
import TestImpact.Proofs.Execution.Calls

/-!
# How a session ends

A session step comes to what the reply to its one call says (`stepOutcome`), and a session
comes to what its first command, its body and its last command do (`ending`). The last
command is called in any case, after everything else (`outcome_around`).
-/

namespace TestImpact.Session

/-- What a step comes to by the reply to its call. -/
def stepOutcome (step : SessionStep) : Reply → Except Raised Unit
  | .finished process =>
    if process.status = 0 then .ok ()
    else .error ⟨.usage (.sessionFailed step process.status (process.err.getD "")), []⟩
  | .notStarted refusal => .error ⟨.usage (.sessionFailed step refusedStatus refusal.text), []⟩
  | .broken failure => .error ⟨failure, []⟩

/-- The note about a last command that failed, too. -/
def teardownNote : Failure → String
  | .usage error => "teardown also failed: " ++ error.message
  | failure => "teardown also failed: " ++ failure.message

/-- What a session comes to: what its first command and its body come to, unless only the last
command fails. If both fail, the first failure goes out with a note about the second. -/
def ending {α : Type} (inside : Except Raised α) (last : Except Raised Unit) : Except Raised α :=
  match inside, last with
  | .ok a, .ok () => .ok a
  | .ok _, .error failed => .error failed
  | .error failed, .ok () => .error failed
  | .error failed, .error second =>
    .error { failed with notes := failed.notes ++ [teardownNote second.failure] }

/-- The calls of a command are answered, whatever was called before. -/
def Answers (runner : Runner) (command : Call) : Prop :=
  ∀ earlier files failure, (runner earlier command files).1 ≠ .broken failure

variable {here : Surroundings} {command : List String}

/-- The call of a step. -/
def Surroundings.callOf (here : Surroundings) (command : List String) : Call :=
  ⟨command, here.options⟩

/-- A property that sequences have from their parts holds of a step if it holds of its call and of
what a step says and fails with. -/
theorem runStep_of_parts {property : ∀ α : Type, Action α → Prop}
    (composes : Action.Composes property) {step : SessionStep} (ticked : property Float Action.tick)
    (called : property _ (Action.call here.runner (here.callOf command)))
    (failed : ∀ status stderr,
      property Unit (Action.fail (.usage (.sessionFailed step status stderr))))
    (said : ∀ message, property Unit (Action.report .ok message here.emoji)) :
    property Unit (runStep here step command) := by
  have ends : ∀ started, property Unit (do
      let elapsed := (← Action.tick) - started
      Action.report .ok s!"Test environment {step.name} completed in {Fixed.write 2 elapsed}s"
        here.emoji) :=
    fun started => composes.ofBind ticked fun _ _ _ _ => said _
  refine composes.ofBind ticked fun started _ _ _ => ?_
  refine composes.ofBind called fun reply _ _ _ => ?_
  split
  · exact failed _ _
  · simp only
    split
    · exact composes.ofBind (failed _ _) fun _ _ _ _ => ends started
    · exact ends started

/-- A step calls its command and comes to what the reply says. -/
theorem outcome_runStep (here : Surroundings) (step : SessionStep) (command : List String)
    (before : World) :
    ∃ after, (runStep here step command).outcome before =
        (stepOutcome step (here.runner before.calls (here.callOf command) before.files).1, after) ∧
      after.calls = before.calls ++ [here.callOf command] := by
  have ticked : Action.tick.Returns before (before.clock.headD 0)
      { before with clock := before.clock.drop 1 } :=
    Action.returns_tick.2 ⟨rfl, rfl⟩
  rw [runStep, Action.outcome_bind, ticked]
  simp only
  rw [Action.outcome_bind, Action.outcome_call]
  simp only [Surroundings.callOf]
  cases (here.runner before.calls ⟨command, here.options⟩ before.files).1 with
  | finished process =>
    by_cases fine : process.status = 0
    · simp only [stepOutcome, fine, if_true]
      exact ⟨_, rfl, rfl⟩
    · simp only [stepOutcome, ne_eq, fine, not_false_eq_true, if_true, if_false]
      exact ⟨_, rfl, rfl⟩
  | notStarted refusal => exact ⟨_, rfl, rfl⟩
  | broken failure => exact ⟨_, rfl, rfl⟩

theorem outcome_tearDown (here : Surroundings) (command : List String) (before : World) :
    ∃ after, (tearDown here command).outcome before =
        (stepOutcome .teardown (here.runner before.calls (here.callOf command) before.files).1,
          after) ∧
      after.calls = before.calls ++ [here.callOf command] := by
  obtain ⟨output, said⟩ := Action.exists_returns_report .info "Tearing down test environment..."
    here.emoji none before
  obtain ⟨after, stepped, calls⟩ := outcome_runStep here .teardown command { before with output }
  refine ⟨after, ?_, calls⟩
  rw [tearDown, Action.outcome_bind, said]
  exact stepped

/-- A step whose calls are answered fails as a session, or not at all. -/
theorem stepOutcome_of_answered (step : SessionStep) {reply : Reply}
    (answered : ∀ failure, reply ≠ .broken failure) :
    stepOutcome step reply = .ok () ∨ ∃ status stderr,
      stepOutcome step reply = .error ⟨.usage (.sessionFailed step status stderr), []⟩ := by
  cases reply with
  | finished process =>
    by_cases fine : process.status = 0
    · exact Or.inl (if_pos fine)
    · exact Or.inr ⟨_, _, if_neg fine⟩
  | notStarted refusal => exact Or.inr ⟨_, _, rfl⟩
  | broken failure => exact absurd rfl (answered failure)

/-- After a failure the last command is called, and its own failure becomes a note. -/
theorem returns_tearDownAfter {α : Type} (answers : Answers here.runner (here.callOf command))
    (failed : Raised) (before : World) :
    ∃ raised after, (tearDownAfter here command failed).Returns before raised after ∧
      ending (.error failed : Except Raised α) (stepOutcome .teardown
        (here.runner before.calls (here.callOf command) before.files).1) = .error raised ∧
      after.calls = before.calls ++ [here.callOf command] := by
  obtain ⟨between, torn, calls⟩ := outcome_tearDown here command before
  unfold tearDownAfter
  rcases stepOutcome_of_answered .teardown (answers before.calls before.files) with
    fine | ⟨status, stderr, broke⟩
  · rw [fine] at torn ⊢
    refine ⟨failed, between, Action.returns_tryCatch.2 (Or.inl ?_), rfl, calls⟩
    exact Action.returns_bind.2 ⟨(), between, torn, Action.returns_pure.2 ⟨rfl, rfl⟩⟩
  · rw [broke] at torn ⊢
    obtain ⟨output, said⟩ := Action.exists_returns_report .fail
      (UsageError.sessionFailed .teardown status stderr).text here.emoji none between
    refine ⟨_, { between with output }, Action.returns_tryCatch.2 (Or.inr ⟨_, between,
      Action.fails_bind.2 (Or.inl torn), ?_⟩), rfl, calls⟩
    exact Action.returns_bind.2 ⟨(), _, said, Action.returns_pure.2 ⟨rfl, rfl⟩⟩

/-- The last command is called after whatever the first command and the body come to together. -/
theorem outcome_around_of_inside {α : Type} {body : Action α} {setup teardown : List String}
    (answers : Answers here.runner (here.callOf teardown)) {before : World} {output : String}
    (said : (Action.report .info "Starting test environment setup..." here.emoji).Returns before ()
      { before with output })
    {reached : Except Raised α} {finished : World}
    (inside : (runStep here .setup setup >>= fun _ => body).outcome { before with output } =
      (reached, finished)) :
    ∃ after, (around here setup teardown body).outcome before =
        (ending reached (stepOutcome .teardown
          (here.runner finished.calls (here.callOf teardown) finished.files).1), after) ∧
      after.calls = finished.calls ++ [here.callOf teardown] := by
  cases reached with
  | ok a =>
    have attempted : (Action.attempt (runStep here .setup setup >>= fun _ => body)).Returns
        { before with output } (.ok a) finished :=
      Action.returns_attempt.2 inside
    obtain ⟨after, torn, calls⟩ := outcome_tearDown here teardown finished
    refine ⟨after, ?_, calls⟩
    rw [around, Action.outcome_bind, said]
    simp only
    rw [Action.outcome_bind, attempted]
    simp only
    rw [Action.outcome_bind, torn]
    cases stepOutcome .teardown
      (here.runner finished.calls (here.callOf teardown) finished.files).1 <;> rfl
  | error failed =>
    have attempted : (Action.attempt (runStep here .setup setup >>= fun _ => body)).Returns
        { before with output } (.error failed) finished :=
      Action.returns_attempt.2 inside
    obtain ⟨raised, after, torn, ended, calls⟩ :=
      returns_tearDownAfter (α := α) answers failed finished
    refine ⟨after, ?_, calls⟩
    rw [around, Action.outcome_bind, said, ended]
    simp only
    rw [Action.outcome_bind, attempted]
    simp only
    rw [Action.outcome_bind, torn]
    rfl

/-- A session calls its first command, does its body if that was fine, and calls its last command
in any case. -/
theorem outcome_around {α : Type} {body : Action α} {setup teardown : List String}
    (answers : Answers here.runner (here.callOf teardown)) (before : World) :
    ∃ opened reached finished after,
      opened.calls = before.calls ++ [here.callOf setup] ∧
      (match stepOutcome .setup (here.runner before.calls (here.callOf setup) before.files).1 with
        | .error failed => reached = .error failed ∧ finished = opened
        | .ok () => body.outcome opened = (reached, finished)) ∧
      (around here setup teardown body).outcome before =
        (ending reached (stepOutcome .teardown
          (here.runner finished.calls (here.callOf teardown) finished.files).1), after) ∧
      after.calls = finished.calls ++ [here.callOf teardown] := by
  obtain ⟨output, said⟩ := Action.exists_returns_report .info
    "Starting test environment setup..." here.emoji none before
  obtain ⟨opened, opens, called⟩ := outcome_runStep here .setup setup { before with output }
  simp only at opens called
  cases first : stepOutcome .setup
      (here.runner before.calls (here.callOf setup) before.files).1 with
  | error failed =>
    have inside : (runStep here .setup setup >>= fun _ => body).outcome { before with output } =
        (.error failed, opened) := by
      rw [Action.outcome_bind, opens, first]
    obtain ⟨after, ended, calls⟩ := outcome_around_of_inside answers said inside
    exact ⟨opened, _, opened, after, called, ⟨rfl, rfl⟩, ended, calls⟩
  | ok done =>
    have inside : (runStep here .setup setup >>= fun _ => body).outcome { before with output } =
        body.outcome opened := by
      rw [Action.outcome_bind, opens, first]
    obtain ⟨after, ended, calls⟩ := outcome_around_of_inside answers said inside
    exact ⟨opened, _, _, after, called, rfl, ended, calls⟩

end TestImpact.Session
