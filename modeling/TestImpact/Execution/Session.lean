import TestImpact.Number.Fixed
import TestImpact.World

/-!
# Sessions

A session runs a command before its body and another one after it. The second one runs
in any case, also when the first one or the body fails. The failure of the body is the
one that goes out; if the last command fails then, too, that is reported and noted.
-/

namespace TestImpact.Session

/-- How the steps of a session are run. -/
structure Surroundings where
  runner : Runner
  options : Option ProcessOptions := none
  emoji : Bool := true

/-- Runs one step. -/
def runStep (here : Surroundings) (step : SessionStep) (command : List String) : Action Unit := do
  let started ← Action.tick
  match ← Action.call here.runner ⟨command, here.options⟩ with
  | .error refusal => Action.fail (.usage (.sessionFailed step refusedStatus refusal.text))
  | .ok process =>
    if process.status ≠ 0 then
      Action.fail (.usage (.sessionFailed step process.status (process.err.getD "")))
    let elapsed := (← Action.tick) - started
    Action.report .ok s!"Test environment {step.name} completed in {Fixed.write 2 elapsed}s"
      here.emoji

/-- Says that the last command begins and runs it. -/
def tearDown (here : Surroundings) (teardown : List String) : Action Unit := do
  Action.report .info "Tearing down test environment..." here.emoji
  runStep here .teardown teardown

/-- The last command after a failure: its own failure is reported and noted with the first. -/
def tearDownAfter (here : Surroundings) (teardown : List String) (failed : Raised) :
    Action Raised := do
  tryCatch (do tearDown here teardown; pure failed) fun second =>
    match second.failure with
    | .usage (.sessionFailed step status stderr) => do
      let error := UsageError.sessionFailed step status stderr
      Action.report .fail error.text here.emoji
      pure { failed with notes := failed.notes ++ ["teardown also failed: " ++ error.message] }
    | _ => throw second

/-- Runs a body between the two commands. -/
def around {α : Type} (here : Surroundings) (setup teardown : List String) (body : Action α) :
    Action α := do
  Action.report .info "Starting test environment setup..." here.emoji
  match ← Action.attempt (do runStep here .setup setup; body) with
  | .ok a => do
    tearDown here teardown
    pure a
  | .error failed => throw (← tearDownAfter here teardown failed)

end TestImpact.Session
