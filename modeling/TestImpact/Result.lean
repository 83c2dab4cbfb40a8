/-!
# Results of test cases

A `TestResult` is what one executed test case came to, whatever report it was read
from. Coverage is one `LineState` per line of a source file, so a coverage text with
an unknown character stands for nothing (`LineState.ofText?`).
-/

namespace TestImpact

/-- What a test case came to. -/
inductive Outcome where
  | pass
  | fail
  | broken
  | skip
  | unsound
  deriving DecidableEq, Repr

namespace Outcome

/-- The outcomes in the order they are counted. -/
def all : List Outcome := [.pass, .fail, .broken, .skip, .unsound]

/-- The word for an outcome. -/
def word : Outcome → String
  | .pass => "pass"
  | .fail => "fail"
  | .broken => "broken"
  | .skip => "skip"
  | .unsound => "unsound"

/-- The outcome that a word stands for. -/
def ofWord? (word : String) : Option Outcome :=
  all.find? (·.word = word)

/-- The outcome on a badge. -/
def badge : Outcome → String
  | .pass => "PASS"
  | .fail => "FAIL"
  | .broken => "BROKEN"
  | .skip => "SKIP"
  | .unsound => "UNSOUND"

/-- The character that shows an outcome while tests run. -/
def mark : Outcome → String
  | .pass => "."
  | .fail => "F"
  | .skip => "S"
  | .broken => "E"
  | .unsound => "U"

/-- Does an outcome fail the run? -/
def isFailure : Outcome → Bool
  | .fail | .broken | .unsound => true
  | .pass | .skip => false

end Outcome

/-- What is known about one line of a source file. -/
inductive LineState where
  | covered
  | uncovered
  | notApplicable
  deriving DecidableEq, Repr

namespace LineState

/-- The letter of a state. -/
def letter : LineState → Char
  | .covered => 'C'
  | .uncovered => 'U'
  | .notApplicable => 'N'

/-- The state of a letter. -/
def ofLetter? : Char → Option LineState
  | 'C' => some .covered
  | 'U' => some .uncovered
  | 'N' => some .notApplicable
  | _ => none

/-- The letters of the lines of a file. -/
def text (states : List LineState) : String :=
  String.ofList (states.map letter)

/-- The states that a text of letters stands for. -/
def ofText? (text : String) : Option (List LineState) :=
  text.toList.mapM ofLetter?

/-- The letters of a text that stand for no state, each once and in order. -/
def unknownLetters (text : String) : String :=
  let unknown := (text.toList.filter fun c => (ofLetter? c).isNone).eraseDups
  String.ofList (unknown.mergeSort fun a b => a.toNat ≤ b.toNat)

theorem ofLetter?_letter (state : LineState) : ofLetter? state.letter = some state := by
  cases state <;> rfl

end LineState

/-- Source files in the order they were first met, each with the states of its lines. -/
abbrev CoverageMap := List (String × List LineState)

/-- Gives a file its states. A known file keeps its place. -/
def CoverageMap.put (coverage : CoverageMap) (path : String) (states : List LineState) :
    CoverageMap :=
  match coverage with
  | [] => [(path, states)]
  | (p, old) :: rest =>
    if p = path then (path, states) :: rest else (p, old) :: put rest path states

/-- What one executed test case came to. -/
structure TestResult where
  owner : String := ""
  name : String
  outcome : Outcome
  duration : Option Float := none
  userData : Option String := none
  coverage : Option CoverageMap := none
  testPath : Option String := none

/-- The name a result is shown under. -/
def TestResult.displayName (result : TestResult) : String :=
  if result.owner = "" then result.name else result.owner ++ "::" ++ result.name

/-- A test file whose reports could not be understood. -/
structure JobFailure where
  testPath : String
  message : String
  deriving DecidableEq, Repr

/-- Everything a run came to. -/
structure RunReport where
  results : List TestResult := []
  failures : List JobFailure := []
  stale : List String := []

namespace RunReport

/-- Did any test fail, or could any report not be understood? -/
def hasFailures (report : RunReport) : Bool :=
  !report.failures.isEmpty || report.results.any (·.outcome.isFailure)

/-- How many results had an outcome. -/
def count (report : RunReport) (outcome : Outcome) : Nat :=
  report.results.countP (·.outcome = outcome)

end RunReport

end TestImpact
