import TestImpact.Display.Duration
import TestImpact.Result

/-!
# Results on a terminal

While tests run, each result is one character. When all are done, the failing ones are
listed with what was said about them, and a line counts all outcomes.
-/

namespace TestImpact.Results

/-- The style of the badge of an outcome. -/
def badgeStyle : Outcome → Style
  | .pass => Style.badge .white .green
  | .fail | .broken => Style.badge .white .red
  | .skip | .unsound => Style.badge .black .yellow

/-- The name of the test suite above everything else. -/
def header (name : String) : StyledText :=
  StyledText.styled (" " ++ name ++ " ") (Style.badge .white .green)

/-- What stands between the badge and the name of a result: the duration of one that passed. -/
def durationPart (result : TestResult) : Except ArgumentError StyledText :=
  match result.outcome, result.duration with
  | .pass, some seconds => do pure (StyledText.plain " " ++ (← Duration.styled seconds))
  | _, _ => .ok []

/-- What was said about a result that did not pass. -/
def remark (result : TestResult) : StyledText :=
  match result.outcome, result.userData with
  | .pass, _ | _, none | _, some "" => []
  | _, some text => StyledText.plain ("\n" ++ text)

/-- A result in full, with a given text for its duration. -/
def lineWith (duration : StyledText) (result : TestResult) : StyledText :=
  StyledText.plain "  " ++
    StyledText.styled (" " ++ result.outcome.badge ++ " ") (badgeStyle result.outcome) ++
    duration ++ StyledText.plain (" " ++ result.displayName) ++ remark result

/-- A result in full. -/
def line (result : TestResult) : Except ArgumentError StyledText := do
  pure (lineWith (← durationPart result) result)

/-- A result that did not pass is shown without its duration. -/
theorem line_of_not_pass {result : TestResult} (h : result.outcome ≠ .pass) :
    line result = .ok (lineWith [] result) := by
  have none_ : durationPart result = .ok [] := by
    unfold durationPart
    split
    next pass _ => exact absurd pass h
    next => rfl
  rw [line, none_]
  rfl

/-- The failing results below a heading; nothing when none failed. -/
def failing (results : List TestResult) : List StyledText :=
  let failed := results.filter (·.outcome.isFailure)
  if failed.isEmpty then []
  else
    StyledText.styled " Failed Test Results: " (Style.badge .white .red) ::
      failed.map (lineWith [])

/-- The counts of a report in words. -/
def counts (report : RunReport) : List String :=
  (Outcome.all.filterMap fun outcome =>
    let count := report.count outcome
    if count = 0 then none else some s!"{count} {outcome.word}") ++
    if report.failures.isEmpty then [] else [s!"{report.failures.length} unparsable report(s)"]

/-- The line that counts all outcomes. -/
def summary (report : RunReport) : StyledText :=
  let parts := counts report
  StyledText.styled (if parts.isEmpty then "no results" else ", ".intercalate parts)
    (Style.ofHue (if report.hasFailures then .red else .green))

/-- Everything that is said when all tests are done: the end of the line of characters, an
empty line, the failing results and the counts. -/
def closing (report : RunReport) : List StyledText :=
  StyledText.plain "" :: StyledText.plain "" :: failing report.results ++ [summary report]

end TestImpact.Results
