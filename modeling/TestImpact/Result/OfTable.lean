import TestImpact.Config.Setting
import TestImpact.Result

/-!
# Results from given values

A result may be made from a table of values. Its name and outcome must be there, and
its coverage must be made of the letters of line states.
-/

namespace TestImpact.TestResult

/-- The outcome of a word. -/
def outcomeOf : Value → Except Problem Outcome
  | .string word =>
    match Outcome.ofWord? word with
    | some outcome => .ok outcome
    | none => .error .choice
  | _ => .error .choice

/-- The states of the lines of each file. The first file with an unknown letter is reported. -/
def coverageOfTexts : List (String × String) → Checked CoverageMap
  | [] => .ok []
  | (path, text) :: rest =>
    match LineState.ofText? text with
    | some states => (coverageOfTexts rest).map ((path, states) :: ·)
    | none => .error [⟨[], .rule
        s!"coverage for {path} contains unknown states: {LineState.unknownLetters text}"⟩]

/-- Coverage, if there is any. -/
def coverageOf : Value → Checked (Option CoverageMap)
  | .null => .ok none
  | v => do pure (some (← coverageOfTexts (← Lenient.stringTable v)))

/-- The fields of a result, in the order in which they are checked. -/
def settings : List (Setting TestResult) := [
  .simple "namespace" Lenient.string fun r v => { r with owner := v },
  (Setting.simple "name" Lenient.string fun r v => { r with name := v }).needed,
  (Setting.simple "result" outcomeOf fun r v => { r with outcome := v }).needed,
  .simple "duration" (Lenient.optional Lenient.float) fun r v => { r with duration := v },
  .simple "user_data" (Lenient.optional Lenient.string) fun r v => { r with userData := v },
  .composite "coverage" coverageOf fun r v => { r with coverage := v },
  .simple "test_path" (Lenient.optional Lenient.string) fun r v => { r with testPath := v }]

/-- Reads a result. -/
def ofTable (entries : List (String × Value)) : Checked TestResult :=
  Setting.readTable settings { name := "", outcome := .pass } entries

end TestImpact.TestResult
