import TestImpact.Error
import TestImpact.Number.Numeral
import TestImpact.Result
import TestImpact.Xml.Reader

/-!
# JUnit reports

A JUnit report nests test cases in suites. `Junit.cases` lists those that only suites
lead to, in document order, each with the suite it is counted under. Suites may be nested
`nestingLimit` deep.
-/

namespace TestImpact.Junit

/-- A test case of a report. -/
structure Case where
  suite : String
  name : String
  outcome : Outcome
  duration : Option Float
  message : Option String

/-- The texts by which an error turns out to be a skipped test. -/
def skipMarkers : List String := ["Skipped Test:", "Incomplete Test:"]

/-- The message of an element: its text, or else its attribute. -/
def message (element : Element) : String :=
  let text := Text.trim element.text
  if text = "" then (element.attribute? "message").getD "" else text

/-- Does a message say that the test was skipped? -/
def saysSkipped (message : String) : Bool :=
  skipMarkers.any fun marker => Text.occurs marker.toList message.toList

/-- The outcome of a case and the message that goes with it. -/
def classify (case : Element) : Outcome × Option String :=
  match case.child? "failure" with
  | some failure => (.fail, some (message failure))
  | none =>
    match case.child? "error" with
    | some error =>
      (if saysSkipped (message error) then .skip else .broken, some (message error))
    | none =>
      match case.child? "skipped" with
      | some skipped => (.skip, if message skipped = "" then none else some (message skipped))
      | none =>
        match case.child? "warning" with
        | some warning => (.unsound, some (message warning))
        | none => (.pass, none)

/-- The time of a case in seconds. -/
def seconds (case : Element) : Except ReportError (Option Float) :=
  match case.attribute? "time" with
  | none => .ok none
  | some raw =>
    match Numeral.float? raw with
    | some seconds => .ok (some seconds)
    | none => .error (.time raw)

/-- An attribute that is there and not empty. -/
def nonEmpty? (element : Element) (name : String) : Option String :=
  (element.attribute? name).filter (· ≠ "")

/-- Reads a case that lies in a suite. -/
def Case.of (suite : String) (case : Element) : Except ReportError Case := do
  let (outcome, message) := classify case
  pure {
    suite := ((nonEmpty? case "class").or (nonEmpty? case "classname")).getD suite
    name := (case.attribute? "name").getD ""
    outcome
    duration := ← seconds case
    message }

/-- How deep suites may be nested. -/
def nestingLimit : Nat := 990

mutual

/-- The cases of an element in a suite: of a case itself, of a suite those in it, of anything
else none. `levels` counts the suites that may still be nested in each other. -/
def casesOf (levels : Nat) (suite : String) : Element → Except Failure (List Case)
  | .mk tag attributes text children =>
    if tag = "testsuite" then
      if levels = 0 then .error .tooDeep
      else casesIn (levels - 1) ((attributes.lookup "name").getD suite) children
    else if tag = "testcase" then do
      pure [← (Case.of suite (.mk tag attributes text children)).mapError .report]
    else .ok []

/-- The cases of elements in a suite. -/
def casesIn (levels : Nat) (suite : String) : List Element → Except Failure (List Case)
  | [] => .ok []
  | element :: rest => do
    let first ← casesOf levels suite element
    pure (first ++ (← casesIn levels suite rest))

end

/-- The cases of a document. The root may be a case, a suite or anything around them. -/
def cases (root : Element) : Except Failure (List Case) :=
  if root.tag = "testcase" then casesOf nestingLimit "" root
  else
    casesIn nestingLimit
      (if root.tag = "testsuite" then (root.attribute? "name").getD "" else "") root.children

/-- Reads the cases of a report. -/
def parse (xml : String) : Except Failure (List Case) :=
  match Xml.parse xml with
  | .ok root => cases root
  | .error problem => .error (.report (.junit problem))

end TestImpact.Junit
