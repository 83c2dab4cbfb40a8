import TestImpact.Discovery.Resolver
import TestImpact.Report.Clover
import TestImpact.Report.Junit
import TestImpact.Report.LineCount
import TestImpact.Report.TestName

/-!
# The results of a test file

A test process leaves a JUnit report, a Clover report when coverage is on, and what it
wrote to its error stream. A process that wrote to the error stream or left no report
has crashed, which is one broken result.
-/

namespace TestImpact.Reading

/-- Is there nothing but blanks in a text? -/
def isBlankText (text : String) : Bool :=
  text.toList.all Text.isBlank

/-- The result of a process that crashed. -/
def crash (testPath stderr : String) : TestResult :=
  { name := testPath, outcome := .broken, userData := some stderr, testPath := some testPath }

/-- The result of a test case. -/
def resultOf (testPath : String) (coverage : Option CoverageMap) (case : Junit.Case) :
    TestResult :=
  let (owner, name) := TestName.split case.suite case.name
  { owner, name, outcome := case.outcome, duration := case.duration, userData := case.message
    coverage, testPath := some testPath }

section

variable {m : Type → Type} [Monad m] [MonadExceptOf Failure m]

/-- The results of a test file from its reports, seen from a working directory. `count` gives the
number of lines of a source file. -/
def resultsBy (cwd : String) (root : Path) (count : String → m Int) (testPath junit : String)
    (clover : Option String) (stderr : String) : m (List TestResult) := do
  if isBlankText junit || stderr ≠ "" then pure [crash testPath stderr]
  else
    match Junit.parse junit with
    | .error failure => throw failure
    | .ok cases =>
      let coverage ← clover.mapM (Clover.parse cwd root count)
      pure (cases.map (resultOf testPath coverage))

end

/-- The results of a test file from its reports and the source files that there are. -/
def results (fs : FileSystem) (root : Path) (testPath junit : String) (clover : Option String)
    (stderr : String) : Counting (List TestResult) :=
  resultsBy fs.cwd root (LineCounts.count fs root) testPath junit clover stderr

end TestImpact.Reading
