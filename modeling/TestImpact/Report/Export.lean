import TestImpact.Document.JsonWriter
import TestImpact.Error
import TestImpact.FileSystem.Content
import TestImpact.Result

/-!
# Reports for other programs

A report is written as a JSON document with two spaces of indentation per level. The
directories above it are made on the way.
-/

namespace TestImpact.Export

/-- A text that may be missing. -/
def optionalText : Option String → Value
  | some text => .string text
  | none => .null

/-- The letters of the lines of each file. -/
def coverageValue (coverage : CoverageMap) : Value :=
  .table (coverage.map fun (path, states) => (path, .string (LineState.text states)))

/-- A result as a value. -/
def resultValue (result : TestResult) : Value :=
  .table [
    ("namespace", .string result.owner),
    ("name", .string result.name),
    ("result", .string result.outcome.word),
    ("duration", (result.duration.map Value.float).getD .null),
    ("user_data", optionalText result.userData),
    ("coverage", (result.coverage.map coverageValue).getD .null),
    ("test_path", optionalText result.testPath)]

/-- A report that could not be understood, as a value. -/
def failureValue (failure : JobFailure) : Value :=
  .table [("test_path", .string failure.testPath), ("message", .string failure.message)]

/-- A report as a value. -/
def reportValue (report : RunReport) : Value :=
  .table [
    ("results", .list (report.results.map resultValue)),
    ("failures", .list (report.failures.map failureValue)),
    ("stale_dependencies", .list (report.stale.map Value.string))]

/-- A report as a document. -/
def document (report : RunReport) : String :=
  Json.write (.indented 2) (reportValue report)

/-- Writes a report to a file. -/
def write (fs : FileSystem) (report : RunReport) (destination : Path) :
    Except Fault FileSystem := do
  let fs ← fs.makeDirectories destination.parent
  fs.writeText destination (document report)

end TestImpact.Export
