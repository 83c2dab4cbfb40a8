import TestImpact.Digest.Md5
import TestImpact.World

/-!
# Where test processes leave their reports

Every test file has a JUnit report, and a Clover report when coverage is on, each in a
directory of its own. The name of a report is the name of the test file with the
beginning of a digest of its whole path, so files of one name in different directories
have different reports.
-/

namespace TestImpact

/-- The reports of one test file. -/
structure Outputs where
  junit : Path
  clover : Option Path := none
  deriving DecidableEq, Repr

namespace Outputs

/-- The text of a report, empty when there is none. -/
def text (files : FileSystem) (path : Path) : Except Failure String :=
  match files.readText path with
  | .ok text => .ok text
  | .error .missing => .ok ""
  | .error fault => .error (.file fault)

/-- The texts of the JUnit report and of the Clover report, which is read first. -/
def texts (files : FileSystem) (outputs : Outputs) :
    Except Failure (String × Option String) := do
  let clover ← outputs.clover.mapM (text files)
  pure (← text files outputs.junit, clover)

end Outputs

/-- Where reports go. -/
structure ReportPlace where
  directory : Path
  coverage : Bool
  deriving DecidableEq, Repr

namespace ReportPlace

/-- The name of a file without its extension. Dots that a name begins with are part of it. -/
def stem (name : List Char) : List Char :=
  let dots := name.takeWhile (· = '.')
  let rest := name.drop dots.length
  let ending := rest.reverse.takeWhile (· ≠ '.')
  if ending.length = rest.length then name
  else dots ++ rest.take (rest.length - ending.length - 1)

/-- The last segment of a path in which backslashes count as slashes. -/
def lastSegment (path : String) : List Char :=
  ((Lexical.slashed path).toList.reverse.takeWhile (· ≠ '/')).reverse

/-- How many digits of the digest are part of a name. -/
def digestLength : Nat := 8

/-- The name of the reports of a test file. -/
def reportName (testPath : String) : String :=
  String.ofList (stem (lastSegment testPath) ++
    '-' :: (Md5.hex (Utf8.encode testPath)).take digestLength)

/-- The name of the file of a report. -/
def fileName (testPath : String) : String :=
  reportName testPath ++ ".xml"

/-- The directory of the JUnit reports. -/
def junitDirectory (place : ReportPlace) : Path :=
  place.directory / Path.ofString "junit"

/-- The directory of the Clover reports. -/
def cloverDirectory (place : ReportPlace) : Path :=
  place.directory / Path.ofString "clover"

/-- The reports of a test file. -/
def outputs (place : ReportPlace) (testPath : String) : Outputs :=
  { junit := place.junitDirectory / Path.ofString (fileName testPath)
    clover := if place.coverage
      then some (place.cloverDirectory / Path.ofString (fileName testPath))
      else none }

/-- Makes a directory and removes a report of an earlier run from it. -/
def clear (directory report : Path) : Action Unit := do
  Action.change (·.makeDirectories directory)
  Action.change (·.remove report)

/-- Makes room for the reports of a test file. -/
def allocate (place : ReportPlace) (testPath : String) : Action Outputs := do
  let outputs := place.outputs testPath
  clear place.junitDirectory outputs.junit
  if let some clover := outputs.clover then clear place.cloverDirectory clover
  pure outputs

end ReportPlace

end TestImpact
