import TestImpact.Path.Basic
import TestImpact.Text.Uppercase

/-!
# How tests are named

A source file `lib/helper.php` has its test in `HelperTest.php`: the first letter of the
stem becomes a capital and a marker stands before the extension. A `Convention`
holds the marker and the extension.
-/

namespace TestImpact

/-- How source files end and what marks a test file. -/
structure Convention where
  sourceSuffix : String := ".php"
  testMarker : String := "Test"
  deriving DecidableEq, Repr

namespace Convention

/-- How test files end. -/
def testSuffix (convention : Convention) : String :=
  convention.testMarker ++ convention.sourceSuffix

/-- How test files of a kind such as `functional` end. -/
def testSuffixOf (convention : Convention) (kind : String) : String :=
  String.ofList (Text.capitalised kind.toList) ++ convention.testSuffix

/-- Does a text end with a suffix? -/
def endsWith (text suffix : String) : Bool :=
  suffix.toList.isSuffixOf text.toList

/-- A name without a suffix that it ends with. An empty suffix takes the whole name away. -/
def withoutSuffix (name suffix : List Char) : List Char :=
  if suffix.isEmpty then [] else name.take (name.length - suffix.length)

/-- The name of the test of a source file. -/
def testName (convention : Convention) (name : List Char) : List Char :=
  let suffix := convention.sourceSuffix.toList
  let stem := if suffix.isSuffixOf name then withoutSuffix name suffix else name
  Text.capitalised stem ++ convention.testSuffix.toList

/-- Cuts a path behind its last slash. The directory keeps its trailing slashes only when it
is made of slashes alone. -/
def cutName (path : List Char) : List Char × List Char :=
  let name := (path.reverse.takeWhile (· ≠ '/')).reverse
  let head := path.take (path.length - name.length)
  let directory := Text.dropTrailing '/' head
  (if directory.isEmpty then head else directory, name)

/-- Puts a name behind a directory. -/
def joinName (directory name : List Char) : List Char :=
  if directory.isEmpty || name.head? = some '/' then name
  else if directory.getLast? = some '/' then directory ++ name
  else directory ++ '/' :: name

/-- The path of the test of a source file, in the directory of the source file. -/
def counterpart (convention : Convention) (source : String) : String :=
  let (directory, name) := cutName source.toList
  String.ofList (joinName directory (convention.testName name))

end Convention

end TestImpact
