import TestImpact.Discovery.CoversTag
import TestImpact.Path.Lexical

/-!
# From changed paths to affected tests

A changed test file affects itself, a changed source file the tests its strategy
names, and a changed directory every test below it or below its place in the test
tree. The structural strategy names the test at the same place in the test tree,
the strategy by declaration the tests that declare to cover the class of the file. The
latter reads all tests once and remembers them (`Memory`).
-/

namespace TestImpact

/-- The text of the working directory. -/
def FileSystem.cwd (fs : FileSystem) : String :=
  (FileSystem.pathOf fs.workingDirectory).toString

/-- How the tests of a source file are found. -/
inductive Strategy where
  | structural
  | declared
  deriving DecidableEq, Repr

/-- The name of a strategy. -/
def Strategy.name : Strategy → String
  | .structural => "structural"
  | .declared => "annotation"

/-- Can the strategy run every test there is? -/
def Strategy.runsAll : Strategy → Bool
  | .structural => true
  | .declared => false

/-- Changed paths in the order given, each with the tests it affects. -/
abbrev Affected := List (String × List String)

/-- Gives a changed path its tests. A known path keeps its place. -/
def Affected.put (affected : Affected) (path : String) (tests : List String) : Affected :=
  match affected with
  | [] => [(path, tests)]
  | (p, old) :: rest =>
    if p = path then (path, tests) :: rest else (p, old) :: put rest path tests

/-- Every file below a directory whose name ends with `suffix`, spelled with the directory as
it is given. Where no directory is, nothing is found. -/
def testsBelow (fs : FileSystem) (base : Option Path) (directory suffix : String) :
    Except Failure (List String) := do
  let onDisk := CoverageIndex.anchored base directory
  match fs.locate true onDisk with
  | .ok (.entry location .directory) =>
    let found := (fs.filesBelow location).filter fun names =>
      Convention.endsWith (names.getLastD "") suffix
    pure (found.map fun names =>
      Lexical.withoutTrailingSlashes directory ++ "/" ++ "/".intercalate names)
  | .error fault => if fault.isAbsence then pure [] else throw (.file fault)
  | .ok _ => pure []

/-- Where sources and tests lie and how they are found. -/
structure Resolver where
  strategy : Strategy := .structural
  sourceRoot : String
  testRoot : String
  convention : Convention := {}
  testKind : String := "functional"
  base : Option Path := none
  deriving DecidableEq, Repr

/-- The index of all tests, once they have been read. -/
abbrev Memory := Option CoverageIndex

/-- An action that may fail and remembers the index. -/
abbrev Resolving := ExceptT Failure (StateM Memory)

namespace Resolver

/-- Where a path is found on disk. -/
def onDisk (r : Resolver) (path : String) : Path :=
  CoverageIndex.anchored r.base path

/-- The index of all tests, read on the first demand. -/
def index (r : Resolver) (fs : FileSystem) : Resolving CoverageIndex := do
  match ← get with
  | some index => pure index
  | none =>
    let tests ← testsBelow fs r.base r.testRoot (r.convention.testSuffixOf r.testKind)
    let index ← CoverageIndex.build fs r.base tests
    set (some index)
    pure index

/-- The path of a source file moved to the test root and renamed to its test. -/
def counterpart (r : Resolver) (fs : FileSystem) (path : String) : Except Failure String :=
  let renamed := r.convention.counterpart path
  match Lexical.transplant? fs.cwd renamed r.sourceRoot r.testRoot with
  | some test => .ok test
  | none => .error (.outside renamed r.sourceRoot)

/-- The tests of a source file. -/
def testsOfSource (r : Resolver) (fs : FileSystem) (path : String) : Resolving (List String) := do
  match r.strategy with
  | .structural => pure [← r.counterpart fs path]
  | .declared =>
    match ← CoversTag.sourceClass fs (Path.ofString path) r.convention.sourceSuffix with
    | none => pure []
    | some className => pure ((← r.index fs).testsOf className)

/-- The tests of a changed directory. -/
def testsOfDirectory (r : Resolver) (fs : FileSystem) (path place : String) :
    Except Failure (List String) :=
  if Lexical.within fs.cwd place r.testRoot then
    testsBelow fs r.base path r.convention.testSuffix
  else
    match Lexical.transplant? fs.cwd place r.sourceRoot r.testRoot with
    | some directory => testsBelow fs none directory r.convention.testSuffix
    | none => .ok []

/-- The tests that a changed path affects. -/
def testsOf (r : Resolver) (fs : FileSystem) (path : String) : Resolving (List String) := do
  let place := (r.onDisk path).toString
  if ← orFailure (fs.isDirectory (r.onDisk path)) then r.testsOfDirectory fs path place
  else if !Convention.endsWith path r.convention.sourceSuffix then pure []
  else
    let itself :=
      if Lexical.within fs.cwd place r.testRoot &&
        Convention.endsWith path r.convention.testSuffix then [path] else []
    let others ←
      if Lexical.within fs.cwd place r.sourceRoot then r.testsOfSource fs place else pure []
    pure (itself ++ others)

/-- The tests that each of some changed paths affects. -/
def resolve (r : Resolver) (fs : FileSystem) (paths : List String) : Resolving Affected :=
  paths.foldlM (fun affected path => do
    pure (Affected.put affected path (← r.testsOf fs path))) []

end Resolver

end TestImpact
