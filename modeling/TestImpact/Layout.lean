import TestImpact.Config.Basic
import TestImpact.Error

/-!
# Where the parts of a project lie

A `Layout` holds the absolute places that a configuration names relative to the root of
a project. Unless it is told not to, making one asks for every place that a run needs:
the two source trees, the settings of the test runner, and the test runner itself, which
a container brings along.
-/

namespace TestImpact

/-- The absolute places of a project. -/
structure Layout where
  root : Path
  sourceRoot : String
  testRoot : String
  binary : Path
  runnerConfig : Option Path
  reportsDirectory : Path
  deriving DecidableEq, Repr

namespace Layout

/-- Goes on if the answer is yes. -/
def demand (answer : Except Fault Bool) (missing : UsageError) : Except Failure Unit := do
  if !(← orFailure answer) then throw (.usage missing)

/-- Refuses a directory that is not there. -/
def requireDirectory (fs : FileSystem) (path : Path) (key : String) : Except Failure Unit :=
  demand (fs.isDirectory path) (.pathMissing path key)

/-- Refuses settings of the test runner that are not there. -/
def requireRunnerConfig (fs : FileSystem) (path : Option Path) : Except Failure Unit := do
  if let some path := path then demand (fs.isPresent path) (.pathMissing path "runner_config")

/-- Refuses a test runner that is no file or may not be run. -/
def requireRunner (fs : FileSystem) (path : Path) : Except Failure Unit := do
  demand (fs.isFile path) (.runnerMissing path)
  demand (fs.isExecutable path) (.runnerMissing path)

/-- The places of a project whose root has no links left in it. -/
def below (config : Config) (cwd : String) (root : Path) : Layout :=
  { root
    sourceRoot := Lexical.canonicalRoot cwd (root / config.sourceDirectory).toString none
    testRoot := Lexical.canonicalRoot cwd (root / config.testDirectory).toString none
    binary := root / config.binary
    runnerConfig := config.runnerConfig.map (root / ·)
    reportsDirectory := root / config.reportsRoot / Path.ofString config.reports }

/-- Refuses a project that lacks a place which a run needs. -/
def require (fs : FileSystem) (config : Config) (layout : Layout) : Except Failure Unit := do
  requireDirectory fs (layout.root / config.sourceDirectory) "source_directory"
  requireDirectory fs (layout.root / config.testDirectory) "test_directory"
  requireRunnerConfig fs layout.runnerConfig
  if !config.docker.enabled then requireRunner fs layout.binary

/-- The places of a project. -/
def ofConfig (fs : FileSystem) (config : Config) (root : Path) (checked : Bool) :
    Except Failure Layout := do
  match fs.resolve root with
  | .error circle => throw (.linkCircle circle)
  | .ok root =>
    let layout := below config fs.cwd root
    if checked then require fs config layout
    pure layout

end Layout

end TestImpact
