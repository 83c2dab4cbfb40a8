import TestImpact.Execution.Outputs

/-!
# Commands of test processes

The test runner is called once per test file and told where to write its reports. It may
run in a container that sees the project and the reports under their own names.
-/

namespace TestImpact

/-- What commands are made from. A container is used when there is an image. -/
structure CommandBuilder where
  binary : Path
  root : Path
  runnerConfig : Option Path := none
  image : Option String := none
  binaryInside : Option String := none
  deriving DecidableEq, Repr

namespace CommandBuilder

/-- Do tests run in containers? -/
def usesDocker (builder : CommandBuilder) : Bool :=
  builder.image.isSome

/-- Refuses to go on when containers are asked for and cannot be had. -/
def requireAvailable (builder : CommandBuilder) : Action Unit := do
  if builder.usesDocker then
    if (← Action.findProgram "docker").isNone then Action.fail (.usage .dockerMissing)

/-- The argument that makes a path visible under its own name. -/
def volume (path : Path) : String :=
  s!"--volume={path}:{path}"

/-- The test runner as it is named inside a container. -/
def inside (builder : CommandBuilder) : String :=
  match builder.binaryInside with
  | none | some "" => builder.binary.toString
  | some name => name

/-- The command up to the test runner. -/
def leading (builder : CommandBuilder) (outputs : Outputs) : List String :=
  match builder.image with
  | none => [builder.binary.toString]
  | some image =>
    ["docker", "run", "--rm", volume builder.root, volume outputs.junit] ++
      (outputs.clover.map volume).toList ++ [s!"--workdir={builder.root}", image, builder.inside]

/-- The arguments of the test runner. -/
def runnerArguments (config : Option Path) (outputs : Outputs) : List String :=
  (config.map fun path => s!"--configuration={path}").toList ++
    ["-d", "display_errors=stderr", s!"--log-junit={outputs.junit}"] ++
    (outputs.clover.map fun path => s!"--coverage-clover={path}").toList

/-- The command that runs a test file. -/
def build (builder : CommandBuilder) (testPath : String) (outputs : Outputs) : List String :=
  builder.leading outputs ++ runnerArguments builder.runnerConfig outputs ++ [testPath]

/-- The command of a session step. -/
def sessionCommand (builder : CommandBuilder) (step : List String) : List String :=
  builder.binary.toString :: step

end CommandBuilder

end TestImpact
