import TestImpact.Config.Setting
import TestImpact.Discovery.Resolver

/-!
# The configuration of a run

`Config` holds every setting with its default. A settings table is read by
`Config.ofTable`, and `Config.assign` changes one setting under the same rules. A
session forces its tests to run one at a time, whatever number of jobs is set
(`Config.effectiveJobs`).
-/

namespace TestImpact

/-- Test processes in containers. -/
structure DockerConfig where
  enabled : Bool := false
  image : String := "phpunit"
  binary : Option String := none
  deriving DecidableEq, Repr

/-- A command before and a command after all tests. -/
structure SessionConfig where
  enabled : Bool := false
  setup : List String := ["setup"]
  teardown : List String := ["shutdown"]
  testEnv : List (String × String) := [("SETUP", "false")]
  deriving DecidableEq, Repr

/-- Every setting of a run. -/
structure Config where
  name : String := "PHPUnit"
  sourceDirectory : Path := Path.ofString "src"
  testDirectory : Path := Path.ofString "test"
  binary : Path := Path.ofString "vendor/bin/phpunit"
  runnerConfig : Option Path := none
  reportsRoot : Path := Path.ofString "reports"
  reports : String := "phpunit"
  coverage : Option Bool := none
  jobs : Int := 4
  timeout : Option Float := some 1800
  strategy : Strategy := .structural
  testKind : String := "functional"
  sourceSuffix : String := ".php"
  testMarker : String := "Test"
  lockFile : Path := Path.ofString "composer.lock"
  installedManifest : Path := Path.ofString "vendor/composer/installed.json"
  interpreter : String := "php"
  requiredModes : List String := ["coverage", "debug"]
  docker : DockerConfig := {}
  session : SessionConfig := {}

instance : Inhabited Config := ⟨{}⟩

/-- The settings for containers. -/
def DockerConfig.settings : List (Setting DockerConfig) := [
  .simple "enabled" Lenient.bool fun c v => { c with enabled := v },
  .simple "image" Lenient.string fun c v => { c with image := v },
  .simple "binary" (Lenient.optional Lenient.string) fun c v => { c with binary := v }]

/-- The settings for sessions. -/
def SessionConfig.settings : List (Setting SessionConfig) := [
  .simple "enabled" Lenient.bool fun c v => { c with enabled := v },
  .composite "setup" (Lenient.strings .listType) fun c v => { c with setup := v },
  .composite "teardown" (Lenient.strings .listType) fun c v => { c with teardown := v },
  .composite "test_env" Lenient.stringTable fun c v => { c with testEnv := v }]

namespace Config

/-- The name of the directory for reports, without trailing slashes. Nothing but slashes is no
name. -/
def reportsName (v : Value) : Except Problem String := do
  let name := Lexical.withoutTrailingSlashes (← Lenient.string v)
  if name = "" then throw (.rule "reports must name a sub-directory") else pure name

/-- A suffix of files, with its dot. -/
def dottedSuffix (v : Value) : Except Problem String := do
  let suffix ← Lenient.string v
  pure (if suffix.toList.head? = some '.' then suffix else "." ++ suffix)

/-- A number of jobs, at least one. -/
def jobCount (v : Value) : Except Problem Int := do
  let n ← Lenient.int v
  if n < 1 then throw .greaterThanEqual else pure n

/-- A time limit above zero. -/
def timeLimit (v : Value) : Except Problem Float := do
  let x ← Lenient.float v
  if x > 0 then pure x else throw .greaterThan

/-- A strategy by its name. -/
def strategyNamed : Value → Except Problem Strategy
  | .string name =>
    if name = Strategy.structural.name then .ok .structural
    else if name = Strategy.declared.name then .ok .declared
    else .error .literalError
  | _ => .error .literalError

/-- The settings, in the order in which they are checked. -/
def settings : List (Setting Config) := [
  .simple "name" Lenient.string fun c v => { c with name := v },
  .simple "source_directory" Lenient.path fun c v => { c with sourceDirectory := v },
  .simple "test_directory" Lenient.path fun c v => { c with testDirectory := v },
  .simple "binary" Lenient.path fun c v => { c with binary := v },
  .simple "runner_config" (Lenient.optional Lenient.path) fun c v => { c with runnerConfig := v },
  .simple "reports_root" Lenient.path fun c v => { c with reportsRoot := v },
  .simple "reports" reportsName fun c v => { c with reports := v },
  .simple "coverage" (Lenient.optional Lenient.bool) fun c v => { c with coverage := v },
  .simple "jobs" jobCount fun c v => { c with jobs := v },
  .simple "timeout" (Lenient.optional timeLimit) fun c v => { c with timeout := v },
  .simple "strategy" strategyNamed fun c v => { c with strategy := v },
  .simple "test_type" Lenient.string fun c v => { c with testKind := v },
  .simple "source_suffix" dottedSuffix fun c v => { c with sourceSuffix := v },
  .simple "test_marker" Lenient.string fun c v => { c with testMarker := v },
  .simple "lock_file" Lenient.path fun c v => { c with lockFile := v },
  .simple "installed_manifest" Lenient.path fun c v => { c with installedManifest := v },
  .simple "php_binary" Lenient.string fun c v => { c with interpreter := v },
  .composite "required_coverage_modes" (Lenient.strings .tupleType)
    fun c v => { c with requiredModes := v },
  .composite "docker" (Setting.readRecord DockerConfig.settings {})
    fun c v => { c with docker := v },
  .composite "session" (Setting.readRecord SessionConfig.settings {})
    fun c v => { c with session := v }]

/-- Reads a settings table. -/
def ofTable (entries : List (String × Value)) : Checked Config :=
  Setting.readTable settings {} entries

/-- Changes the setting at a path of names, of which a longer one leads into the settings for
containers or sessions. Problems are located from the innermost record. -/
def assign? (config : Config) (names : List String) (v : Value) : Option (Checked Config) :=
  match names with
  | ["docker", name] => (Setting.assign? DockerConfig.settings name config.docker v).map fun read =>
      read.map fun docker => { config with docker := docker }
  | ["session", name] =>
    (Setting.assign? SessionConfig.settings name config.session v).map fun read =>
      read.map fun session => { config with session := session }
  | [name] => Setting.assign? settings name config v
  | _ => none

/-- Is coverage collected? It is unless it is switched off. -/
def coverageEnabled (config : Config) : Bool :=
  config.coverage ≠ some false

/-- How many tests run at a time. -/
def effectiveJobs (config : Config) : Int :=
  if config.session.enabled then 1 else config.jobs

/-- How tests are named. -/
def convention (config : Config) : Convention :=
  ⟨config.sourceSuffix, config.testMarker⟩

end Config

end TestImpact
