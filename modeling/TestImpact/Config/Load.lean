import TestImpact.Config.Basic
import TestImpact.Config.Layers
import TestImpact.Config.Variables
import TestImpact.Document.Toml
import TestImpact.FileSystem.Content

/-!
# Where the configuration of a project comes from

Four layers make a configuration, the lowest first: the table `tool.unitrun` of
`pyproject.toml`, the file `.unitrun.toml`, the switch for containers in the
environment, and what the caller overrides. The two files may refer to environment
variables. A file that is missing is an empty layer.
-/

namespace TestImpact.Config

/-- The file that holds the settings of every tool of a project. -/
def sharedFile : Path := Path.ofString "pyproject.toml"

/-- The file that holds nothing but these settings. -/
def ownFile : Path := Path.ofString ".unitrun.toml"

/-- The variable that switches containers on when it is not empty. -/
def containerSwitch : String := "RUN_PHPUNIT_IN_DOCKER"

/-- The entries of a settings file. -/
def readFile (fs : FileSystem) (file : Path) : Except Failure (List (String × Value)) := do
  if ← orFailure (fs.isFile file) then
    match Utf8.decode? (← orFailure (fs.read file)) with
    | none => throw .undecodable
    | some text =>
      match Toml.parse text with
      | .ok entries => pure entries
      | .error .malformed => throw (.config (.unparsable file))
      | .error (.tooManyDigits count) => throw (.argument (.tooManyDigits count))
      | .error .tooDeep => throw .tooDeep
  else pure []

/-- The table at a key, empty when there is none. -/
def tableAt (entries : List (String × Value)) (key : String) : List (String × Value) :=
  match Value.get? entries key with
  | some (.table inner) => inner
  | _ => []

/-- How deep tables and lists may be nested where variables are looked for. -/
def nestingLimit : Nat := 495

/-- Entries with the values of variables in place. -/
def expanded (env : Variables.Environment) (entries : List (String × Value)) :
    Except Failure (List (String × Value)) :=
  if nestingLimit < (Value.table entries).depth then .error .tooDeep
  else .ok (Variables.expandEntries env entries)

/-- The layer of the shared file. -/
def sharedLayer (fs : FileSystem) (root : Path) (env : Variables.Environment) :
    Except Failure (List (String × Value)) := do
  let entries ← readFile fs (root / sharedFile)
  expanded env (tableAt (tableAt entries "tool") "unitrun")

/-- The layer of the file for these settings. -/
def ownLayer (fs : FileSystem) (root : Path) (env : Variables.Environment) :
    Except Failure (List (String × Value)) := do
  expanded env (← readFile fs (root / ownFile))

/-- The layer of the environment. -/
def switchLayer (env : Variables.Environment) : List (String × Value) :=
  if (env.lookup containerSwitch).getD "" = "" then []
  else [("docker", .table [("enabled", .bool true)])]

/-- What the caller overrides; an override without a value is none. -/
def overrideLayer (overrides : List (String × Value)) : List (String × Value) :=
  overrides.filter fun (_, v) => !(v matches .null)

/-- All layers laid over each other. -/
def document (fs : FileSystem) (root : Path) (env : Variables.Environment)
    (overrides : List (String × Value)) : Except Failure (List (String × Value)) := do
  let shared ← sharedLayer fs root env
  let own ← ownLayer fs root env
  pure (Layers.mergeAll [shared, own, switchLayer env, overrideLayer overrides])

/-- The configuration of a project. -/
def load (fs : FileSystem) (root : Path) (env : Variables.Environment)
    (overrides : List (String × Value)) : Except Failure Config := do
  match ofTable (← document fs root env overrides) with
  | .ok config => pure config
  | .error details => throw (.config (.invalid details))

end TestImpact.Config
