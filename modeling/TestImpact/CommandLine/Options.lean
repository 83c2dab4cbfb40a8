import TestImpact.CommandLine.Switch
import TestImpact.Config.Basic

/-!
# The commands and their options

`run` runs the tests that some paths affect, and `stale` lists packages that are out of
date. `Command.read?` reads either from the arguments of the program; arguments that
make no command are a mistake of the caller.
-/

namespace TestImpact.CommandLine

/-- The options of `run`. -/
structure RunFlags where
  root : Path := {}
  everything : Bool := false
  coverage : Option Bool := none
  jobs : Option Int := none
  timeout : Option Float := none
  export_ : Option Path := none
  emoji : Bool := true
  colour : Bool := true
  debug : Bool := false

/-- The options of `stale`. -/
structure StaleFlags where
  root : Path := {}
  emoji : Bool := true
  deriving DecidableEq, Repr

/-- A number of jobs, at least one. -/
def jobCount? (text : String) : Option Int :=
  (Numeral.int? text).filter (1 ≤ ·)

/-- The shortest time limit in seconds. -/
def leastTimeout : Float := 0.1

/-- A time limit that is not shorter than the shortest. -/
def timeout? (text : String) : Option Float :=
  (Numeral.float? text).filter fun seconds => !(seconds < leastTimeout)

/-- The options of `run` by their words. -/
def runSwitches : Switches RunFlags :=
  let root : Effect RunFlags := .value fun flags text =>
    some { flags with root := Path.ofString text }
  let jobs : Effect RunFlags := .value fun flags text =>
    (jobCount? text).map fun count => { flags with jobs := some count }
  [("--root", root), ("-r", root), ("--jobs", jobs), ("-j", jobs),
    ("--timeout", .value fun flags text =>
      (timeout? text).map fun seconds => { flags with timeout := some seconds }),
    ("--json-out", .value fun flags text =>
      some { flags with export_ := some (Path.ofString text) }),
    ("--everything", .set ({ · with everything := true })),
    ("--coverage", .set ({ · with coverage := some true })),
    ("--no-coverage", .set ({ · with coverage := some false })),
    ("--emoji", .set ({ · with emoji := true })),
    ("--no-emoji", .set ({ · with emoji := false })),
    ("--color", .set ({ · with colour := true })),
    ("--no-color", .set ({ · with colour := false })),
    ("--debug", .set ({ · with debug := true }))]

/-- The options of `stale` by their words. -/
def staleSwitches : Switches StaleFlags :=
  let root : Effect StaleFlags := .value fun flags text =>
    some { flags with root := Path.ofString text }
  [("--root", root), ("-r", root),
    ("--emoji", .set ({ · with emoji := true })),
    ("--no-emoji", .set ({ · with emoji := false }))]

/-- What the program is asked to do. -/
inductive Command where
  | run (flags : RunFlags) (paths : List String)
  | stale (flags : StaleFlags)

/-- Reads the arguments of a command. -/
def Command.ofName? (name : String) (arguments : List String) : Option Command :=
  match name with
  | "run" => (read runSwitches {} arguments).map fun (flags, paths) => .run flags paths
  | "stale" =>
    match read staleSwitches {} arguments with
    | some (flags, []) => some (.stale flags)
    | _ => none
  | _ => none

/-- Reads the arguments of the program: the name of a command and what belongs to it. -/
def Command.read? : List String → Option Command
  | "--" :: name :: arguments => Command.ofName? name arguments
  | name :: arguments => Command.ofName? name arguments
  | [] => none

/-- The options of a run with its places made absolute. -/
structure RunOptions where
  root : Path
  paths : List String
  overrides : List (String × Value)

/-- The absolute spelling of a path given on the command line. -/
def absolutePath (cwd path : String) : String :=
  Lexical.normalise (if path.toList.head? = some '/' then path else cwd ++ "/" ++ path)

/-- What a run overrides in the configuration; what is not given is null. -/
def overridesOf (flags : RunFlags) : List (String × Value) := [
  ("coverage", (flags.coverage.map Value.bool).getD .null),
  ("jobs", (flags.jobs.map Value.int).getD .null),
  ("timeout", (flags.timeout.map Value.float).getD .null)]

/-- Makes the places of a run absolute. -/
def RunOptions.ofFlags (fs : FileSystem) (flags : RunFlags) (paths : List String) :
    Except Failure RunOptions :=
  match fs.resolve flags.root with
  | .ok root => .ok ⟨root, paths.map (absolutePath fs.cwd), overridesOf flags⟩
  | .error circle => .error (.linkCircle circle)

end TestImpact.CommandLine
