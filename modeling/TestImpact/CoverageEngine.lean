import TestImpact.Text.Lines
import TestImpact.World

/-!
# The coverage engine

Coverage is measured by an extension of the interpreter, which must be loaded and have
all required modes switched on. The interpreter is asked by running a short script: the
first line of its answer says whether the extension is loaded, the second lists the
modes. An interpreter that cannot be run, or fails, has no extension.
-/

namespace TestImpact.CoverageEngine

/-- The script that the interpreter is asked with. -/
def script : String :=
  "echo extension_loaded(\"xdebug\") ? \"1\" : \"0\", PHP_EOL, " ++
  "getenv(\"XDEBUG_MODE\") !== false ? getenv(\"XDEBUG_MODE\") : ini_get(\"xdebug.mode\"), PHP_EOL;"

/-- The modes of a list with commas, without the blanks around them. -/
def modes (list : String) : List String :=
  ((Text.pieces ',' list.toList).map fun mode => Text.trim (String.ofList mode)).filter (· ≠ "")

/-- What the answer of an interpreter says. -/
def ofAnswer (answer : String) : EngineState :=
  let lines := (Text.splitLines answer.toList).map String.ofList
  { loaded := (lines.head?.map Text.trim) = some "1"
    modes := (lines[1]?.map modes).getD [] }

/-- What an interpreter that ended says. -/
def ofProcess (process : Finished) : EngineState :=
  if process.status = 0 then ofAnswer (process.out.getD "") else { loaded := false }

/-- Asks an interpreter. -/
def probe (runner : Runner) (interpreter : String) (options : Option ProcessOptions) :
    Action EngineState := do
  match ← Action.call runner ⟨[interpreter, "-r", script], options⟩ with
  | .ok process => pure (ofProcess process)
  | .error _ => pure { loaded := false }

/-- The required modes that are not switched on. -/
def missing (state : EngineState) (required : List String) : List String :=
  required.filter (!state.modes.contains ·)

/-- Refuses an engine that cannot measure coverage. -/
def require (state : EngineState) (required : List String) (interpreter : String) :
    Except Failure Unit :=
  if !state.loaded then .error (.usage (.engineMissing interpreter))
  else
    match missing state required with
    | [] => .ok ()
    | absent => .error (.usage (.engineMisconfigured absent required state.modes))

/-- Refuses an engine that cannot measure coverage, if coverage is wanted. -/
def check (wanted : Bool) (state : EngineState) (required : List String) (interpreter : String) :
    Except Failure Unit :=
  if wanted then require state required interpreter else .ok ()

end TestImpact.CoverageEngine
