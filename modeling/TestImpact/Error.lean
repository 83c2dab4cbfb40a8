import TestImpact.Config.Problem
import TestImpact.Document.Json
import TestImpact.FileSystem.Basic
import TestImpact.Number.Numeral
import TestImpact.Text.Blank
import TestImpact.Text.Quoted
import TestImpact.Xml.Element

/-!
# Failures

Every failure is kept as its cause, and the words for it are found here and nowhere
else. A `UsageError` is a condition the user can mend before a test process starts,
and says how. `Raised` is a failure on its way out, with the notes that were added
to it.
-/

namespace TestImpact

/-- The two commands around a session. -/
inductive SessionStep where
  | setup
  | teardown
  deriving DecidableEq, Repr

/-- The name of a session step. -/
def SessionStep.name : SessionStep → String
  | .setup => "setup"
  | .teardown => "teardown"

/-- A fatal condition that the user can mend. -/
inductive UsageError where
  | noTests
  | engineMissing (interpreter : String)
  | engineMisconfigured (missing required active : List String)
  | runnerMissing (binary : Path)
  | pathMissing (path : Path) (key : String)
  | sessionFailed (step : SessionStep) (status : Int) (stderr : String)
  | dockerMissing
  | cannotRunAll (strategy : String)
  deriving DecidableEq, Repr

namespace UsageError

/-- What went wrong. -/
def message : UsageError → String
  | .noTests => "No tests to run."
  | .engineMissing _ =>
    "You are running tests with coverage enabled, but Xdebug is not installed."
  | .engineMisconfigured missing _ _ =>
    "Xdebug is installed but the mode(s) " ++ ", ".intercalate missing ++ " are not enabled."
  | .runnerMissing binary => s!"PHPUnit does not seem to be installed at \x60{binary}\x60."
  | .pathMissing path key => s!"Path '{path}' was not found for '{key}'."
  | .sessionFailed step status _ => s!"Test session {step.name} exited with status {status}."
  | .dockerMissing => "Docker does not seem to be installed."
  | .cannotRunAll strategy => s!"The {strategy} strategy cannot run every test."

/-- The modes in the form of a setting. -/
def modeSetting (modes : List String) : String :=
  if modes.isEmpty then "off" else ",".intercalate modes

/-- What to do about it. -/
def remediation : UsageError → Option String
  | .noTests => none
  | .engineMissing interpreter => some (
      "Install the extension with \x60pecl install xdebug\x60, enable it in your " ++
      s!"php.ini (see \x60{interpreter} --ini\x60), or follow the steps at " ++
      "https://xdebug.org/wizard. Alternatively, rerun with --no-coverage.")
  | .engineMisconfigured _ required active => some (
      "Expected the following configuration in your xdebug.ini:\n\n" ++
      "    xdebug.mode=" ++ ",".intercalate required ++ "\n\n" ++
      "Your current configuration is: xdebug.mode=" ++ modeSetting active ++ "\n\n" ++
      "Locate the active file with \x60php -i | grep xdebug.ini\x60.")
  | .runnerMissing _ => some "Have you run \x60composer install\x60?"
  | .pathMissing _ key => some s!"Update \x60{key}\x60 under [tool.unitrun] or in .unitrun.toml."
  | .sessionFailed _ _ stderr =>
    let text := Text.trim stderr
    if text = "" then none else some text
  | .dockerMissing => some "Install Docker or unset RUN_PHPUNIT_IN_DOCKER."
  | .cannotRunAll _ => some "Pass the changed paths explicitly."

/-- The message, and the remedy below a blank line. -/
def text (error : UsageError) : String :=
  match error.remediation with
  | some remedy => error.message ++ "\n\n" ++ remedy
  | none => error.message

end UsageError

/-- Why a report of a test process cannot be understood. -/
inductive ReportError where
  | junit (problem : XmlProblem)
  | clover (problem : XmlProblem)
  | time (raw : String)
  | count (raw : Option String)
  | lineNumber (raw : String)
  deriving DecidableEq, Repr

/-- The words for a report error. -/
def ReportError.message : ReportError → String
  | .junit _ => "Unable to parse JUnit XML"
  | .clover _ => "Unable to parse Clover XML."
  | .time raw => "Invalid testcase time " ++ Quoted.write raw ++ " in JUnit report."
  | .count raw =>
    "Unexpected value for \"count\" attribute: " ++ (raw.map Quoted.write).getD "None" ++ "."
  | .lineNumber raw => "Unexpected value for \"num\" attribute: " ++ Quoted.write raw ++ "."

/-- The two documents that say which packages there should be and which there are. -/
inductive Manifest where
  | lock
  | installed
  deriving DecidableEq, Repr

/-- What a manifest is called. -/
def Manifest.label : Manifest → String
  | .lock => "lock file"
  | .installed => "installed manifest"

/-- Why a manifest cannot be used. -/
inductive ManifestError where
  | unparsable (manifest : Manifest) (error : Json.SyntaxError)
  | notTable
  | notPackages (manifest : Manifest)
  deriving DecidableEq, Repr

/-- The words for a manifest error. -/
def ManifestError.message : ManifestError → String
  | .unparsable manifest error => s!"Unable to parse {manifest.label}: {error.message}"
  | .notTable => "lock file must be a JSON object"
  | .notPackages manifest =>
    s!"{manifest.label} must contain a list of packages with a name"

/-- Why there is no configuration. -/
inductive ConfigError where
  | unparsable (path : Path)
  | invalid (details : List Detail)
  deriving DecidableEq, Repr

/-- The words for a configuration error. -/
def ConfigError.message : ConfigError → String
  | .unparsable path => s!"Unable to parse {path}"
  | .invalid details =>
    "Invalid unitrun configuration: " ++ "; ".intercalate (details.map Detail.text)

/-- An argument that an operation is not defined for. -/
inductive ArgumentError where
  | emptyCommand
  | negativeTimeout
  | timeoutTooLong
  | variableName
  | noJobs
  | notANumber
  | unbounded
  | noDigits
  | tooManyDigits (count : Nat)
  deriving DecidableEq, Repr

/-- The words for an argument error. -/
def ArgumentError.message : ArgumentError → String
  | .emptyCommand => "subprocess command requires at least one argument"
  | .negativeTimeout => "timeout override must be non-negative"
  | .timeoutTooLong => "timeout is too large"
  | .variableName => "illegal environment variable name"
  | .noJobs => "jobs must be at least 1"
  | .notANumber => "cannot convert float NaN to integer"
  | .unbounded => "cannot convert float infinity to integer"
  | .noDigits => "invalid literal for int() with base 10: ''"
  | .tooManyDigits count =>
    s!"Exceeds the limit ({Numeral.digitLimit} digits) for integer string conversion: value has " ++
      s!"{count} digits; use sys.set_int_max_str_digits() to increase the limit"

/-- Everything that can end an operation. -/
inductive Failure where
  | usage (error : UsageError)
  | outside (path root : String)
  | report (error : ReportError)
  | manifest (error : ManifestError)
  | config (error : ConfigError)
  | invalid (details : List Detail)
  | argument (error : ArgumentError)
  | file (fault : Fault)
  /-- Bytes that are no UTF-8. -/
  | undecodable
  /-- A text that has no form in UTF-8. -/
  | unencodable
  /-- A document whose values are nested too deep. -/
  | tooDeep
  /-- A value of a kind that the operation cannot take. -/
  | wrongKind
  /-- Links that lead in a circle. -/
  | linkCircle (path : Path)
  /-- A closing tag in a heading that closes nothing or something unreadable. -/
  | markup
  /-- A failure of the surroundings, such as an interrupt. -/
  | foreign (name message : String)
  deriving DecidableEq, Repr

/-- The words for a failure. -/
def Failure.message : Failure → String
  | .usage error => error.text
  | .outside path root => s!"Path '{path}' is not a descendant of '{root}'."
  | .report error => error.message
  | .manifest error => error.message
  | .config error => error.message
  | .invalid details => "; ".intercalate (details.map Detail.text)
  | .argument error => error.message
  | .file .nulByte => "embedded null byte"
  | .file _ => "the file system refused the request"
  | .undecodable => "the bytes are no UTF-8"
  | .unencodable => "the text has no form in UTF-8"
  | .tooDeep => "the values are nested too deep"
  | .wrongKind => "the value is of the wrong kind"
  | .linkCircle path => "Symlink loop from " ++ Quoted.write path.toString
  | .markup => "the tags do not fit"
  | .foreign _ message => message

/-- A refusal of the file system as a failure. -/
def orFailure {α : Type} (outcome : Except Fault α) : Except Failure α :=
  outcome.mapError Failure.file

/-- A failure with the notes added on its way. -/
structure Raised where
  failure : Failure
  notes : List String := []
  deriving DecidableEq, Repr

instance : Coe Failure Raised := ⟨fun failure => ⟨failure, []⟩⟩

end TestImpact
