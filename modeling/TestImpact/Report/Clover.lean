import TestImpact.Error
import TestImpact.Number.Numeral
import TestImpact.Path.Lexical
import TestImpact.Result
import TestImpact.Xml.Reader

/-!
# Clover reports

A Clover report lists, for every file that was loaded, how often its statements ran.
Of that each file keeps one state per line it has now, and files in which nothing ran
are left out, since they were loaded but not tested.
-/

namespace TestImpact.Clover

/-- A statement: the line it stands on, and whether it ran. -/
structure Statement where
  line : Int
  ran : Bool
  deriving DecidableEq, Repr

/-- How often a statement ran. -/
def runs (line : Element) : Except ReportError Nat :=
  let raw := line.attribute? "count"
  match raw.bind Numeral.int? with
  | some (.ofNat n) => .ok n
  | _ => .error (.count raw)

/-- The number of the line a statement stands on; without one it stands on none. -/
def lineNumber (line : Element) : Except ReportError Int :=
  match line.attribute? "num" with
  | none => .ok 0
  | some raw =>
    match Numeral.int? raw with
    | some n => .ok n
    | none => .error (.lineNumber raw)

/-- Reads a statement. -/
def Statement.of (line : Element) : Except ReportError Statement := do
  let count ← runs line
  pure ⟨← lineNumber line, count > 0⟩

/-- The statements of a file in document order. -/
def statements (file : Element) : Except ReportError (List Statement) :=
  ((file.withTag "line").filter fun line => line.attribute? "type" = some "stmt").mapM Statement.of

/-- The states of the lines after a statement. A line outside the file changes nothing. -/
def record (states : List LineState) (statement : Statement) : List LineState :=
  if 1 ≤ statement.line then
    states.set (statement.line.toNat - 1) (if statement.ran then .covered else .uncovered)
  else states

/-- The states of a file with `lines` lines; nothing when no statement ran. -/
def states? (lines : Nat) (statements : List Statement) : Option (List LineState) :=
  if statements.any (·.ran) then
    some (statements.foldl record (List.replicate lines .notApplicable))
  else none

section

variable {m : Type → Type} [Monad m] [MonadExceptOf Failure m]

/-- Adds a file to the coverage read so far. Its lines are counted before its statements are
looked at. -/
def addFile (shown : String → String) (count : String → m Int) (coverage : CoverageMap)
    (file : Element) : m CoverageMap := do
  let path := shown ((file.attribute? "name").getD "")
  let lines ← count path
  match statements file with
  | .error e => throw (.report e)
  | .ok found =>
    match states? lines.toNat found with
    | some states => pure (coverage.put path states)
    | none => pure coverage

/-- The coverage that a document reports. `shown` gives the path a file is shown under and
`count` the number of its lines. -/
def coverage (shown : String → String) (count : String → m Int) (root : Element) :
    m CoverageMap :=
  (root.withTag "file").foldlM (addFile shown count) []

/-- Reads the coverage of a report for a project, seen from a working directory. -/
def parse (cwd : String) (root : Path) (count : String → m Int) (xml : String) :
    m CoverageMap :=
  match Xml.parse xml with
  | .ok document => coverage (fun name => Lexical.displayed cwd name root.toString) count document
  | .error problem => throw (.report (.clover problem))

end

end TestImpact.Clover
