import TestImpact.Engine
import TestImpact.Process.Ending

/-!
# File systems by their listing, and a small project

A listing is a file system if no location is listed twice and everything lies in a listed
directory; both can be evaluated (`FileSystem.ofListing`). The small project has one source
file and its test, and a test runner that can be made to leave any JUnit report. Runs on it
are short enough to be evaluated.
-/

namespace TestImpact

namespace FileSystem

/-- Does an entry of a listing have a name, and lie in a listed directory? -/
def isPlaced (entries : List (Location × Node)) (entry : Location × Node) : Bool :=
  entry.1 ≠ [] && isName (entry.1.getLastD "") &&
    (entry.1.dropLast = [] || entries.contains (entry.1.dropLast, Node.directory))

/-- Is a listing the listing of a file system? -/
def isListing (entries : List (Location × Node)) : Bool :=
  (entries.map Prod.fst).Nodup && entries.all (isPlaced entries)

theorem placed_of_isPlaced {entries : List (Location × Node)} {entry : Location × Node}
    (placed : isPlaced entries entry = true) :
    ∃ above name, entry.1 = above ++ [name] ∧ isName name = true ∧
      (above = [] ∨ (above, Node.directory) ∈ entries) := by
  simp only [isPlaced, Bool.and_eq_true, Bool.or_eq_true, decide_eq_true_eq,
    List.contains_iff_mem] at placed
  obtain ⟨⟨nonempty, named⟩, home⟩ := placed
  refine ⟨entry.1.dropLast, entry.1.getLast nonempty,
    (List.dropLast_concat_getLast nonempty).symm, ?_, home⟩
  rw [List.getLastD_eq_getLast?, List.getLast?_eq_some_getLast nonempty] at named
  exact named

/-- The file system with a listing. -/
def ofListing (entries : List (Location × Node)) (workingDirectory : Location)
    (listing : isListing entries = true) : FileSystem where
  entries := entries
  workingDirectory := workingDirectory
  nodup := by
    rw [isListing, Bool.and_eq_true] at listing
    exact of_decide_eq_true listing.1
  placed := by
    rw [isListing, Bool.and_eq_true] at listing
    exact fun entry mem => placed_of_isPlaced (List.all_eq_true.1 listing.2 entry mem)

end FileSystem

namespace SmallProject

/-- The files of the project. -/
def files : FileSystem :=
  .ofListing
    [(["p"], .directory), (["p", "src"], .directory), (["p", "src", "A.php"], .file [] false),
      (["p", "test"], .directory), (["p", "test", "ATest.php"], .file [] false),
      (["p", "vendor"], .directory), (["p", "vendor", "bin"], .directory),
      (["p", "vendor", "bin", "phpunit"], .file [] true)]
    ["p"] (by decide +kernel)

/-- The project, with a link that leads to it. -/
def linked : FileSystem :=
  .ofListing
    [(["link"], .link "p"), (["p"], .directory), (["p", "src"], .directory),
      (["p", "src", "A.php"], .file [] false), (["p", "test"], .directory),
      (["p", "test", "ATest.php"], .file [] false), (["p", "vendor"], .directory),
      (["p", "vendor", "bin"], .directory), (["p", "vendor", "bin", "phpunit"], .file [] true)]
    ["p"] (by decide +kernel)

/-- A project of which there is nothing but settings, one of which refers to a variable. -/
def settings : FileSystem :=
  .ofListing
    [(["p"], .directory),
      (["p", ".unitrun.toml"], .file (Utf8.encode "php_binary = \"$PHP\"\njobs = 2\n") false)]
    ["p"] (by decide +kernel)

/-- Where the parts of the project lie. -/
def layout : Layout :=
  { root := Path.ofString "/p", sourceRoot := "/p/src", testRoot := "/p/test"
    binary := Path.ofString "/p/vendor/bin/phpunit", runnerConfig := none
    reportsDirectory := Path.ofString "/p/reports" }

/-- The JUnit report that a command is told to write. -/
def reportOf (command : Call) : Option Path :=
  (command.arguments.findSome? fun argument =>
    Text.after? "--log-junit=".toList argument.toList).map fun path =>
      Path.ofString (String.ofList path)

/-- Every process ends well and leaves a JUnit report. -/
def leaving (xml : String) : System := fun _ command files =>
  (.ok { ending := .exited 0 },
    match reportOf command with
    | some path => (files.writeText path xml).toOption.getD files
    | none => files)

/-- Runs without coverage in which every process leaves a JUnit report. -/
def engine (xml : String) : Engine :=
  { config := { coverage := some false }, layout, runner := (leaving xml).runner }

/-- The text of a test that declares what it covers. -/
def declaration : String :=
  "/**\n * @covers \\A\n * @covers \\A:::method\n */\n"

/-- A project with that test, of which one class ends with a colon. -/
def declarations : FileSystem :=
  .ofListing
    [(["p"], .directory), (["p", "src"], .directory), (["p", "src", "A.php"], .file [] false),
      (["p", "src", "A:.php"], .file [] false), (["p", "test"], .directory),
      (["p", "test", "AFunctionalTest.php"], .file (Utf8.encode declaration) false)]
    ["p"] (by decide +kernel)

/-- A name of so many letters. -/
def nameOf (length : Nat) : String :=
  String.ofList (List.replicate length 't')

/-- A project whose tests lie behind a link to a name that is too long. -/
def farTests : FileSystem :=
  .ofListing
    [(["p"], .directory), (["p", "src"], .directory), (["p", "src", "A.php"], .file [] false),
      (["p", "test"], .link (nameOf 256))]
    ["p"] (by decide +kernel)

/-- A project with a test whose name leads out of the project if its backslashes separate. -/
def climbing : FileSystem :=
  .ofListing
    [(["p"], .directory), (["p", "src"], .directory), (["p", "test"], .directory),
      (["p", "test", "..\\..\\XTest.php"], .file [] false)]
    ["p"] (by decide +kernel)

/-- How tests are found by what they declare. -/
def declaring : Resolver :=
  { strategy := .declared, sourceRoot := "/p/src", testRoot := "/p/test"
    base := some (Path.ofString "/p") }

/-- How the tests of the project are found. -/
def resolver : Resolver :=
  (engine "").resolver

/-- The world before a run. -/
def world : World := { files }

end SmallProject

end TestImpact
