import TestImpact.Proofs.Discovery.Declared
import TestImpact.Proofs.FileSystem.Inside

/-!
# What a directory is found to hold

The tests below a directory are the entries inside it that are no directory, do not lead to one and
end as tests do (`Listed`), each written behind the directory as it was given. A listing therefore
neither misses nor repeats an entry, however many slashes stand at the end of the directory.

A path that was listed names its entry as long as the system takes the path (`Accepts`): it goes on
behind the path of the directory, so it may be too long where that one is not. A directory behind a
name that is too long is refused instead of being empty. Main statement: `lists_exactly`.
-/

namespace TestImpact

/-- Names lead inside a directory to an entry that ends as asked, is no directory and does not lead
to one. -/
structure FileSystem.Listed (fs : FileSystem) (location : Location) (suffix : String)
    (names : List String) (node : Node) : Prop where
  inside : fs.Inside location names node
  plain : fs.leadsToDirectory (location ++ names) node = false
  ends : Convention.endsWith (names.getLastD "") suffix = true

/-- The entries that are listed are the files below a directory that end as asked. -/
theorem FileSystem.mem_filter_filesBelow_iff {fs : FileSystem} {location names : Location}
    {suffix : String} (home : fs.node? location = some .directory) :
    names ∈ (fs.filesBelow location).filter
        (fun names => Convention.endsWith (names.getLastD "") suffix) ↔
      ∃ node, fs.Listed location suffix names node := by
  rw [List.mem_filter, mem_filesBelow_iff_inside home]
  constructor
  · rintro ⟨⟨node, inside, plain⟩, ends⟩
    exact ⟨node, inside, plain, ends⟩
  · rintro ⟨node, inside, plain, ends⟩
    exact ⟨⟨node, inside, plain⟩, ends⟩

namespace Resolver

open CoverageIndex (anchored)

variable {fs : FileSystem} {base : Option Path} {directory suffix : String} {location : Location}
  {tests : List String}

/-- A listing holds exactly the texts of the entries that are listed. -/
theorem mem_testsBelow_iff
    (led : fs.locate true (anchored base directory) = .ok (.entry location .directory))
    (found : testsBelow fs base directory suffix = .ok tests) (test : String) :
    test ∈ tests ↔ ∃ names node, fs.Listed location suffix names node ∧
      test = fileText directory names := by
  rw [testsBelow_of_directory led] at found
  obtain rfl := Except.ok.inj found
  have home := FileSystem.node?_of_locate led
  rw [List.mem_map]
  constructor
  · rintro ⟨names, listed, rfl⟩
    obtain ⟨node, listed⟩ := (FileSystem.mem_filter_filesBelow_iff home).1 listed
    exact ⟨names, node, listed, rfl⟩
  · rintro ⟨names, node, listed, rfl⟩
    exact ⟨names, (FileSystem.mem_filter_filesBelow_iff home).2 ⟨node, listed⟩, rfl⟩

/-- Behind the text of a directory the names of an entry inside it lead to the entry, exactly if the
system takes the path. -/
theorem locate_behind_iff (named : directory ≠ "")
    (led : fs.locate true (anchored base directory) = .ok (.entry location .directory))
    {names : List String} {node : Node} (inside : fs.Inside location names node) {followLast : Bool}
    (ends : ∀ target, node = .link target → followLast = false) :
    fs.locate followLast (anchored base (fileText directory names)) =
        .ok (.entry (location ++ names) node) ↔
      FileSystem.Accepts (anchored base (fileText directory names)) names := by
  have proper : ∀ name ∈ names, Path.IsSegment name :=
    fun name mem => (FileSystem.isSegment_of_isName (inside.isName name mem)).1
  obtain ⟨rooted, parts⟩ := anchored_behind base named proper
  have begun : fs.start (anchored base (fileText directory names)) =
      fs.start (anchored base directory) := by
    rw [FileSystem.start, FileSystem.start, rooted]
  exact FileSystem.locate_inside_iff led begun parts inside ends

/-- Where no directory is, nothing is listed. -/
theorem testsBelow_of_not_directory (asked : fs.isDirectory (anchored base directory) = .ok false) :
    testsBelow fs base directory suffix = .ok [] := by
  obtain ⟨tests, listed⟩ : ∃ tests, testsBelow fs base directory suffix = .ok tests :=
    exists_testsBelow asked
  cases tests with
  | nil => exact listed
  | cons test rest =>
    obtain ⟨location, names, led, -⟩ := exists_of_mem_testsBelow listed List.mem_cons_self
    rw [FileSystem.isDirectory_eq_true_iff.2 ⟨location, led⟩] at asked
    cases asked

/-- Only a directory that cannot be asked about is refused. -/
theorem testsBelow_eq_error_iff_isDirectory {failure : Failure} :
    testsBelow fs base directory suffix = .error failure ↔
      fs.isDirectory (anchored base directory) = .error .nameTooLong ∧
        failure = .file .nameTooLong := by
  rw [testsBelow_eq_error_iff, FileSystem.isDirectory, FileSystem.ask_eq_error_iff,
    and_iff_left (rfl : Fault.nameTooLong = .nameTooLong)]

/-- Listing a directory gives the text of each entry that is listed, once, and of nothing else. The
text leads to the entry exactly if the system takes the path. Where no directory is, nothing is
listed, and where a name is too long for the question whether one is there the listing is refused.
-/
theorem lists_exactly (fs : FileSystem) (base : Option Path) (suffix : String)
    (named : directory ≠ "") :
    (∀ location, fs.locate true (anchored base directory) = .ok (.entry location .directory) →
      ∃ tests, testsBelow fs base directory suffix = .ok tests ∧ tests.Nodup ∧
        (∀ test, test ∈ tests ↔ ∃ names node, fs.Listed location suffix names node ∧
          test = fileText directory names) ∧
        ∀ names node, fs.Listed location suffix names node →
          (fs.locate false (anchored base (fileText directory names)) =
              .ok (.entry (location ++ names) node) ↔
            FileSystem.Accepts (anchored base (fileText directory names)) names)) ∧
    (fs.isDirectory (anchored base directory) = .ok false →
      testsBelow fs base directory suffix = .ok []) ∧
    ∀ failure, testsBelow fs base directory suffix = .error failure ↔
      fs.isDirectory (anchored base directory) = .error .nameTooLong ∧
        failure = .file .nameTooLong := by
  refine ⟨fun location led => ?_, testsBelow_of_not_directory,
    fun failure => testsBelow_eq_error_iff_isDirectory⟩
  have found : testsBelow fs base directory suffix = _ := testsBelow_of_directory led
  exact ⟨_, found, nodup_testsBelow found, mem_testsBelow_iff led found,
    fun names node listed => locate_behind_iff named led listed.inside fun _ _ => rfl⟩

end Resolver

namespace SmallProject

/-- A project whose test directory also holds a link to nothing. -/
def dangling : FileSystem :=
  .ofListing
    [(["p"], .directory), (["p", "src"], .directory), (["p", "src", "A.php"], .file [] false),
      (["p", "test"], .directory),
      (["p", "test", "AFunctionalTest.php"], .file (Utf8.encode declaration) false),
      (["p", "test", "BFunctionalTest.php"], .link "gone")]
    ["p"] (by decide +kernel)

/-- The project behind so many ways up from the root, where they all stay. -/
def detour (count : Nat) : Path :=
  ⟨.root, List.replicate count ".." ++ ["p"]⟩

end SmallProject

namespace Resolver

open CoverageIndex (anchored)

/-- A link to nothing is listed as it stands, under the directory without its slashes. -/
theorem lists_dangling :
    ∃ tests, testsBelow SmallProject.dangling (some (Path.ofString "/p")) "test//" "Test.php" =
        .ok tests ∧ tests.Nodup ∧ "test/BFunctionalTest.php" ∈ tests ∧
      SmallProject.dangling.locate false
          (anchored (some (Path.ofString "/p")) "test/BFunctionalTest.php") =
        .ok (.entry ["p", "test", "BFunctionalTest.php"] (.link "gone")) := by
  have led : SmallProject.dangling.locate true (anchored (some (Path.ofString "/p")) "test//") =
      .ok (.entry ["p", "test"] .directory) := by
    decide +kernel
  have listed : SmallProject.dangling.Listed ["p", "test"] "Test.php" ["BFunctionalTest.php"]
      (.link "gone") :=
    ⟨.entry rfl, by decide +kernel, by decide +kernel⟩
  have text : fileText "test//" ["BFunctionalTest.php"] = "test/BFunctionalTest.php" := by
    decide +kernel
  obtain ⟨tests, found, distinct, exactly, leads⟩ :=
    (lists_exactly SmallProject.dangling (some (Path.ofString "/p")) "Test.php"
      (by decide : "test//" ≠ "")).1 _ led
  refine ⟨tests, found, distinct, (exactly _).2 ⟨_, _, listed, text.symm⟩, ?_⟩
  exact text ▸ (leads _ _ listed).2 (by decide +kernel)

/-- What a path in the project leads to behind a detour. -/
theorem locate_behind_detour (fs : FileSystem) (followLast : Bool) (count : Nat) {path : String}
    (relative : (Path.ofString path).isAbsolute = false)
    (free : '\x00' ∉ (⟨.root, "p" :: Path.segments path⟩ : Path).toString.toList) :
    fs.locate followLast (anchored (some (SmallProject.detour count)) path) =
      if FileSystem.pathLimit ≤ 3 * count +
          FileSystem.byteLength (⟨.root, "p" :: Path.segments path⟩ : Path).toString then
        .error .nameTooLong
      else fs.walk followLast FileSystem.linkLimit [] ("p" :: Path.segments path) := by
  have place : anchored (some (SmallProject.detour count)) path =
      ⟨.root, List.replicate count ".." ++ ("p" :: Path.segments path)⟩ := by
    show SmallProject.detour count / Path.ofString path = _
    rw [Path.div_eq_of_relative relative, SmallProject.detour, Path.parts_ofString,
      List.append_assoc, List.singleton_append]
  rw [place]
  exact FileSystem.locate_detour fs count (List.cons_ne_nil _ _) free

/-- Where a link leads to a name that is too long the listing is refused, though no directory is
there. A test that is listed behind a long detour is a file, but the path that was listed is too
long to lead to it. -/
theorem lists_unreachable :
    testsBelow SmallProject.farTests (some (Path.ofString "/p")) "/p/test" "Test.php" =
        .error (.file .nameTooLong) ∧
      testsBelow SmallProject.files (some (SmallProject.detour 1360)) "test" "Test.php" =
        .ok ["test/ATest.php"] ∧
      SmallProject.files.node? ["p", "test", "ATest.php"] = some (.file [] false) ∧
      SmallProject.files.locate false (anchored (some (SmallProject.detour 1360)) "test/ATest.php") =
        .error .nameTooLong := by
  refine ⟨testsBelow_eq_error_iff.2 ⟨locate_farTests, rfl⟩, ?_, rfl, ?_⟩
  · have led : SmallProject.files.locate true (anchored (some (SmallProject.detour 1360)) "test") =
        .ok (.entry ["p", "test"] .directory) := by
      rw [locate_behind_detour _ _ _ (by decide +kernel) (by decide +kernel),
        if_neg (by decide +kernel)]
      decide +kernel
    rw [testsBelow_of_directory led]
    decide +kernel
  · rw [locate_behind_detour _ _ _ (by decide +kernel) (by decide +kernel),
      if_pos (by decide +kernel)]

end Resolver

end TestImpact
