import TestImpact.Proofs.Discovery.Indexing

/-!
# Directories and the tests declared in them

Where tests are found by what they declare, those of a directory are still found by their places:
whatever lies below the place of the directory in the test root (`gives_testsOf_of_directory`). A
test that covers a source file may lie anywhere below the test root (`Separate.place_of_test`). So a
directory has the tests of the source files in it exactly if they lie below its own place there
(`Parted.covers_iff`), and only the source root has them all. Main statement:
`directories_cover_mirrored`.
-/

namespace TestImpact

namespace Resolver

open Resolving (Yields)

variable {r : Resolver} {fs : FileSystem} {directory test : String} {tests names rest : List String}
  {memory after : Memory}

/-! ## Tests of directories -/

theorem selects_directory_iff (existing : fs.isDirectory (r.onDisk directory) = .ok true) :
    r.Selects fs [directory] test ↔ ∃ tests, r.testsAt fs directory = .ok tests ∧ test ∈ tests := by
  have gives := gives_resolve_singleton (gives_testsOf_of_directory existing)
  constructor
  · rintro ⟨affected, given, entry, listed, mem⟩
    obtain ⟨tests, found, rfl⟩ := of_map_ok (gives.unique given)
    obtain rfl := List.mem_singleton.1 listed
    exact ⟨tests, found, mem⟩
  · rintro ⟨tests, found, mem⟩
    rw [found] at gives
    exact ⟨_, gives, (directory, tests), List.mem_singleton.2 rfl, mem⟩

/-- A directory has a test, as far as runs can tell. -/
def Covers (r : Resolver) (fs : FileSystem) (directory test : String) : Prop :=
  ∃ other, r.Selects fs [directory] other ∧
    Executor.identity r.base other = Executor.identity r.base test

namespace Parted

variable (parted : r.Parted fs)
include parted

/-- A directory in the source root covers a test that lies below its place in the test root, and no
other. -/
theorem covers_iff (linkless : fs.Linkless)
    (joined : Lexical.names fs.cwd (r.placeText directory) =
      Lexical.names fs.cwd r.sourceRoot ++ rest)
    (existing : fs.isDirectory (r.onDisk directory) = .ok true)
    (place : r.onDisk test = r.mirrorPath names) (down : Lexical.parentSegment ∉ names)
    (ends : Convention.endsWith (names.getLastD "") r.convention.testSuffix = true)
    (file : fs.isFile (r.onDisk test) = .ok true) :
    r.Covers fs directory test ↔ ∃ back, back ≠ [] ∧ names = rest ++ back := by
  have written := namesOf_of_mirrored place down
  constructor
  · rintro ⟨other, selects, same⟩
    obtain ⟨tests, found, mem⟩ := (selects_directory_iff existing).1 selects
    obtain ⟨moved, -, read, some_char, down', listed⟩ :=
      parted.testsAt_of_sourceDirectory joined existing
    obtain ⟨back, place', nonempty, down_back, -⟩ :=
      parted.of_mem_testsBelow_moved linkless read some_char (listed.symm.trans found) mem
    have both : Lexical.parentSegment ∉ rest ++ back := by
      rw [List.mem_append, not_or]
      exact ⟨down', down_back⟩
    have alike := (parted.identity_eq_iff.1 same).2
    rw [namesOf_of_mirrored place' both, written] at alike
    exact ⟨back, nonempty, (List.append_cancel_left alike).symm⟩
  · rintro ⟨back, nonempty, rfl⟩
    have down_back : Lexical.parentSegment ∉ back := fun up =>
      down (List.mem_append_right _ up)
    rw [getLastD_append _ nonempty] at ends
    obtain ⟨content, executable, led, -⟩ := parted.file_led linkless file
    rw [place] at led
    obtain ⟨tests, other, found, mem, place'⟩ :=
      parted.exists_below_mirrored linkless joined existing nonempty down_back ends led
    refine ⟨other, (selects_directory_iff existing).2 ⟨tests, found, mem⟩, ?_⟩
    rw [parted.identity_eq_iff, namesOf, namesOf, place', place]
    exact ⟨rfl, rfl⟩

end Parted

/-! ## Tests of source files -/

/-- The tests of source files that are looked up are among those that are listed for the index. -/
theorem exists_listed_of_sourceFile (separate : r.Separate fs)
    (fits : r.lookUp fs memory = r.indexNow fs) {paths : List String} {affected : Affected}
    (yields : Yields memory (r.resolve fs paths) (.ok affected) after)
    {entry : String × List String} (listed : entry ∈ affected) (source : r.SourceFile fs entry.1)
    (mem : test ∈ entry.2) :
    ∃ tests, testsBelow fs r.base r.testRoot r.listedSuffix = .ok tests ∧ test ∈ tests := by
  have based : ∀ base, r.base = some base → base.Proper := by
    obtain ⟨base, given, -, proper⟩ := separate.based
    exact fun other same => Option.some.inj (given.symm.trans same) ▸ proper
  obtain ⟨after', yields', -⟩ := consults_resolve separate.declared paths memory fits
  have resolved := (Prod.mk.inj (yields'.symm.trans yields)).1
  obtain ⟨className, index, -, read, whole⟩ :=
    dispatch_of_sourceFile based source ((Affected.records_collect resolved).own entry listed)
  rw [whole, separate.parted.ownTest_eq_nil source.inside, List.nil_append] at mem
  obtain ⟨tests, found, chosen⟩ := chosen_of_indexNow read className
  exact ⟨tests, found, ((chosen.mem_iff test).1 mem).1⟩

/-- What is listed for the index lies below the test root and ends as tests do. -/
theorem Separate.place_of_test (separate : r.Separate fs) (linkless : fs.Linkless)
    (found : testsBelow fs r.base r.testRoot r.listedSuffix = .ok tests) (mem : test ∈ tests) :
    ∃ names, r.onDisk test = r.mirrorPath names ∧ names ≠ [] ∧
      Lexical.parentSegment ∉ names ∧
      Convention.endsWith (names.getLastD "") r.convention.testSuffix = true := by
  have parted := separate.parted
  have absolute : (Path.ofString r.testRoot).isAbsolute = true :=
    Lexical.isAbsolute_ofString separate.test_rooted
  have read : Path.ofString r.testRoot = r.mirrorPath [] := by
    rw [mirrorPath, List.append_nil]
  have unbased : testsBelow fs none r.testRoot r.listedSuffix = .ok tests := by
    rw [testsBelow, anchored_of_isAbsolute r.base absolute] at found
    exact found
  obtain ⟨names, place, nonempty, down, ends⟩ :=
    parted.of_mem_testsBelow_moved linkless read parted.exists_char_testRoot unbased mem
  rw [List.nil_append] at place
  refine ⟨names, place, nonempty, down, Convention.endsWith_iff.2 ?_⟩
  exact (r.convention.testSuffix_suffix r.testKind).trans (Convention.endsWith_iff.1 ends)

/-! ## Directories and source files -/

/-- An existing directory in the source root has the tests below its place in the test root, whatever
they declare. It covers an existing test of a source file exactly if the test lies below that place.
The source root covers the tests of all source files. -/
theorem directories_cover_mirrored (separate : r.Separate fs) (linkless : fs.Linkless)
    (fits : r.lookUp fs memory = r.indexNow fs)
    (existing : fs.isDirectory (r.onDisk directory) = .ok true)
    (inside : Lexical.within fs.cwd (r.placeText directory) r.sourceRoot = true) :
    ∃ moved, Lexical.transplant? fs.cwd (r.placeText directory) r.sourceRoot r.testRoot =
        some moved ∧
      (r.resolve fs [directory]).Gives ((fun tests => [(directory, tests)]) <$>
        testsBelow fs none moved r.convention.testSuffix) ∧
      ∀ paths affected after, Yields memory (r.resolve fs paths) (.ok affected) after →
        ∀ entry ∈ affected, r.SourceFile fs entry.1 → ∀ test ∈ entry.2,
          fs.isFile (Executor.located r.base test) = .ok true →
            (r.Covers fs directory test ↔
              ∃ back, back ≠ [] ∧ r.namesOf test = r.namesOf moved ++ back) ∧
            (Lexical.within fs.cwd r.sourceRoot (r.placeText directory) = true →
              r.Covers fs directory test) := by
  have parted := separate.parted
  obtain ⟨rest, joined⟩ := parted.within_place_iff.1 inside
  obtain ⟨moved, transplanted, read, -, down_rest, listed⟩ :=
    parted.testsAt_of_sourceDirectory joined.symm existing
  have gives := gives_resolve_singleton (gives_testsOf_of_directory existing)
  refine ⟨moved, transplanted, listed ▸ gives, ?_⟩
  intro paths affected after yields entry mem source test mem' file
  rw [located_eq_onDisk] at file
  obtain ⟨tests, found, among⟩ := exists_listed_of_sourceFile separate fits yields mem source mem'
  obtain ⟨names, place, nonempty, down, ends⟩ := separate.place_of_test linkless found among
  have covers := parted.covers_iff linkless joined.symm existing place down ends file
  refine ⟨covers.trans ?_, fun whole => covers.2 ⟨names, nonempty, ?_⟩⟩
  · rw [namesOf_of_mirrored place down,
      namesOf_of_mirrored (parted.onDisk_of_ofString read) down_rest]
    simp only [List.append_assoc, List.append_cancel_left_eq]
  · rw [← Lexical.names_eq_iff inside] at whole
    rw [whole] at joined
    rw [List.append_right_eq_self.1 joined, List.nil_append]

end Resolver

/-- A project whose source file lies in a directory and is covered by a test that does not. -/
def SmallProject.nested : FileSystem :=
  .ofListing
    [(["p"], .directory), (["p", "src"], .directory), (["p", "src", "lib"], .directory),
      (["p", "src", "lib", "A.php"], .file [] false), (["p", "test"], .directory),
      (["p", "test", "AFunctionalTest.php"], .file (Utf8.encode declaration) false)]
    ["p"] (by decide +kernel)

namespace Resolver

open Resolving (Yields)

theorem yields_nested : ∃ after, Yields none
    (SmallProject.declaring.resolve SmallProject.nested ["src/lib/A.php"])
    (.ok [("src/lib/A.php", ["/p/test/AFunctionalTest.php"])]) after := by
  have found : ((SmallProject.declaring.resolve SmallProject.nested
      ["src/lib/A.php"]).run.run none).1 =
        .ok [("src/lib/A.php", ["/p/test/AFunctionalTest.php"])] := by
    decide +kernel
  generalize ran : (SmallProject.declaring.resolve SmallProject.nested
    ["src/lib/A.php"]).run.run none = outcome at found
  exact ⟨outcome.2, ran.trans (Prod.ext found rfl)⟩

theorem sourceFile_nested : SmallProject.declaring.SourceFile SmallProject.nested "src/lib/A.php" :=
  ⟨by decide +kernel, by decide +kernel, by decide +kernel⟩

/-- The source root covers the test of a file in one of its directories. -/
theorem covered_in_nested :
    SmallProject.declaring.Covers SmallProject.nested "src" "/p/test/AFunctionalTest.php" := by
  obtain ⟨after, yields⟩ := yields_nested
  have existing : SmallProject.nested.isDirectory (SmallProject.declaring.onDisk "src") =
      .ok true := by
    decide +kernel
  obtain ⟨moved, -, -, covers⟩ := directories_cover_mirrored
    (separate_declaring SmallProject.nested) (FileSystem.linkless_of_entries (by decide +kernel))
    (rfl : SmallProject.declaring.lookUp SmallProject.nested none = _) existing
    (by decide +kernel)
  exact (covers _ _ _ yields _ List.mem_cons_self sourceFile_nested _ List.mem_cons_self
    (by decide +kernel)).2 (by decide +kernel)

/-- The directory that holds a source file does not cover the test that covers its class. -/
theorem missed_in_nested :
    SmallProject.declaring.Separate SmallProject.nested ∧ SmallProject.nested.Linkless ∧
      SmallProject.nested.isDirectory (SmallProject.declaring.onDisk "src/lib") = .ok true ∧
      Lexical.within SmallProject.nested.cwd (SmallProject.declaring.placeText "src/lib")
        SmallProject.declaring.sourceRoot = true ∧
      SmallProject.declaring.SourceFile SmallProject.nested "src/lib/A.php" ∧
      Lexical.within SmallProject.nested.cwd (SmallProject.declaring.placeText "src/lib/A.php")
        (SmallProject.declaring.placeText "src/lib") = true ∧
      (∃ after, Yields none (SmallProject.declaring.resolve SmallProject.nested ["src/lib/A.php"])
        (.ok [("src/lib/A.php", ["/p/test/AFunctionalTest.php"])]) after) ∧
      SmallProject.nested.isFile
        (Executor.located SmallProject.declaring.base "/p/test/AFunctionalTest.php") = .ok true ∧
      ¬ SmallProject.declaring.Covers SmallProject.nested "src/lib"
        "/p/test/AFunctionalTest.php" := by
  refine ⟨separate_declaring _, FileSystem.linkless_of_entries (by decide +kernel),
    by decide +kernel, by decide +kernel, sourceFile_nested, by decide +kernel, yields_nested,
    by decide +kernel, ?_⟩
  rintro ⟨other, ⟨affected, gives, entry, listed, mem⟩, -⟩
  have nothing : ((SmallProject.declaring.resolve SmallProject.nested ["src/lib"]).run.run none).1 =
      .ok [("src/lib", [])] := by
    decide +kernel
  rw [gives none] at nothing
  obtain rfl := Except.ok.inj nothing
  obtain rfl := List.mem_singleton.1 listed
  cases mem

end Resolver

end TestImpact
