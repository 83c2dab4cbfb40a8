import TestImpact.Proofs.Discovery.Selected
import TestImpact.Proofs.Path.Containment

/-!
# Where the test of a source file stands

Found by place, a source file in the directory `above` of the source root with the name `stem` and
the suffix has one test, in the directory `above` of the test root and under the mirrored name
(`Regular.exists_test`). The path need not exist and may be spelled in any way, for only the names of
its place count (`Regular.exists_stands`). So two source files share their test exactly if they stand
in one directory and their capitalised stems are the same (`mirroredName_eq_iff`).

The one thing that is asked of the disk is whether a directory is there, and a name that is too long
for that question stops the look-up. Main statement: `mirrors_sources`.
-/

namespace TestImpact

namespace Resolver

open Lexical (names within resolved)

variable {r : Resolver} {fs : FileSystem} {path other test test' : String} {tests : List String}
  {above above' : List String} {stem stem' : List Char}

/-- The name of the test of a source file with this stem. -/
def mirroredName (r : Resolver) (stem : List Char) : String :=
  String.ofList (Text.capitalised stem) ++ r.convention.testSuffix

/-- A path without backslashes strictly below the source root that ends as source files do and leads
to no directory. Whether it leads to a file is left open. -/
structure SourcePath (r : Resolver) (fs : FileSystem) (path : String) : Prop where
  free : '\\' ∉ path.toList
  ends : Convention.endsWith path r.convention.sourceSuffix = true
  asked : fs.isDirectory (r.onDisk path) = .ok false
  inside : within fs.cwd (r.placeText path) r.sourceRoot = true
  strict : within fs.cwd r.sourceRoot (r.placeText path) = false

/-- The place of a path is the directory `above` of the source root and there the name that begins
with `stem` and ends with the suffix. -/
def Stands (r : Resolver) (fs : FileSystem) (path : String) (above : List String)
    (stem : List Char) : Prop :=
  names fs.cwd (r.placeText path) = names fs.cwd r.sourceRoot ++ above ++
    [String.ofList (stem ++ r.convention.sourceSuffix.toList)]

theorem Stands.unique (stands : r.Stands fs path above stem) (stands' : r.Stands fs path above' stem') :
    above = above' ∧ stem = stem' := by
  obtain ⟨front, last⟩ := List.append_singleton_inj.1 (stands.symm.trans stands')
  refine ⟨List.append_cancel_left front, ?_⟩
  exact List.append_cancel_right (String.ofList_injective last)

namespace Regular

variable (regular : r.Regular)
include regular

/-- Every such path stands somewhere below the source root. -/
theorem exists_stands (source : r.SourcePath fs path) : ∃ above stem, r.Stands fs path above stem := by
  obtain ⟨anchor, before, name, place, ends, free⟩ :=
    regular.exists_name_of_source source.free source.ends
  have proper := proper_onDisk regular.proper path
  obtain ⟨valid, -, -, -⟩ := counterpart_placeText regular.plain proper place ends free
  rw [place] at proper
  obtain ⟨front, lasts⟩ := Lexical.exists_names_last fs.cwd anchor
    fun part mem => proper part (List.mem_append_left _ mem)
  obtain ⟨rest, joined, -⟩ := Lexical.within_iff.1 source.inside
  obtain ⟨stem, chars⟩ := ends
  -- Something is left behind the source root, or the path would be the root itself.
  rcases List.eq_nil_or_concat' rest with rfl | ⟨above, last, rfl⟩
  · have same := (Lexical.names_eq_iff source.inside).1 (by rw [joined, List.append_nil])
    rw [source.strict] at same
    cases same
  · have whole := joined
    rw [placeText, place, lasts name valid, ← List.append_assoc] at whole
    refine ⟨above, stem, ?_⟩
    rw [Stands, joined, ← List.append_assoc, ← (List.append_singleton_inj.1 whole).2, chars,
      String.ofList_toList]

/-- A path that stands below the source root has one test, which stands in the same directory of the
test root. -/
theorem exists_test (parted : r.Parted fs) (source : r.SourcePath fs path)
    (stands : r.Stands fs path above stem) :
    ∃ test, r.testsAt fs path = .ok [test] ∧ test.toList.head? = some '/' ∧
      names fs.cwd test = names fs.cwd r.testRoot ++ (above ++ [r.mirroredName stem]) := by
  obtain ⟨anchor, before, name, place, ends, free⟩ :=
    regular.exists_name_of_source source.free source.ends
  have proper := proper_onDisk regular.proper path
  obtain ⟨valid, valid', -, counterpart⟩ :=
    counterpart_placeText regular.plain proper place ends free
  rw [place] at proper
  obtain ⟨front, lasts⟩ := Lexical.exists_names_last fs.cwd anchor
    fun part mem => proper part (List.mem_append_left _ mem)
  have stood := stands
  rw [Stands, placeText, place, lasts name valid] at stood
  obtain ⟨rfl, rfl⟩ := List.append_singleton_inj.1 stood.symm
  have renamed : String.ofList (r.convention.testName
      (String.ofList (stem ++ r.convention.sourceSuffix.toList)).toList) = r.mirroredName stem := by
    rw [String.toList_ofList, Convention.testName_of_suffix stem regular.plain.ne_empty,
      String.ofList_append, String.ofList_toList, mirroredName]
  rw [renamed] at counterpart valid'
  have joined : names fs.cwd (r.convention.counterpart (r.placeText path)) =
      names fs.cwd r.sourceRoot ++ (above ++ [r.mirroredName stem]) := by
    rw [counterpart, lasts _ valid', List.append_assoc]
  have slash := Convention.head?_counterpart r.convention (regular.head?_place path)
  have down : (above ++ [r.mirroredName stem]).head? ≠ some Lexical.parentSegment := by
    intro up
    refine Lexical.parentSegment_notMem_names fs.cwd slash ?_
    exact joined ▸ List.mem_append_right _ (List.mem_of_mem_head? up)
  obtain ⟨test, led⟩ : ∃ test, Lexical.transplant? fs.cwd
      (r.convention.counterpart (r.placeText path)) r.sourceRoot r.testRoot = some test :=
    ⟨_, Lexical.transplant?_eq joined down r.testRoot⟩
  obtain ⟨rest, joined', moved, -⟩ := Lexical.names_of_transplant? slash regular.test led
  obtain rfl := List.append_cancel_left (joined.symm.trans joined')
  refine ⟨test, ?_, Lexical.head?_of_transplant? regular.test led, moved⟩
  rw [testsAt_of_source source.asked source.ends source.inside,
    counterpart_eq_ok_iff.2 led, parted.ownTest_eq_nil source.inside]
  rfl

theorem parted (apart : within fs.cwd r.sourceRoot r.testRoot = false)
    (apart' : within fs.cwd r.testRoot r.sourceRoot = false) : r.Parted fs where
  based := by
    obtain ⟨base, given, absolute⟩ := regular.based
    exact ⟨base, given, absolute, regular.proper base given⟩
  source_rooted := regular.source
  test_rooted := regular.test
  apart := apart
  apart' := apart'

end Regular

/-! ## Normalised forms -/

theorem resolved_eq_of_slash (cwd : String) (slash : path.toList.head? = some '/') :
    resolved cwd path = "/" ++ "/".intercalate (names cwd path) := by
  rw [Lexical.resolved_of_slash cwd (Lexical.head?_slashed slash), Lexical.names_of_slash cwd slash]

/-- What lies below a root has the normalised form of the root in front of its own. -/
theorem resolved_below {cwd root : String} {rest : List String}
    (slash : path.toList.head? = some '/') (slash' : root.toList.head? = some '/')
    (joined : names cwd path = names cwd root ++ rest) (named : names cwd root ≠ [])
    (more : rest ≠ []) : resolved cwd path = resolved cwd root ++ "/" ++ "/".intercalate rest := by
  rw [resolved_eq_of_slash cwd slash, resolved_eq_of_slash cwd slash', joined,
    String.intercalate_append_of_ne_nil named more]
  simp only [String.append_assoc]

/-- Normalised forms tell the places of absolute paths apart. -/
theorem resolved_eq_iff_of_slash (cwd : String) (slash : path.toList.head? = some '/')
    (slash' : other.toList.head? = some '/') :
    resolved cwd path = resolved cwd other ↔ names cwd path = names cwd other := by
  rw [resolved_eq_of_slash cwd slash, resolved_eq_of_slash cwd slash']
  constructor
  · intro same
    have read := congrArg Path.segments same
    rwa [Path.segments_slash_intercalate fun _ mem => Lexical.isSegment_of_mem_names mem,
      Path.segments_slash_intercalate fun _ mem => Lexical.isSegment_of_mem_names mem] at read
  · intro same
    rw [same]

/-- Names of tests differ exactly where the capitalised stems do. -/
theorem mirroredName_eq_iff :
    r.mirroredName stem = r.mirroredName stem' ↔
      Text.capitalised stem = Text.capitalised stem' := by
  rw [mirroredName, mirroredName, String.append_left_inj, String.ofList_inj]

/-! ## All source files -/

/-- A changed source file without backslashes, strictly below the source root and spelled in any way,
stands in one place there and has one test. The normalised form of the test is that of the test root
followed by the directories of the file and its mirrored name. Two such files share their test
exactly if they stand in one directory and their capitalised stems are the same. Among other changed
paths a path has the tests that it has alone. If all changed paths are such files the look-up
succeeds; it fails where a name is too long for the question whether a directory is there. -/
theorem mirrors_sources (regular : r.Regular) (structural : r.strategy = .structural)
    (apart : within fs.cwd r.sourceRoot r.testRoot = false)
    (apart' : within fs.cwd r.testRoot r.sourceRoot = false) :
    (∀ path, r.SourcePath fs path → (∃ above stem, r.Stands fs path above stem) ∧
      ∀ above stem, r.Stands fs path above stem → ∃ test,
        (r.resolve fs [path]).Gives (.ok [(path, [test])]) ∧
          resolved fs.cwd test = resolved fs.cwd r.testRoot ++ "/" ++
            "/".intercalate (above ++ [r.mirroredName stem])) ∧
    (∀ left right, r.SourcePath fs left → r.SourcePath fs right →
      ∀ above stem above' stem', r.Stands fs left above stem → r.Stands fs right above' stem' →
      ∀ test test', (r.resolve fs [left]).Gives (.ok [(left, [test])]) →
        (r.resolve fs [right]).Gives (.ok [(right, [test'])]) →
        (resolved fs.cwd test = resolved fs.cwd test' ↔
          above = above' ∧ Text.capitalised stem = Text.capitalised stem')) ∧
    (∀ paths affected, (r.resolve fs paths).Gives (.ok affected) →
      affected.map Prod.fst = paths.eraseDups ∧
        ∀ entry ∈ affected, (r.resolve fs [entry.1]).Gives (.ok [entry])) ∧
    (∀ paths, (∀ path ∈ paths, r.SourcePath fs path) →
      ∃ affected, (r.resolve fs paths).Gives (.ok affected)) ∧
    ∀ paths, ∀ path ∈ paths, fs.isDirectory (r.onDisk path) = .error .nameTooLong →
      ∃ failure, (r.resolve fs paths).Gives (.error failure) := by
  have parted := regular.parted apart apart'
  have single {path : String} {tests : List String} :
      (r.resolve fs [path]).Gives (.ok [(path, tests)]) ↔ r.testsAt fs path = .ok tests :=
    gives_resolve_singleton_iff structural
  refine ⟨fun path source => ⟨regular.exists_stands source, fun above stem stands => ?_⟩,
    fun left right source source' above stem above' stem' stands stands' test test' gives gives' => ?_,
    fun paths affected gives => ?_, fun paths sources => ?_, fun paths path mem asked => ?_⟩
  · obtain ⟨test, found, slash, joined⟩ := regular.exists_test parted source stands
    refine ⟨test, single.2 found, ?_⟩
    exact resolved_below slash regular.test joined parted.testRoot_names (by simp)
  · obtain ⟨other, found, slash, joined⟩ := regular.exists_test parted source stands
    obtain ⟨other', found', slash', joined'⟩ := regular.exists_test parted source' stands'
    obtain rfl : other = test := by simpa [found] using single.1 gives
    obtain rfl : other' = test' := by simpa [found'] using single.1 gives'
    rw [resolved_eq_iff_of_slash fs.cwd slash slash', joined, joined',
      List.append_cancel_left_eq, List.append_singleton_inj, mirroredName_eq_iff]
  · have records := Affected.records_collect ((gives_resolve structural fs paths).unique gives)
    exact ⟨records.keys, fun entry listed => single.2 (records.own entry listed)⟩
  · obtain ⟨affected, found⟩ : ∃ affected, r.affectedAt fs paths = .ok affected := by
      refine Affected.exists_collect_iff.2 fun path mem => ?_
      obtain ⟨above, stem, stands⟩ := regular.exists_stands (sources path mem)
      obtain ⟨test, found, -⟩ := regular.exists_test parted (sources path mem) stands
      exact ⟨[test], found⟩
    exact ⟨affected, found ▸ gives_resolve structural fs paths⟩
  · cases outcome : r.affectedAt fs paths with
    | error failure => exact ⟨failure, outcome ▸ gives_resolve structural fs paths⟩
    | ok affected =>
      obtain ⟨tests, found⟩ := Affected.exists_collect_iff.1 ⟨affected, outcome⟩ path mem
      rw [testsAt_of_fault asked] at found
      cases found

/-- Two files that are not there, one of them behind a detour, share their test. -/
theorem shared_in_small_project :
    ∃ test test', (SmallProject.resolver.resolve SmallProject.files ["src/lib/../b.php"]).Gives
        (.ok [("src/lib/../b.php", [test])]) ∧
      (SmallProject.resolver.resolve SmallProject.files ["src/B.php"]).Gives
        (.ok [("src/B.php", [test'])]) ∧
      resolved SmallProject.files.cwd test = "/p/test/BTest.php" ∧
      resolved SmallProject.files.cwd test = resolved SmallProject.files.cwd test' := by
  have source : ∀ path ∈ ["src/lib/../b.php", "src/B.php"],
      SmallProject.resolver.SourcePath SmallProject.files path := by
    intro path mem
    simp only [List.mem_cons, List.not_mem_nil, or_false] at mem
    rcases mem with rfl | rfl <;> exact ⟨by decide +kernel, by decide +kernel, by decide +kernel,
      by decide +kernel, by decide +kernel⟩
  have stands : SmallProject.resolver.Stands SmallProject.files "src/lib/../b.php" [] ['b'] := by
    unfold Stands
    decide +kernel
  have stands' : SmallProject.resolver.Stands SmallProject.files "src/B.php" [] ['B'] := by
    unfold Stands
    decide +kernel
  obtain ⟨one, shared, -⟩ := mirrors_sources regular_smallProject
    mirrored_smallProject.structural mirrored_smallProject.apart mirrored_smallProject.apart'
  obtain ⟨test, gives, form⟩ := (one _ (source _ (by simp))).2 [] ['b'] stands
  obtain ⟨test', gives', -⟩ := (one _ (source _ (by simp))).2 [] ['B'] stands'
  refine ⟨test, test', gives, gives', form.trans (by decide +kernel), ?_⟩
  exact (shared _ _ (source _ (by simp)) (source _ (by simp)) _ _ _ _ stands stands' _ _ gives
    gives').2 ⟨rfl, by decide +kernel⟩

end Resolver

/-- A project with a source file that is a link to a name that is too long. -/
def SmallProject.farSource : FileSystem :=
  .ofListing
    [(["p"], .directory), (["p", "src"], .directory), (["p", "src", "B.php"], .link (nameOf 256))]
    ["p"] (by decide +kernel)

namespace Resolver

open Lexical (within)

/-- A source file that is a link to a name that is too long leads to no directory, and still its
look-up fails. -/
theorem refused_farSource :
    SmallProject.resolver.Regular ∧ SmallProject.resolver.strategy = .structural ∧
      within SmallProject.farSource.cwd SmallProject.resolver.sourceRoot
        SmallProject.resolver.testRoot = false ∧
      within SmallProject.farSource.cwd SmallProject.resolver.testRoot
        SmallProject.resolver.sourceRoot = false ∧
      SmallProject.resolver.Stands SmallProject.farSource "src/B.php" [] ['B'] ∧
      SmallProject.farSource.node? ["p", "src", "B.php"] = some (.link (SmallProject.nameOf 256)) ∧
      (∀ location, SmallProject.farSource.locate true (SmallProject.resolver.onDisk "src/B.php") ≠
        .ok (.entry location .directory)) ∧
      (SmallProject.resolver.resolve SmallProject.farSource ["src/B.php"]).Gives
        (.error (.file .nameTooLong)) := by
  have place : SmallProject.resolver.onDisk "src/B.php" = ⟨.root, ["p", "src", "B.php"]⟩ := by
    decide +kernel
  have top : SmallProject.farSource.node? ([] ++ ["p"]) = some .directory := by rfl
  have home : SmallProject.farSource.node? (["p"] ++ ["src"]) = some .directory := by rfl
  have led : SmallProject.farSource.locate true (SmallProject.resolver.onDisk "src/B.php") =
      .error .nameTooLong := by
    rw [place, FileSystem.locate, if_neg (by decide +kernel), if_neg (by decide +kernel),
      FileSystem.start, if_pos (by decide), FileSystem.walk_down (by decide), if_neg (by decide),
      top]
    dsimp only
    rw [List.nil_append, FileSystem.walk_down (by decide), if_neg (by decide), home]
    exact walk_farLink (by decide) (by decide) rfl
  have asked : SmallProject.farSource.isDirectory (SmallProject.resolver.onDisk "src/B.php") =
      .error .nameTooLong :=
    FileSystem.ask_eq_error_iff.2 ⟨led, rfl⟩
  have gives := gives_testsOf mirrored_smallProject.structural SmallProject.farSource "src/B.php"
  rw [testsAt_of_fault asked] at gives
  refine ⟨regular_smallProject, mirrored_smallProject.structural, by decide +kernel,
    by decide +kernel, ?_, rfl, fun location => ?_, gives_resolve_singleton gives⟩
  · unfold Stands
    decide +kernel
  · rw [led]
    exact fun same => nomatch same

end Resolver

end TestImpact
