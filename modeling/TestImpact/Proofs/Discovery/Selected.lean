import TestImpact.Proofs.Discovery.Anywhere
import TestImpact.Proofs.Discovery.Declared

/-!
# What is selected is a test

By either strategy a selected test ends as tests do and lies in the test root (`IsTest`). It is a
changed path itself (`Regular.isTest_of_own`), a file found below a directory of the test root
(`Regular.isTest_of_mem_testsBelow`) or the counterpart of a source file
(`Regular.isTest_of_counterpart`); an index lists files that were found. That it lists nothing else
is an invariant of the memory (`Trusted`), and every action keeps it, however it ends
(`Resolving.Ensures`).

A name on disk is the exception. To the file system a backslash is a character of the name, to the
question of what lies in a root it is a separator, so a name may lead out of the directory it is
found in (`Climbs`). Main statement: `selects_tests`.
-/

namespace TestImpact

/-! ## Invariants of the memory -/

namespace Resolving

variable {α β : Type} {invariant : Memory → Prop}

/-- From a memory with the invariant the action ends with such a memory, however it ends, and what
it returns has a property. -/
def Ensures (invariant : Memory → Prop) (action : Resolving α) (property : α → Prop) : Prop :=
  ∀ memory outcome after, invariant memory → Yields memory action outcome after →
    invariant after ∧ ∀ a, outcome = .ok a → property a

theorem Gives.ensures {action : Resolving α} {outcome : Except Failure α} {property : α → Prop}
    (gives : action.Gives outcome) (holds : ∀ a, outcome = .ok a → property a) :
    Ensures invariant action property := by
  intro memory ended after kept yields
  obtain ⟨rfl, rfl⟩ := Prod.mk.inj ((gives memory).symm.trans yields)
  exact ⟨kept, holds⟩

theorem ensures_pure {a : α} {property : α → Prop} (holds : property a) :
    Ensures invariant (pure a) property := by
  refine (gives_pure a).ensures fun b same => ?_
  obtain rfl := Except.ok.inj same
  exact holds

theorem ensures_get : Ensures invariant (get : Resolving Memory) invariant := by
  intro memory outcome after kept yields
  cases yields
  refine ⟨kept, fun a same => ?_⟩
  obtain rfl := Except.ok.inj same
  exact kept

theorem ensures_set {memory : Memory} (holds : invariant memory) :
    Ensures invariant (set memory : Resolving PUnit) fun _ => True := by
  intro before outcome after _ yields
  cases yields
  exact ⟨holds, fun _ _ => trivial⟩

theorem Ensures.bind {action : Resolving α} {next : α → Resolving β} {between : α → Prop}
    {property : β → Prop} (first : Ensures invariant action between)
    (rest : ∀ a, between a → Ensures invariant (next a) property) :
    Ensures invariant (action >>= next) property := by
  intro memory outcome after kept yields
  rw [Yields, run_bind] at yields
  cases ran : action.run.run memory with
  | mk result between =>
    obtain ⟨kept, holds⟩ := first _ _ _ kept ran
    rw [ran] at yields
    cases result with
    | ok a => exact rest a (holds a rfl) _ _ _ kept yields
    | error failure =>
      obtain ⟨rfl, rfl⟩ := Prod.mk.inj yields
      refine ⟨kept, fun a same => ?_⟩
      cases same

theorem ensures_foldlM {step : β → α → Resolving β} {property : β → Prop} {items : List α}
    (each : ∀ b, property b → ∀ item ∈ items, Ensures invariant (step b item) property) {start : β}
    (begun : property start) : Ensures invariant (items.foldlM step start) property := by
  induction items generalizing start with
  | nil => exact ensures_pure begun
  | cons item rest ih =>
    rw [List.foldlM_cons]
    exact (each start begun item List.mem_cons_self).bind fun b holds =>
      ih (fun b holds item mem => each b holds item (List.mem_cons_of_mem _ mem)) holds

end Resolving

/-! ## What an index lists -/

/-- An index lists only tests that were read. -/
theorem CoverageIndex.mem_of_mem_testsOf {fs : FileSystem} {base : Option Path}
    {tests : List String} {index : CoverageIndex} (built : build fs base tests = .ok index)
    {className test : String} (listed : test ∈ testsOf index className) : test ∈ tests := by
  have kept : ∀ (rest : List String) (start : CoverageIndex),
      rest.foldlM (fun index test => do
        let content ← orFailure (fs.readText (anchored base test))
        pure (addFile index test content)) start = .ok index →
      test ∈ testsOf start className ∨ test ∈ rest := by
    intro rest
    induction rest with
    | nil =>
      intro start ended
      cases ended
      exact Or.inl listed
    | cons first rest ih =>
      intro start ended
      rw [List.foldlM_cons] at ended
      obtain ⟨next, stepped, ended⟩ := of_bind_ok ended
      obtain ⟨content, -, same⟩ := of_bind_ok stepped
      obtain rfl := Except.ok.inj same
      rcases ih _ ended with known | later
      · rw [testsOf_addFile] at known
        split at known
        · rcases List.mem_append.1 known with old | new
          · exact Or.inl old
          · exact Or.inr (List.mem_singleton.1 new ▸ List.mem_cons_self)
        · exact Or.inl known
      · exact Or.inr (List.mem_cons_of_mem _ later)
  exact (kept tests [] built).resolve_left (by simp [testsOf])

namespace Resolver

open Lexical (names slashed within collapse LeadsOut)

variable {r : Resolver} {fs : FileSystem} {path directory test : String} {tests : List String}
  {memory after : Memory}

/-! ## Tests and where they lie -/

/-- The places of a resolver are named from the root, and tests have names of their own: the marker
says something, and no separator stands in it or in the suffix, which is more than a dot. -/
structure Regular (r : Resolver) : Prop extends Rooted r where
  proper : ∀ base, r.base = some base → base.Proper
  plain : r.convention.Plain
  marked : r.convention.testMarker ≠ ""

/-- The segments of names in which backslashes separate, too. -/
def cut (names : Location) : List String :=
  names.flatMap fun name => Path.segments (slashed name)

/-- Cut at their backslashes, too, the names lead out of the directory they are found in. -/
def Climbs (names : Location) : Prop :=
  LeadsOut (cut names)

instance (names : Location) : Decidable (Climbs names) :=
  inferInstanceAs (Decidable (LeadsOut (cut names)))

/-- The test is the file with these names below a directory in the test root. -/
def FoundBelow (r : Resolver) (fs : FileSystem) (test : String) (names : Location) : Prop :=
  ∃ directory location, directory ≠ "" ∧
    within fs.cwd (r.placeText directory) r.testRoot = true ∧
    fs.locate true (r.onDisk directory) = .ok (.entry location .directory) ∧
    names ∈ fs.filesBelow location ∧ test = fileText directory names

/-- The path ends as tests do and lies in the test root, unless it is a file that was found there
under names that climb. -/
structure IsTest (r : Resolver) (fs : FileSystem) (test : String) : Prop where
  ends : r.convention.testSuffix.toList <:+ (Path.ofString test).name.toList
  inside : within fs.cwd (r.placeText test) r.testRoot = true ∨
    ∃ names, r.FoundBelow fs test names ∧ Climbs names

/-- All of some paths are tests. -/
def AreTests (r : Resolver) (fs : FileSystem) (tests : List String) : Prop :=
  ∀ test ∈ tests, r.IsTest fs test

/-- An index lists only tests. -/
def Sound (r : Resolver) (fs : FileSystem) (index : CoverageIndex) : Prop :=
  ∀ className, r.AreTests fs (index.testsOf className)

/-- An index that is remembered lists only tests. -/
def Trusted (r : Resolver) (fs : FileSystem) (memory : Memory) : Prop :=
  ∀ index, memory = some index → r.Sound fs index

theorem ne_empty_of_slash (slash : path.toList.head? = some '/') : path ≠ "" := by
  rintro rfl
  cases slash

theorem onDisk_of_slash (r : Resolver) (slash : path.toList.head? = some '/') :
    r.onDisk path = Path.ofString path :=
  r.onDisk_of_isAbsolute (Lexical.isAbsolute_ofString slash)

/-- The segments of a path are the last ones of its place. -/
theorem exists_parts_onDisk (r : Resolver) (path : String) :
    ∃ front, (r.onDisk path).parts = front ++ Path.segments path := by
  unfold onDisk CoverageIndex.anchored
  split
  · exact ⟨[], rfl⟩
  next base _ =>
    by_cases absolute : (Path.ofString path).isAbsolute = true
    · exact ⟨[], congrArg Path.parts (Path.div_eq_of_isAbsolute absolute)⟩
    · exact ⟨base.parts,
        congrArg Path.parts (Path.div_eq_of_relative (Bool.eq_false_iff.2 absolute))⟩

/-- A file below a directory has the segments of the directory and its own names. -/
theorem parts_onDisk_fileText (nonempty : directory ≠ "") {names : List String}
    (proper : ∀ name ∈ names, Path.IsSegment name) :
    (r.onDisk (fileText directory names)).parts = (r.onDisk directory).parts ++ names :=
  (anchored_behind r.base nonempty proper).2

/-- Names without backslashes do not climb. -/
theorem not_climbs {location found : Location} (below : found ∈ fs.filesBelow location)
    (plain : ∀ name ∈ found, '\\' ∉ name.toList) : ¬ Climbs found := by
  have segments := FileSystem.isSegment_of_mem_filesBelow below
  rw [Climbs, cut, Lexical.flatMap_segments_slashed (fun name mem => (segments name mem).1) plain]
  exact Lexical.not_leadsOut_of_notMem fun up => (segments _ up).2 rfl

example : Climbs ["..\\XTest.php"] ∧ ¬ Climbs ["unit", "..\\XTest.php"] := by
  decide +kernel

namespace Regular

variable (regular : r.Regular)
include regular

theorem names_place (cwd path : String) :
    names cwd (r.placeText path) = collapse true (cut (r.onDisk path).parts) :=
  Lexical.names_of_isAbsolute cwd (regular.isAbsolute_onDisk path)

theorem within_place_iff {cwd path root : String} :
    within cwd (r.placeText path) root = true ↔ names cwd root <+: names cwd (r.placeText path) :=
  Lexical.within_iff_below (Lexical.parentSegment_notMem_names cwd (regular.head?_place path))

/-- A file found below a directory in the test root is a test. -/
theorem isTest_of_mem_testsBelow {base : Option Path} {suffix : String} (nonempty : directory ≠ "")
    (inside : within fs.cwd (r.placeText directory) r.testRoot = true)
    (seen : CoverageIndex.anchored base directory = r.onDisk directory)
    (longer : r.convention.testSuffix.toList <:+ suffix.toList)
    (found : testsBelow fs base directory suffix = .ok tests) (mem : test ∈ tests) :
    r.IsTest fs test := by
  obtain ⟨location, found, led, below, ends, rfl⟩ := exists_of_mem_testsBelow found mem
  have proper : ∀ name ∈ found, Path.IsSegment name :=
    fun name mem => (FileSystem.isSegment_of_mem_filesBelow below name mem).1
  have ends : r.convention.testSuffix.toList <:+ (found.getLastD "").toList :=
    longer.trans (Convention.endsWith_iff.1 ends)
  have some_name : found ≠ [] := by
    rintro rfl
    obtain ⟨c, mem, -⟩ := regular.plain.testSuffix_named
    exact absurd (ends.subset mem) List.not_mem_nil
  refine ⟨?_, ?_⟩
  · have last : (Path.ofString (fileText directory found)).name = found.getLastD "" := by
      rw [Path.name, Path.parts_ofString, segments_fileText directory proper,
        getLastD_append _ some_name]
    rwa [last]
  · by_cases climbs : Climbs found
    · exact Or.inr ⟨found, ⟨directory, location, nonempty, inside, seen ▸ led, below, rfl⟩,
        climbs⟩
    · refine Or.inl (regular.within_place_iff.2 ?_)
      have joined : names fs.cwd (r.placeText (fileText directory found)) =
          names fs.cwd (r.placeText directory) ++ collapse false (cut found) := by
        rw [regular.names_place, regular.names_place, parts_onDisk_fileText nonempty proper, cut,
          List.flatMap_append]
        exact Lexical.collapse_append_of_inside _ climbs
      rw [joined]
      exact (regular.within_place_iff.1 inside).trans (List.prefix_append _ _)

/-- A changed path that ends as tests do and lies in the test root is a test. -/
theorem isTest_of_own (mem : test ∈ r.ownTest fs path) : r.IsTest fs test := by
  unfold ownTest at mem
  split at mem
  next own =>
    obtain rfl := List.mem_singleton.1 mem
    rw [Bool.and_eq_true, Convention.endsWith_iff] at own
    obtain ⟨above, name, segments, ends⟩ := Path.exists_segments_concat own.2
      (fun slash => regular.plain.testSuffix_free _ slash (Or.inl rfl))
      regular.plain.testSuffix_named
    refine ⟨?_, Or.inl own.1⟩
    rwa [Path.name, Path.parts_ofString, segments, List.getLastD_concat]
  next => cases mem

/-- The test root lies in itself. -/
theorem within_testRoot : within fs.cwd (r.placeText r.testRoot) r.testRoot = true := by
  have top : names fs.cwd (r.placeText r.testRoot) = names fs.cwd r.testRoot := by
    rw [placeText, r.onDisk_of_slash regular.test, Lexical.names_ofString fs.cwd regular.test]
  exact regular.within_place_iff.2 ⟨[], by rw [List.append_nil, top]⟩

/-- What is moved to the test root lies there. -/
theorem within_of_transplant? {place moved : String} (slash : place.toList.head? = some '/')
    (led : Lexical.transplant? fs.cwd place r.sourceRoot r.testRoot = some moved) :
    moved.toList.head? = some '/' ∧ within fs.cwd (r.placeText moved) r.testRoot = true := by
  have begins := Lexical.head?_of_transplant? regular.test led
  obtain ⟨rest, -, joined, -⟩ := Lexical.names_of_transplant? slash regular.test led
  refine ⟨begins, regular.within_place_iff.2 ?_⟩
  rw [placeText, r.onDisk_of_slash begins, Lexical.names_ofString fs.cwd begins, joined]
  exact List.prefix_append _ _

/-- A source file has a name without backslashes. -/
theorem exists_name_of_source (free : '\\' ∉ path.toList)
    (ends : Convention.endsWith path r.convention.sourceSuffix = true) :
    ∃ anchor above name, r.onDisk path = ⟨anchor, above ++ [name]⟩ ∧
      r.convention.sourceSuffix.toList <:+ name.toList ∧ '\\' ∉ name.toList := by
  have slash_free : '/' ∉ r.convention.sourceSuffix.toList :=
    fun slash => regular.plain.suffix_free _ slash (Or.inl rfl)
  obtain ⟨anchor, above, name, place, suffix⟩ : ∃ anchor above name,
      r.onDisk path = ⟨anchor, above ++ [name]⟩ ∧
        r.convention.sourceSuffix.toList <:+ name.toList :=
    exists_onDisk_concat slash_free regular.plain.named ends
  obtain ⟨earlier, last, segments, -⟩ := Path.exists_segments_concat
    (Convention.endsWith_iff.1 ends) slash_free regular.plain.named
  obtain ⟨front, parts⟩ := r.exists_parts_onDisk path
  rw [place, segments, ← List.append_assoc] at parts
  refine ⟨anchor, above, name, place, suffix, ?_⟩
  rw [(List.append_singleton_inj.1 parts).2]
  exact Lexical.notMem_of_mem_segments free (segments ▸ List.mem_append_right _ (by simp))

/-- The counterpart of a source file is a test. -/
theorem isTest_of_counterpart (free : '\\' ∉ path.toList)
    (ends : Convention.endsWith path r.convention.sourceSuffix = true)
    (source : within fs.cwd (r.placeText path) r.sourceRoot = true)
    (given : r.counterpart fs (r.placeText path) = .ok test) : r.IsTest fs test := by
  have led := counterpart_eq_ok_iff.1 given
  have slash : (r.convention.counterpart (r.placeText path)).toList.head? = some '/' :=
    Convention.head?_counterpart _ (regular.head?_place path)
  refine ⟨?_, Or.inl (regular.within_of_transplant? slash led).2⟩
  obtain ⟨anchor, above, name, place, suffix, name_free⟩ := regular.exists_name_of_source free ends
  have proper := proper_onDisk regular.proper path
  obtain ⟨valid, valid', test_suffix, counterpart⟩ :=
    counterpart_placeText regular.plain proper place suffix name_free
  have differs := Convention.testName_ne regular.marked regular.plain.ne_empty suffix
  rw [← @String.toList_ofList (r.convention.testName name.toList)] at test_suffix differs
  generalize String.ofList (r.convention.testName name.toList) = last
    at valid' test_suffix counterpart differs
  rw [place] at proper
  obtain ⟨before, lasts⟩ := Lexical.exists_names_last fs.cwd anchor
    fun part mem => proper part (List.mem_append_left _ mem)
  obtain ⟨more, joined', -⟩ := Lexical.within_iff.1 source
  obtain ⟨rest, joined, -, segments⟩ := Lexical.names_of_transplant? slash regular.test led
  rw [placeText, place, lasts name valid] at joined'
  rw [counterpart, lasts last valid'] at joined
  -- The source root is not the counterpart itself, or it would be the file with another name.
  rcases List.eq_nil_or_concat' rest with rfl | ⟨earlier, final, rfl⟩
  · rw [List.append_nil] at joined
    rw [← joined, List.append_assoc] at joined'
    have same := (List.cons.inj (List.append_cancel_left joined')).1
    exact absurd (congrArg String.toList same.symm) differs
  · rw [← List.append_assoc] at joined
    rw [Path.name, Path.parts_ofString, segments, ← List.append_assoc, List.getLastD_concat,
      ← (List.append_singleton_inj.1 joined).2]
    exact test_suffix

/-! ## Each step -/

/-- The tests of a changed directory are tests. -/
theorem isTest_of_mem_testsOfDirectory (nonempty : path ≠ "")
    (found : r.testsOfDirectory fs path (r.placeText path) = .ok tests) (mem : test ∈ tests) :
    r.IsTest fs test := by
  unfold testsOfDirectory at found
  split at found
  next inside =>
    exact regular.isTest_of_mem_testsBelow nonempty inside rfl List.suffix_rfl found mem
  next =>
    split at found
    next moved led =>
      obtain ⟨slash, inside⟩ := regular.within_of_transplant? (regular.head?_place path) led
      have seen : CoverageIndex.anchored none moved = r.onDisk moved :=
        (r.onDisk_of_slash slash).symm
      exact regular.isTest_of_mem_testsBelow (ne_empty_of_slash slash) inside seen
        List.suffix_rfl found mem
    next =>
      cases found
      cases mem

/-- The index that is read lists only tests, and it is remembered. -/
theorem ensures_index : Resolving.Ensures (r.Trusted fs) (r.index fs) (r.Sound fs) := by
  unfold index
  refine Resolving.ensures_get.bind fun memory trusted => ?_
  cases memory with
  | some index => exact Resolving.ensures_pure (trusted index rfl)
  | none =>
    refine ((Resolving.gives_lift _).ensures fun _ found => found).bind fun tests found => ?_
    refine ((Resolving.gives_lift _).ensures fun _ built => built).bind fun index built => ?_
    have sound : r.Sound fs index := fun className test listed =>
      regular.isTest_of_mem_testsBelow (ne_empty_of_slash regular.test) regular.within_testRoot rfl
        (r.convention.testSuffix_suffix r.testKind) found
        (CoverageIndex.mem_of_mem_testsOf built listed)
    refine (Resolving.ensures_set fun other same => ?_).bind fun _ _ => Resolving.ensures_pure sound
    obtain rfl := Option.some.inj same
    exact sound

/-- The tests of a source file are tests. -/
theorem ensures_testsOfSource (free : '\\' ∉ path.toList)
    (ends : Convention.endsWith path r.convention.sourceSuffix = true)
    (source : within fs.cwd (r.placeText path) r.sourceRoot = true) :
    Resolving.Ensures (r.Trusted fs) (r.testsOfSource fs (r.placeText path)) (r.AreTests fs) := by
  unfold testsOfSource
  split
  next =>
    refine ((Resolving.gives_lift _).ensures fun _ given => given).bind fun test given => ?_
    refine Resolving.ensures_pure fun other mem => ?_
    obtain rfl := List.mem_singleton.1 mem
    exact regular.isTest_of_counterpart free ends source given
  next =>
    refine ((Resolving.gives_lift _).ensures fun _ _ => trivial).bind fun declared _ => ?_
    cases declared with
    | none => exact Resolving.ensures_pure fun _ mem => nomatch mem
    | some className =>
      exact regular.ensures_index.bind fun index sound => Resolving.ensures_pure (sound className)

/-- A changed path may be a test beside others. -/
theorem ensures_ownTest_append {action : Resolving (List String)}
    (others : Resolving.Ensures (r.Trusted fs) action (r.AreTests fs)) :
    Resolving.Ensures (r.Trusted fs) (action >>= fun others => pure (r.ownTest fs path ++ others))
      (r.AreTests fs) := by
  refine others.bind fun others hold => Resolving.ensures_pure fun test mem => ?_
  rcases List.mem_append.1 mem with own | other
  · exact regular.isTest_of_own own
  · exact hold test other

/-- The tests that a changed path affects are tests. -/
theorem ensures_testsOf (nonempty : path ≠ "") (free : '\\' ∉ path.toList) :
    Resolving.Ensures (r.Trusted fs) (r.testsOf fs path) (r.AreTests fs) := by
  unfold testsOf
  refine ((Resolving.gives_lift _).ensures fun _ _ => trivial).bind fun directory _ => ?_
  split
  next =>
    exact (Resolving.gives_lift _).ensures fun tests found test mem =>
      regular.isTest_of_mem_testsOfDirectory nonempty found mem
  next =>
    split
    next => exact Resolving.ensures_pure fun _ mem => nomatch mem
    next ends =>
      rw [Bool.not_eq_true, Bool.not_eq_false'] at ends
      dsimp only
      split
      next source =>
        exact regular.ensures_ownTest_append (regular.ensures_testsOfSource free ends source)
      next =>
        have none_other : Resolving.Ensures (r.Trusted fs) (pure []) (r.AreTests fs) :=
          Resolving.ensures_pure fun _ mem => nomatch mem
        exact regular.ensures_ownTest_append none_other

theorem ensures_resolve {paths : List String}
    (legible : ∀ path ∈ paths, path ≠ "" ∧ '\\' ∉ path.toList) :
    Resolving.Ensures (r.Trusted fs) (r.resolve fs paths) fun affected =>
      ∀ entry ∈ affected, r.AreTests fs entry.2 := by
  unfold resolve
  refine Resolving.ensures_foldlM (fun affected hold path mem => ?_) fun _ mem => nomatch mem
  obtain ⟨nonempty, free⟩ := legible path mem
  refine (regular.ensures_testsOf nonempty free).bind fun tests found => ?_
  refine Resolving.ensures_pure fun entry mem => ?_
  rcases Affected.mem_put mem with old | rfl
  · exact hold entry old
  · exact found

end Regular

/-! ## Whole look-ups -/

theorem trusted_none (r : Resolver) (fs : FileSystem) : r.Trusted fs none :=
  fun _ same => nomatch same

/-- Whatever resolving gives is a test: it ends as tests do, and it lies in the test root unless it
was found there under names that climb. The index that is remembered then lists only tests again.
Where no name on disk holds a backslash every test lies in the test root. -/
theorem selects_tests (regular : r.Regular) (trusted : r.Trusted fs memory) {paths : List String}
    (legible : ∀ path ∈ paths, path ≠ "" ∧ '\\' ∉ path.toList) {affected : Affected}
    (resolved : Resolving.Yields memory (r.resolve fs paths) (.ok affected) after) :
    (∀ entry ∈ affected, ∀ test ∈ entry.2, r.IsTest fs test) ∧ r.Trusted fs after ∧
      ((∀ entry ∈ fs.entries, ∀ name ∈ entry.1, '\\' ∉ name.toList) →
        ∀ entry ∈ affected, ∀ test ∈ entry.2,
          within fs.cwd (r.placeText test) r.testRoot = true) := by
  obtain ⟨kept, hold⟩ := regular.ensures_resolve legible _ _ _ trusted resolved
  refine ⟨hold affected rfl, kept, fun plain entry listed test mem => ?_⟩
  refine (hold affected rfl entry listed test mem).inside.resolve_right ?_
  rintro ⟨found, ⟨directory, location, -, -, -, below, -⟩, climbs⟩
  obtain ⟨node, among, -⟩ := FileSystem.mem_filesBelow_iff.1 below
  exact not_climbs below (fun name mem => plain _ among name (List.mem_append_right _ mem)) climbs

theorem regular_smallProject : SmallProject.resolver.Regular where
  based := by
    obtain ⟨base, given, absolute, -⟩ := mirrored_smallProject.based
    exact ⟨base, given, absolute⟩
  source := mirrored_smallProject.source_rooted
  test := mirrored_smallProject.test_rooted
  proper := by
    obtain ⟨base, given, -, proper⟩ := mirrored_smallProject.based
    rintro other same
    rw [given] at same
    exact Option.some.inj same ▸ proper
  plain := mirrored_smallProject.plain
  marked := by decide +kernel

/-- In the small project a source file and the directory of the tests have a test, in the test
root. -/
theorem selected_in_small_project :
    ∃ affected after,
      Resolving.Yields none (SmallProject.resolver.resolve SmallProject.files ["src/A.php", "test"])
        (.ok affected) after ∧
      affected.map Prod.snd = [["/p/test/ATest.php"], ["test/ATest.php"]] ∧
      ∀ entry ∈ affected, ∀ test ∈ entry.2,
        SmallProject.resolver.IsTest SmallProject.files test ∧
          within SmallProject.files.cwd (SmallProject.resolver.placeText test)
            SmallProject.resolver.testRoot = true := by
  have found : SmallProject.resolver.affectedAt SmallProject.files ["src/A.php", "test"] =
      .ok [("src/A.php", ["/p/test/ATest.php"]), ("test", ["test/ATest.php"])] := by
    decide +kernel
  have resolved := gives_resolve mirrored_smallProject.structural SmallProject.files
    ["src/A.php", "test"] none
  rw [found] at resolved
  obtain ⟨hold, -, inside⟩ := selects_tests regular_smallProject (trusted_none _ _)
    (by decide +kernel) resolved
  exact ⟨_, none, resolved, rfl, fun entry listed test mem =>
    ⟨hold entry listed test mem, inside (by decide +kernel) entry listed test mem⟩⟩

/-- A test whose name climbs is selected with the directory of the tests and does not lie there. -/
theorem climbing_test :
    SmallProject.resolver.Regular ∧
      ((SmallProject.resolver.resolve SmallProject.climbing ["test"]).run.run none).1 =
        .ok [("test", ["test/..\\..\\XTest.php"])] ∧
      within SmallProject.climbing.cwd
        (SmallProject.resolver.placeText "test/..\\..\\XTest.php")
        SmallProject.resolver.testRoot = false :=
  ⟨regular_smallProject, by decide +kernel, by decide +kernel⟩

end Resolver

end TestImpact
