import Mathlib.Data.List.Nodup
import TestImpact.Proofs.Discovery.CoversTag
import TestImpact.Proofs.Discovery.Directories
import TestImpact.Proofs.FileSystem.Alike

/-!
# Tests by declaration

The index lists under a class the tests whose texts cover it, in the order in which they were read
and each once (`testsOf_build`). It is read when the first class is looked up and kept from then on:
no action changes an index that is remembered (`Resolving.Keeps`), so neither does a run of them
between which the files change (`memory_of_run`). The answer for a source file is therefore a choice
among the tests that were there at the first look-up, by the texts they had then
(`declared_tests`).
-/

namespace TestImpact

/-! ## Files that can be read -/

namespace FileSystem

variable {fs : FileSystem} {path : Path}

theorem isDirectory_of_isFile (existing : fs.isFile path = .ok true) :
    fs.isDirectory path = .ok false := by
  obtain ⟨content, executable, found⟩ := stat_of_isFile existing
  rw [isDirectory, ask, found]
  rfl

theorem exists_readText (existing : fs.isFile path = .ok true) :
    ∃ text, fs.readText path = .ok text := by
  obtain ⟨content, found⟩ := exists_read existing
  refine ⟨unified (Utf8.decodeReplacing content), ?_⟩
  rw [readText, found]
  rfl

end FileSystem

/-! ## What an index lists -/

namespace CoverageIndex

variable {fs : FileSystem} {base : Option Path} {index : CoverageIndex} {className test : String}

/-- The classes that a text declares to cover, without leading backslashes. -/
def declaredBy (content : String) : List String :=
  (CoversTag.classes content).map fun name => String.ofList (CoversTag.canonical name.toList)

/-- The text of a test, empty if it cannot be read. -/
def textOf (fs : FileSystem) (base : Option Path) (test : String) : String :=
  (fs.readText (anchored base test)).toOption.getD ""

theorem testsOf_cons (name : String) (tests : List String) (index : CoverageIndex) :
    testsOf ((name, tests) :: index) className =
      if name = className then tests else testsOf index className := by
  unfold testsOf
  rw [List.lookup_cons]
  by_cases same : name = className
  · simp [same]
  · have differs : (className == name) = false := by simpa using Ne.symm same
    rw [differs, if_neg same]

theorem testsOf_add (index : CoverageIndex) (name test : String) :
    testsOf (index.add name test) className =
      if name = className ∧ test ∉ testsOf index className then testsOf index className ++ [test]
      else testsOf index className := by
  induction index with
  | nil =>
    rw [add, testsOf_cons]
    simp [testsOf]
  | cons entry rest ih =>
    obtain ⟨known, tests⟩ := entry
    rw [add]
    by_cases same : known = name
    · subst same
      by_cases asked : known = className
      · subst asked
        by_cases listed : test ∈ tests <;> simp [testsOf_cons, listed]
      · simp [testsOf_cons, asked]
    · rw [if_neg same, testsOf_cons, testsOf_cons, ih]
      by_cases asked : known = className
      · have other : name ≠ className := fun later => same (asked.trans later.symm)
        simp [asked, other]
      · simp [asked]

theorem testsOf_addFile (index : CoverageIndex) (test content : String) :
    testsOf (index.addFile test content) className =
      if className ∈ declaredBy content ∧ test ∉ testsOf index className then
        testsOf index className ++ [test]
      else testsOf index className := by
  have listed : index.addFile test content =
      (declaredBy content).foldl (fun index name => index.add name test) index := by
    rw [addFile, declaredBy, List.foldl_map]
  rw [listed]
  clear listed
  induction declaredBy content generalizing index with
  | nil => simp
  | cons name rest ih =>
    rw [List.foldl_cons, ih, testsOf_add]
    by_cases same : name = className
    · by_cases known : test ∈ testsOf index className <;> simp [same, known]
    · simp [same, Ne.symm same]

/-- A test that is not listed yet comes behind the others, under the classes it covers. -/
theorem testsOf_addFile_of_notMem {index : CoverageIndex} {test : String} (content : String)
    (fresh : test ∉ testsOf index className) :
    testsOf (index.addFile test content) className =
      testsOf index className ++ if className ∈ declaredBy content then [test] else [] := by
  rw [testsOf_addFile]
  by_cases covers : className ∈ declaredBy content <;> simp [covers, fresh]

/-- Tests that are not listed yet come behind the others, in their order. -/
theorem testsOf_foldlM {tests : List String} (start : CoverageIndex) (distinct : tests.Nodup)
    (fresh : ∀ className, ∀ test ∈ tests, test ∉ testsOf start className)
    (readable : ∀ test ∈ tests, ∃ text, fs.readText (anchored base test) = .ok text) :
    ∃ index, tests.foldlM (fun index test => do
        let content ← orFailure (fs.readText (anchored base test))
        pure (addFile index test content)) start = .ok index ∧
      ∀ className, testsOf index className = testsOf start className ++
        tests.filter fun test => className ∈ declaredBy (textOf fs base test) := by
  induction tests generalizing start with
  | nil => exact ⟨start, rfl, fun _ => by simp⟩
  | cons test rest ih =>
    obtain ⟨unlisted, distinct⟩ := List.nodup_cons.1 distinct
    obtain ⟨text, read⟩ := readable test List.mem_cons_self
    have content : textOf fs base test = text := by
      rw [textOf, read]
      rfl
    have step := fun className =>
      testsOf_addFile_of_notMem text (fresh className test List.mem_cons_self)
    have fresh' : ∀ className, ∀ other ∈ rest,
        other ∉ testsOf (start.addFile test text) className := by
      intro className other mem
      have differs : other ≠ test := fun same => unlisted (same ▸ mem)
      have old := fresh className other (List.mem_cons_of_mem _ mem)
      rw [step]
      by_cases covers : className ∈ declaredBy text <;> simp [covers, old, differs]
    obtain ⟨index, built, lists⟩ := ih (start.addFile test text) distinct fresh'
      fun other mem => readable other (List.mem_cons_of_mem _ mem)
    refine ⟨index, ?_, fun className => ?_⟩
    · rw [List.foldlM_cons, read]
      exact built
    · rw [lists, step, List.filter_cons, content]
      by_cases covers : className ∈ declaredBy text <;> simp [covers]

/-- An index of tests that can be read lists them under the classes they cover, in their order. -/
theorem testsOf_build {tests : List String} (distinct : tests.Nodup)
    (readable : ∀ test ∈ tests, ∃ text, fs.readText (anchored base test) = .ok text) :
    ∃ index, build fs base tests = .ok index ∧ ∀ className, testsOf index className =
      tests.filter fun test => className ∈ declaredBy (textOf fs base test) := by
  obtain ⟨index, built, lists⟩ := testsOf_foldlM [] distinct
    (fun _ _ _ => by simp [testsOf]) readable
  exact ⟨index, built, lists⟩

end CoverageIndex

/-! ## What is remembered -/

namespace Resolving

variable {α β : Type} {index : CoverageIndex} {memory between after : Memory}

/-- The action leaves an index that is remembered as it is, however it ends. -/
def Keeps (action : Resolving α) : Prop :=
  ∀ index, (action.run.run (some index)).2 = some index

theorem Gives.keeps {action : Resolving α} {outcome : Except Failure α}
    (gives : action.Gives outcome) : action.Keeps :=
  fun index => congrArg Prod.snd (gives (some index))

theorem Keeps.bind {action : Resolving α} {next : α → Resolving β} (first : action.Keeps)
    (rest : ∀ a, (next a).Keeps) : (action >>= next).Keeps := by
  intro index
  have same := first index
  rw [run_bind]
  generalize action.run.run (some index) = ran at same
  obtain ⟨outcome, between⟩ := ran
  obtain rfl : between = some index := same
  cases outcome with
  | ok a => exact rest a index
  | error failure => rfl

theorem keeps_foldlM {step : β → α → Resolving β} (each : ∀ b a, (step b a).Keeps) (start : β)
    (items : List α) : (items.foldlM step start).Keeps := by
  induction items generalizing start with
  | nil => exact (gives_pure start).keeps
  | cons item rest ih =>
    rw [List.foldlM_cons]
    exact (each start item).bind ih

/-- From one memory the action comes to an outcome and leaves another memory behind. -/
def Yields (memory : Memory) (action : Resolving α) (outcome : Except Failure α)
    (after : Memory) : Prop :=
  action.run.run memory = (outcome, after)

theorem yields_lift {outcome known : Except Failure α} (same : outcome = known)
    (memory : Memory) : Yields memory (monadLift outcome) known memory := by
  rw [same]
  exact gives_lift known memory

theorem Yields.bind {action : Resolving α} {next : α → Resolving β} {a : α}
    {outcome : Except Failure β} (first : Yields memory action (.ok a) between)
    (rest : Yields between (next a) outcome after) :
    Yields memory (action >>= next) outcome after := by
  rw [Yields, run_bind, first]
  exact rest

theorem Yields.stop {action : Resolving α} {failure : Failure}
    (first : Yields memory action (.error failure) after) (next : α → Resolving β) :
    Yields memory (action >>= next) (.error failure) after := by
  rw [Yields, run_bind, first]

theorem Yields.map {action : Resolving α} {outcome : Except Failure α}
    (first : Yields memory action outcome after) (change : α → β) :
    Yields memory (action >>= fun a => pure (change a)) (change <$> outcome) after := by
  rw [Yields, run_bind, first]
  cases outcome <;> rfl

end Resolving

namespace Resolver

open CoverageIndex (anchored)

variable {r : Resolver} {fs : FileSystem} {path : String} {index : CoverageIndex}
  {tests found : List String} {className : String} {memory : Memory}

theorem keeps_index (r : Resolver) (fs : FileSystem) : (r.index fs).Keeps :=
  fun _ => rfl

theorem keeps_testsOfSource (r : Resolver) (fs : FileSystem) (place : String) :
    (r.testsOfSource fs place).Keeps := by
  unfold testsOfSource
  split
  · exact (Resolving.gives_lift _).keeps.bind fun _ => (Resolving.gives_pure _).keeps
  · refine (Resolving.gives_lift _).keeps.bind fun declared => ?_
    cases declared with
    | none => exact (Resolving.gives_pure _).keeps
    | some className => exact (keeps_index r fs).bind fun _ => (Resolving.gives_pure _).keeps

theorem keeps_testsOf (r : Resolver) (fs : FileSystem) (path : String) :
    (r.testsOf fs path).Keeps := by
  unfold testsOf
  refine (Resolving.gives_lift _).keeps.bind fun directory => ?_
  split
  · exact (Resolving.gives_lift _).keeps
  · split
    · exact (Resolving.gives_pure _).keeps
    · dsimp only
      by_cases inside : Lexical.within fs.cwd (r.onDisk path).toString r.sourceRoot = true
      · rw [if_pos inside]
        exact (keeps_testsOfSource r fs _).bind fun _ => (Resolving.gives_pure _).keeps
      · rw [if_neg inside]
        exact (Resolving.gives_pure _).keeps.bind fun _ => (Resolving.gives_pure _).keeps

theorem keeps_resolve (r : Resolver) (fs : FileSystem) (paths : List String) :
    (r.resolve fs paths).Keeps :=
  Resolving.keeps_foldlM
    (fun _ path => (keeps_testsOf r fs path).bind fun _ => (Resolving.gives_pure _).keeps) [] paths

/-- What happens to a resolver and its files: the files change in any way, or changed paths are
resolved. -/
inductive Event where
  | change (next : FileSystem → FileSystem)
  | resolve (paths : List String)

/-- The files and the memory after an event. -/
def after (r : Resolver) : FileSystem × Memory → Event → FileSystem × Memory
  | (fs, memory), .change next => (next fs, memory)
  | (fs, memory), .resolve paths => (fs, ((r.resolve fs paths).run.run memory).2)

theorem memory_of_event (r : Resolver) (fs : FileSystem) (index : CoverageIndex) (event : Event) :
    (r.after (fs, some index) event).2 = some index := by
  cases event with
  | change next => rfl
  | resolve paths => exact keeps_resolve r fs paths index

/-- An index that is remembered outlasts every run of changes and look-ups. -/
theorem memory_of_run (r : Resolver) (fs : FileSystem) (index : CoverageIndex)
    (events : List Event) : (events.foldl r.after (fs, some index)).2 = some index := by
  induction events generalizing fs with
  | nil => rfl
  | cons event rest ih =>
    have kept := memory_of_event r fs index event
    rw [List.foldl_cons]
    generalize r.after (fs, some index) event = state at kept
    obtain ⟨fs', memory⟩ := state
    obtain rfl : memory = some index := kept
    exact ih fs'

/-! ## Looking up a source file -/

/-- The strategy by declaration with absolute roots that lie apart and an absolute base
directory. -/
structure Separate (r : Resolver) (fs : FileSystem) : Prop where
  declared : r.strategy = .declared
  based : ∃ base, r.base = some base ∧ base.isAbsolute = true ∧ base.Proper
  source_rooted : r.sourceRoot.toList.head? = some '/'
  test_rooted : r.testRoot.toList.head? = some '/'
  apart : Lexical.within fs.cwd r.sourceRoot r.testRoot = false
  apart' : Lexical.within fs.cwd r.testRoot r.sourceRoot = false

/-- An existing file in the source root that ends as source files do. -/
structure SourceFile (r : Resolver) (fs : FileSystem) (path : String) : Prop where
  existing : fs.isFile (r.onDisk path) = .ok true
  ends : Convention.endsWith path r.convention.sourceSuffix = true
  inside : Lexical.within fs.cwd (r.placeText path) r.sourceRoot = true

/-- Exactly those of some tests are found, in their order, whose texts cover a class. -/
structure Chosen (r : Resolver) (fs : FileSystem) (tests : List String) (className : String)
    (found : List String) : Prop where
  order : found.Sublist tests
  mem_iff : ∀ test, test ∈ found ↔ test ∈ tests ∧
    ∃ text, fs.readText (r.onDisk test) = .ok text ∧ CoversTag.Covers text className

/-- How the tests of the kind that is looked at end. -/
def listedSuffix (r : Resolver) : String :=
  r.convention.testSuffixOf r.testKind

namespace Separate

variable (separate : r.Separate fs)
include separate

/-- The roots lie apart whatever becomes of the files. -/
theorem of_change (fs' : FileSystem) : r.Separate fs' where
  declared := separate.declared
  based := separate.based
  source_rooted := separate.source_rooted
  test_rooted := separate.test_rooted
  apart :=
    (Lexical.within_of_slash _ _ separate.source_rooted separate.test_rooted).trans separate.apart
  apart' :=
    (Lexical.within_of_slash _ _ separate.test_rooted separate.source_rooted).trans separate.apart'

theorem parted : r.Parted fs where
  based := separate.based
  source_rooted := separate.source_rooted
  test_rooted := separate.test_rooted
  apart := separate.apart
  apart' := separate.apart'

theorem ofString_placeText (path : String) : Path.ofString (r.placeText path) = r.onDisk path :=
  Path.ofString_toString (separate.parted.proper_onDisk path)

end Separate

theorem nodup_testsBelow {base : Option Path} {directory suffix : String}
    (listed : testsBelow fs base directory suffix = .ok tests) : tests.Nodup := by
  by_cases place : ∃ location, fs.locate true (anchored base directory) =
      .ok (.entry location .directory)
  · obtain ⟨location, led⟩ := place
    rw [testsBelow_of_directory led] at listed
    cases listed
    refine List.Nodup.map_on (fun names mem names' mem' same => ?_)
      ((FileSystem.nodup_filesBelow fs location).filter _)
    have segments : ∀ names ∈ fs.filesBelow location, ∀ name ∈ names, Path.IsSegment name :=
      fun names below name inside =>
        (FileSystem.isSegment_of_mem_filesBelow below name inside).1
    have read := congrArg Path.segments (String.append_right_inj _ |>.1 same)
    rwa [Path.segments_intercalate_self (segments _ (List.mem_filter.1 mem).1),
      Path.segments_intercalate_self (segments _ (List.mem_filter.1 mem').1)] at read
  · cases tests with
    | nil => exact List.nodup_nil
    | cons test rest =>
      obtain ⟨location, names, led, -⟩ := exists_of_mem_testsBelow listed List.mem_cons_self
      exact absurd ⟨location, led⟩ place

theorem exists_testsBelow {base : Option Path} {directory suffix : String} {answer : Bool}
    (answered : fs.isDirectory (anchored base directory) = .ok answer) :
    ∃ tests, testsBelow fs base directory suffix = .ok tests := by
  cases listed : testsBelow fs base directory suffix with
  | ok tests => exact ⟨tests, rfl⟩
  | error failure =>
    have long := (testsBelow_eq_error_iff.1 listed).1
    rw [FileSystem.isDirectory, FileSystem.ask, FileSystem.stat, long] at answered
    cases answered

/-- The index that is read if nothing is remembered. -/
def indexNow (r : Resolver) (fs : FileSystem) : Except Failure CoverageIndex := do
  CoverageIndex.build fs r.base (← testsBelow fs r.base r.testRoot r.listedSuffix)

/-- The index is read when nothing is remembered yet. -/
theorem yields_index_first (read : r.indexNow fs = .ok index) :
    Resolving.Yields none (r.index fs) (.ok index) (some index) := by
  obtain ⟨tests, listed, built⟩ := of_bind_ok read
  have unread : Resolving.Yields none (get : Resolving Memory) (.ok none) none := rfl
  unfold Resolver.index
  refine unread.bind ?_
  refine Resolving.Yields.bind (Resolving.yields_lift listed none) ?_
  exact Resolving.Yields.bind (Resolving.yields_lift built none) rfl

theorem yields_index_again (r : Resolver) (fs : FileSystem) (index : CoverageIndex) :
    Resolving.Yields (some index) (r.index fs) (.ok index) (some index) :=
  rfl

/-- Where the index cannot be read nothing is remembered. -/
theorem yields_index_refused {failure : Failure} (refused : r.indexNow fs = .error failure) :
    Resolving.Yields none (r.index fs) (.error failure) none := by
  have unread : Resolving.Yields none (get : Resolving Memory) (.ok none) none := rfl
  unfold Resolver.index
  refine unread.bind ?_
  rcases of_bind_error refused with failed | ⟨tests, listed, failed⟩
  · exact Resolving.Yields.stop (Resolving.yields_lift failed none) _
  · refine Resolving.Yields.bind (Resolving.yields_lift listed none) ?_
    exact Resolving.Yields.stop (Resolving.yields_lift failed none) _

theorem exists_sourceClass {path : Path} (existing : fs.isFile path = .ok true) (suffix : String) :
    ∃ className, CoversTag.sourceClass fs path suffix = .ok (some className) := by
  obtain ⟨text, read⟩ := FileSystem.exists_readText existing
  refine ⟨CoversTag.declaredClass path suffix text, ?_⟩
  rw [CoversTag.sourceClass, existing, read]
  rfl

/-- A source file has the tests that the index lists under its class, if there is an index. -/
theorem yields_resolve (separate : r.Separate fs) (source : r.SourceFile fs path)
    (class_ : CoversTag.sourceClass fs (r.onDisk path) r.convention.sourceSuffix =
      .ok (some className))
    {outcome : Except Failure CoverageIndex} {after : Memory}
    (look : Resolving.Yields memory (r.index fs) outcome after) :
    Resolving.Yields memory (r.resolve fs [path])
      ((fun index => [(path, CoverageIndex.testsOf index className)]) <$> outcome) after := by
  have notDirectory := FileSystem.isDirectory_of_isFile source.existing
  have outside : Lexical.within fs.cwd (r.onDisk path).toString r.testRoot = false :=
    separate.parted.not_within_testRoot source.inside
  have inside : Lexical.within fs.cwd (r.onDisk path).toString r.sourceRoot = true := source.inside
  rw [← separate.ofString_placeText] at class_
  have tests : Resolving.Yields memory (r.testsOfSource fs (r.placeText path))
      ((fun index => CoverageIndex.testsOf index className) <$> outcome) after := by
    unfold testsOfSource
    rw [separate.declared]
    exact Resolving.Yields.bind (Resolving.yields_lift class_ memory) (look.map _)
  have own : Resolving.Yields memory (r.testsOf fs path)
      ((fun tests => [] ++ tests) <$> (fun index => CoverageIndex.testsOf index className) <$>
        outcome) after := by
    unfold testsOf
    refine Resolving.Yields.bind
      (Resolving.yields_lift (congrArg orFailure notDirectory) memory) ?_
    rw [if_neg Bool.false_ne_true, source.ends, if_neg (by decide), outside, inside, if_pos rfl]
    exact tests.map _
  rw [resolve_singleton]
  have found := own.map fun tests => [(path, tests)]
  rw [Functor.map_map, Functor.map_map] at found
  exact found

theorem chosen_testsOf
    (readable : ∀ test ∈ tests, ∃ text, fs.readText (r.onDisk test) = .ok text)
    (lists : index.testsOf className =
      tests.filter fun test =>
        className ∈ CoverageIndex.declaredBy (CoverageIndex.textOf fs r.base test)) :
    r.Chosen fs tests className (index.testsOf className) := by
  refine ⟨lists ▸ List.filter_sublist, fun test => ?_⟩
  rw [lists, List.mem_filter, decide_eq_true_iff]
  refine and_congr_right fun mem => ?_
  obtain ⟨text, read⟩ := readable test mem
  have content : CoverageIndex.textOf fs r.base test = text :=
    congrArg (fun outcome => outcome.toOption.getD "") read
  have covers : className ∈ CoverageIndex.declaredBy text ↔ CoversTag.Covers text className :=
    CoversTag.covers_iff.symm
  rw [content, covers]
  constructor
  · exact fun covers => ⟨text, read, covers⟩
  · rintro ⟨other, same, covers⟩
    rw [read] at same
    cases same
    exact covers

/-- A source file has exactly the tests whose texts cover its class, in the order in which they are
listed and each once, if the test root can be asked about and all tests of the kind are files. A
line of a comment that declares its class is never missed. The first look-up decides on the tests
and their texts: whatever files change and whatever paths are resolved afterwards, the tests of a
source file are chosen among the tests of that time by their texts of that time. -/
theorem declared_tests (separate : r.Separate fs)
    (answered : ∃ answer, fs.isDirectory (r.onDisk r.testRoot) = .ok answer)
    (readable : ∀ tests, testsBelow fs r.base r.testRoot r.listedSuffix = .ok tests →
      ∀ test ∈ tests, fs.isFile (r.onDisk test) = .ok true) :
    ∃ tests index, testsBelow fs r.base r.testRoot r.listedSuffix = .ok tests ∧ tests.Nodup ∧
      (∀ path, r.SourceFile fs path → ∃ className found,
        CoversTag.sourceClass fs (r.onDisk path) r.convention.sourceSuffix =
            .ok (some className) ∧
          Resolving.Yields none (r.resolve fs [path]) (.ok [(path, found)]) (some index) ∧
          r.Chosen fs tests className found) ∧
      (∀ className found, r.Chosen fs tests className found →
        (∀ c ∈ className.toList, Text.isBlank c = false) → ¬ [':', ':'] <:+: className.toList →
        className.toList.head? ≠ some '\\' →
        ∀ test ∈ tests, ∀ text line, fs.readText (r.onDisk test) = .ok text →
          CoversTag.DocLine className.toList line → CoversTag.HasLine text.toList line →
          test ∈ found) ∧
      ∀ (events : List Event) fs' memory, events.foldl r.after (fs, some index) = (fs', memory) →
        memory = some index ∧ ∀ path, r.SourceFile fs' path → ∃ className found,
          CoversTag.sourceClass fs' (r.onDisk path) r.convention.sourceSuffix =
              .ok (some className) ∧
            Resolving.Yields memory (r.resolve fs' [path]) (.ok [(path, found)]) memory ∧
            r.Chosen fs tests className found := by
  obtain ⟨answer, answered⟩ := answered
  obtain ⟨tests, listed⟩ : ∃ tests, testsBelow fs r.base r.testRoot r.listedSuffix = .ok tests :=
    exists_testsBelow answered
  have distinct := nodup_testsBelow listed
  have files := readable tests listed
  have texts : ∀ test ∈ tests, ∃ text, fs.readText (anchored r.base test) = .ok text :=
    fun test mem => FileSystem.exists_readText (files test mem)
  obtain ⟨index, built, lists⟩ := CoverageIndex.testsOf_build distinct texts
  have chosen (className : String) : r.Chosen fs tests className (index.testsOf className) :=
    chosen_testsOf texts (lists className)
  -- The same look-up serves at once and later, when the files and so the class may be others.
  have looked {fs' : FileSystem} {memory : Memory}
      (look : Resolving.Yields memory (r.index fs') (.ok index) (some index)) (path : String)
      (source : r.SourceFile fs' path) : ∃ className found,
        CoversTag.sourceClass fs' (r.onDisk path) r.convention.sourceSuffix =
            .ok (some className) ∧
          Resolving.Yields memory (r.resolve fs' [path]) (.ok [(path, found)]) (some index) ∧
          r.Chosen fs tests className found := by
    obtain ⟨className, class_⟩ := exists_sourceClass source.existing r.convention.sourceSuffix
    exact ⟨className, index.testsOf className, class_,
      yields_resolve (separate.of_change fs') source class_ look, chosen className⟩
  have read : r.indexNow fs = .ok index := by
    rw [indexNow, listed]
    exact built
  refine ⟨tests, index, listed, distinct, looked (yields_index_first read), ?_, ?_⟩
  · intro className found choice unbroken uncut bare test mem text line read declared has
    exact (choice.mem_iff test).2
      ⟨mem, text, read, CoversTag.covers_of_line unbroken uncut bare declared has⟩
  · intro events fs' memory ran
    have kept := memory_of_run r fs index events
    rw [ran] at kept
    obtain rfl : memory = some index := kept
    exact ⟨rfl, looked (yields_index_again r fs' index)⟩

theorem separate_declaring (fs : FileSystem) : SmallProject.declaring.Separate fs := by
  have empty : SmallProject.declaring.Separate .empty :=
    { declared := rfl
      based := ⟨Path.ofString "/p", rfl, by decide, Path.proper_ofString "/p"⟩
      source_rooted := by decide +kernel
      test_rooted := by decide +kernel
      apart := by decide +kernel
      apart' := by decide +kernel }
  exact empty.of_change fs

theorem listed_declarations :
    testsBelow SmallProject.declarations SmallProject.declaring.base
      SmallProject.declaring.testRoot SmallProject.declaring.listedSuffix =
        .ok ["/p/test/AFunctionalTest.php"] := by
  decide +kernel

theorem read_declaration : SmallProject.declarations.readText
    (SmallProject.declaring.onDisk "/p/test/AFunctionalTest.php") =
      .ok SmallProject.declaration := by
  decide +kernel

theorem declared_in_small_project :
    ∃ found index, Resolving.Yields none
        (SmallProject.declaring.resolve SmallProject.declarations ["src/A.php"])
        (.ok [("src/A.php", found)]) (some index) ∧ "/p/test/AFunctionalTest.php" ∈ found := by
  have files : ∀ test ∈ ["/p/test/AFunctionalTest.php"],
      SmallProject.declarations.isFile (SmallProject.declaring.onDisk test) =
        .ok true := by
    decide +kernel
  obtain ⟨tests, index, listed, -, looked, lines, -⟩ := declared_tests
    (separate_declaring SmallProject.declarations) ⟨true, by decide +kernel⟩
    fun tests listed => by
      rw [listed_declarations] at listed
      cases listed
      exact files
  rw [listed_declarations] at listed
  cases listed
  obtain ⟨className, found, class_, yields, chosen⟩ := looked "src/A.php"
    ⟨by decide +kernel, by decide +kernel, by decide +kernel⟩
  have named : CoversTag.sourceClass SmallProject.declarations
      (SmallProject.declaring.onDisk "src/A.php")
      SmallProject.declaring.convention.sourceSuffix = .ok (some "A") := by
    decide +kernel
  rw [named] at class_
  cases class_
  have line : CoversTag.HasLine SmallProject.declaration.toList
      (" * @covers \\".toList ++ "A".toList) :=
    ⟨"/**\n".toList, "\n * @covers \\A:::method\n */\n".toList, by decide +kernel,
      .inr (by decide), .inr (by decide)⟩
  exact ⟨found, index, yields, lines "A" found chosen (Text.unbroken_of_all (by decide)) (by decide)
    (by decide) _ List.mem_cons_self SmallProject.declaration _ read_declaration .ofClass line⟩

theorem nameOf_ne {length : Nat} {text : String} (short : text.toList.length < length) :
    SmallProject.nameOf length ≠ text := by
  rintro rfl
  rw [SmallProject.nameOf, String.toList_ofList, List.length_replicate] at short
  omega

theorem segments_nameOf {length : Nat} (long : 1 < length) :
    Path.segments (SmallProject.nameOf length) = [SmallProject.nameOf length] := by
  refine Path.segments_of_isSegment
    ⟨nameOf_ne (Nat.lt_of_succ_lt long), nameOf_ne long, fun slash => ?_⟩
  rw [SmallProject.nameOf, String.toList_ofList] at slash
  exact absurd (List.eq_of_mem_replicate slash) (by decide)

theorem byteLength_nameOf (length : Nat) :
    FileSystem.byteLength (SmallProject.nameOf length) = length := by
  rw [FileSystem.byteLength, SmallProject.nameOf, String.toList_ofList]
  induction length with
  | zero => rfl
  | succ length ih =>
    rw [List.replicate_succ', List.foldl_append, ih]
    rfl

/-- A link to a name that is too long cannot be followed. -/
theorem walk_farLink {name : String} {here : Location} (down : name ≠ "..")
    (short : ¬ FileSystem.nameLimit < FileSystem.byteLength name)
    (link : fs.node? (here ++ [name]) = some (.link (SmallProject.nameOf 256))) :
    fs.walk true FileSystem.linkLimit here [name] = .error .nameTooLong := by
  have long : FileSystem.nameLimit < FileSystem.byteLength (SmallProject.nameOf 256) := by
    rw [byteLength_nameOf]
    decide
  rw [FileSystem.linkLimit, FileSystem.walk_down down, if_neg short, link]
  dsimp only
  rw [if_neg (by decide), FileSystem.walkBehind, Path.ofString, segments_nameOf (by decide),
    List.append_nil, FileSystem.walk_down (nameOf_ne (by decide)), if_pos long]

/-- The link to the tests leads to a name that is too long. -/
theorem locate_farTests : SmallProject.farTests.locate true
    (SmallProject.declaring.onDisk SmallProject.declaring.testRoot) = .error .nameTooLong := by
  have place : SmallProject.declaring.onDisk SmallProject.declaring.testRoot =
      ⟨.root, ["p", "test"]⟩ := by decide +kernel
  have home : SmallProject.farTests.node? ([] ++ ["p"]) = some .directory := by rfl
  rw [place, FileSystem.locate, if_neg (by decide +kernel), if_neg (by decide +kernel),
    FileSystem.start, if_pos (by decide), FileSystem.walk_down (by decide), if_neg (by decide), home]
  exact walk_farLink (by decide) (by decide) rfl

/-- A line that declares a method of a class with a colon at its end is missed, and a test root
behind a name that is too long stops the look-up. -/
theorem declaration_missed :
    (SmallProject.declaring.Separate SmallProject.declarations ∧
      SmallProject.declaring.SourceFile SmallProject.declarations "src/A:.php" ∧
      CoversTag.sourceClass SmallProject.declarations
        (SmallProject.declaring.onDisk "src/A:.php") ".php" = .ok (some "A:") ∧
      testsBelow SmallProject.declarations SmallProject.declaring.base
        SmallProject.declaring.testRoot SmallProject.declaring.listedSuffix =
          .ok ["/p/test/AFunctionalTest.php"] ∧
      SmallProject.declarations.readText
          (SmallProject.declaring.onDisk "/p/test/AFunctionalTest.php") =
        .ok SmallProject.declaration ∧
      CoversTag.HasLine SmallProject.declaration.toList " * @covers \\A:::method".toList ∧
      ((SmallProject.declaring.resolve SmallProject.declarations ["src/A:.php"]).run.run none).1 =
        .ok [("src/A:.php", [])]) ∧
    SmallProject.declaring.Separate SmallProject.farTests ∧
      SmallProject.declaring.SourceFile SmallProject.farTests "src/A.php" ∧
      ((SmallProject.declaring.resolve SmallProject.farTests ["src/A.php"]).run.run none).1 =
        .error (.file .nameTooLong) := by
  have line : CoversTag.HasLine SmallProject.declaration.toList
      " * @covers \\A:::method".toList :=
    ⟨"/**\n * @covers \\A\n".toList, "\n */\n".toList, by decide +kernel, .inr (by decide),
      .inr (by decide)⟩
  have source : SmallProject.declaring.SourceFile SmallProject.farTests "src/A.php" :=
    ⟨by decide +kernel, by decide +kernel, by decide +kernel⟩
  obtain ⟨className, class_⟩ := exists_sourceClass source.existing
    SmallProject.declaring.convention.sourceSuffix
  have unlisted : testsBelow SmallProject.farTests SmallProject.declaring.base
      SmallProject.declaring.testRoot SmallProject.declaring.listedSuffix =
        .error (.file .nameTooLong) :=
    testsBelow_eq_error_iff.2 ⟨locate_farTests, rfl⟩
  have refused : SmallProject.declaring.indexNow SmallProject.farTests =
      .error (.file .nameTooLong) := by
    rw [indexNow, unlisted]
    rfl
  have stopped := yields_resolve (separate_declaring _) source class_
    (yields_index_refused refused)
  exact ⟨⟨separate_declaring _, ⟨by decide +kernel, by decide +kernel, by decide +kernel⟩,
    by decide +kernel, listed_declarations, read_declaration, line, by decide +kernel⟩,
    separate_declaring _, source, congrArg Prod.fst stopped⟩

end Resolver

end TestImpact
