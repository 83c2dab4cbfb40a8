import TestImpact.Proofs.Discovery.Listing

/-!
# One index for all source files

The first source file that is looked up has the index of all tests read, and everything that is
listed as a test is opened for it. So the index can be read exactly if every test that is listed can
(`exists_indexNow_iff`). A file can be read whatever its bytes are, as long as the system takes its
path (`exists_readText_of_inside`). A link to nothing is listed as well and cannot be read, and then
no source file has any tests.

What the look-up of a path gives depends on the memory only through the index that it leads to
(`lookUp`), and no look-up changes that (`Consults`). So the answers of a whole run are a plain
function of that index (`consults_resolve`). Main statement: `indexes_unless_unreadable`.
-/

namespace TestImpact

namespace CoverageIndex

variable {fs : FileSystem} {base : Option Path} {tests : List String}

theorem build_meets (fs : FileSystem) (base : Option Path) (tests : List String) :
    Meets (tests.flatMap fun test =>
      (problem? (orFailure (fs.readText (anchored base test)))).toList) (build fs base tests) := by
  refine Meets.foldlM (fun index test _ => ?_) []
  have read := Meets.of_problem? (orFailure (fs.readText (anchored base test)))
  exact read.map fun content => addFile index test content

/-- An index can be read exactly if all its tests can. -/
theorem exists_build_iff : (∃ index, build fs base tests = .ok index) ↔
    ∀ test ∈ tests, ∃ text, fs.readText (anchored base test) = .ok text := by
  rw [(build_meets fs base tests).ok_iff, List.flatMap_eq_nil_iff]
  refine forall₂_congr fun test _ => (Meets.of_problem? _).ok_iff.symm.trans ?_
  exact exists_congr fun text => orFailure_eq_ok_iff

theorem of_build_error {failure : Failure} (failed : build fs base tests = .error failure) :
    ∃ test ∈ tests, ∃ fault, fs.readText (anchored base test) = .error fault ∧
      failure = .file fault := by
  have first := (build_meets fs base tests).error_iff.1 failed
  obtain ⟨test, mem, spoilt⟩ := List.mem_flatMap.1 (List.mem_of_mem_head? first)
  exact ⟨test, mem, orFailure_eq_error_iff.1 (mem_problem?.1 spoilt)⟩

end CoverageIndex

namespace Resolver

open Resolving (Yields)

variable {r : Resolver} {fs : FileSystem} {path : String} {look : Except Failure CoverageIndex}
  {memory : Memory}

/-! ## Reading the index -/

/-- All tests of the kind can be listed, and each of them can be read. -/
def Readable (r : Resolver) (fs : FileSystem) : Prop :=
  ∃ tests, testsBelow fs r.base r.testRoot r.listedSuffix = .ok tests ∧
    ∀ test ∈ tests, ∃ text, fs.readText (r.onDisk test) = .ok text

/-- What keeps the index from being read: a test root that cannot be asked about, or a test that is
listed and cannot be read. -/
def Hinders (r : Resolver) (fs : FileSystem) (failure : Failure) : Prop :=
  fs.isDirectory (r.onDisk r.testRoot) = .error .nameTooLong ∧ failure = .file .nameTooLong ∨
    ∃ tests, testsBelow fs r.base r.testRoot r.listedSuffix = .ok tests ∧
      ∃ test ∈ tests, ∃ fault, fs.readText (r.onDisk test) = .error fault ∧ failure = .file fault

theorem exists_indexNow_iff : (∃ index, r.indexNow fs = .ok index) ↔ r.Readable fs := by
  constructor
  · rintro ⟨index, read⟩
    obtain ⟨tests, listed, built⟩ := of_bind_ok read
    exact ⟨tests, listed, CoverageIndex.exists_build_iff.1 ⟨index, built⟩⟩
  · rintro ⟨tests, listed, texts⟩
    obtain ⟨index, built⟩ := CoverageIndex.exists_build_iff.2 texts
    refine ⟨index, ?_⟩
    rw [indexNow, listed]
    exact built

theorem hinders_of_indexNow {failure : Failure} (refused : r.indexNow fs = .error failure) :
    r.Hinders fs failure := by
  rcases of_bind_error refused with failed | ⟨tests, listed, failed⟩
  · exact Or.inl (testsBelow_eq_error_iff_isDirectory.1 failed)
  · exact Or.inr ⟨tests, listed, CoverageIndex.of_build_error failed⟩

/-- A file below the test root can be read, whatever its bytes are, if the system takes its path. -/
theorem exists_readText_of_inside (named : r.testRoot ≠ "") {location : Location}
    (led : fs.locate true (r.onDisk r.testRoot) = .ok (.entry location .directory))
    {names : List String} {content : List UInt8} {executable : Bool}
    (inside : fs.Inside location names (.file content executable))
    (taken : FileSystem.Accepts (r.onDisk (fileText r.testRoot names)) names) :
    ∃ text, fs.readText (r.onDisk (fileText r.testRoot names)) = .ok text := by
  refine FileSystem.exists_readText (FileSystem.isFile_eq_true_iff.2 ?_)
  exact ⟨_, content, executable,
    (locate_behind_iff named led inside fun _ same => nomatch same).2 taken⟩

/-! ## Consulting the memory -/

/-- The index that a memory leads to. -/
def lookUp (r : Resolver) (fs : FileSystem) : Memory → Except Failure CoverageIndex
  | some index => .ok index
  | none => r.indexNow fs

variable {α β : Type}

/-- From every memory that leads to the index the action comes to the outcome, and the memory that
it leaves leads to the same. -/
def Consults (r : Resolver) (fs : FileSystem) (look : Except Failure CoverageIndex)
    (action : Resolving α) (outcome : Except Failure α) : Prop :=
  ∀ memory, r.lookUp fs memory = look →
    ∃ after, Yields memory action outcome after ∧ r.lookUp fs after = look

theorem consults_of_gives {action : Resolving α} {outcome : Except Failure α}
    (gives : action.Gives outcome) : r.Consults fs look action outcome :=
  fun memory same => ⟨memory, gives memory, same⟩

theorem Consults.bind {action : Resolving α} {outcome : Except Failure α}
    {next : α → Resolving β} {later : α → Except Failure β}
    (first : r.Consults fs look action outcome) (rest : ∀ a, r.Consults fs look (next a) (later a)) :
    r.Consults fs look (action >>= next) (outcome >>= later) := by
  intro memory same
  obtain ⟨between, ran, kept⟩ := first memory same
  cases outcome with
  | error failure => exact ⟨between, ran.stop next, kept⟩
  | ok a =>
    obtain ⟨after, ended, kept⟩ := rest a between kept
    exact ⟨after, ran.bind ended, kept⟩

theorem consults_foldlM {step : β → α → Resolving β} {plain : β → α → Except Failure β}
    (each : ∀ b a, r.Consults fs look (step b a) (plain b a)) (start : β) (items : List α) :
    r.Consults fs look (items.foldlM step start) (items.foldlM plain start) := by
  induction items generalizing start with
  | nil => exact consults_of_gives (Resolving.gives_pure start)
  | cons item rest ih =>
    rw [List.foldlM_cons, List.foldlM_cons]
    exact (each start item).bind ih

/-- The index is the one that the memory leads to. -/
theorem consults_index (r : Resolver) (fs : FileSystem) (look : Except Failure CoverageIndex) :
    r.Consults fs look (r.index fs) look := by
  rintro (_ | index) rfl
  · cases read : r.indexNow fs with
    | ok index =>
      have same : r.lookUp fs none = .ok index := read
      exact ⟨some index, same ▸ yields_index_first read, same.symm⟩
    | error failure =>
      have same : r.lookUp fs none = .error failure := read
      exact ⟨none, same ▸ yields_index_refused read, rfl⟩
  · exact ⟨some index, yields_index_again r fs index, rfl⟩

/-- The tests of a source file, if the memory leads to `look`. -/
def declaredAt (r : Resolver) (fs : FileSystem) (look : Except Failure CoverageIndex)
    (place : String) : Except Failure (List String) := do
  match ← CoversTag.sourceClass fs (Path.ofString place) r.convention.sourceSuffix with
  | none => pure []
  | some className => pure ((← look).testsOf className)

theorem consults_testsOfSource (declared : r.strategy = .declared) (place : String) :
    r.Consults fs look (r.testsOfSource fs place) (r.declaredAt fs look place) := by
  unfold testsOfSource declaredAt
  rw [declared]
  refine (consults_of_gives (Resolving.gives_lift _)).bind fun found => ?_
  cases found with
  | none => exact consults_of_gives (Resolving.gives_pure [])
  | some className =>
    exact (consults_index r fs look).bind fun _ => consults_of_gives (Resolving.gives_pure _)

theorem consults_testsOf (declared : r.strategy = .declared) (path : String) :
    r.Consults fs look (r.testsOf fs path) (r.dispatch fs (r.declaredAt fs look) path) := by
  have pure_ {γ : Type} (c : γ) : r.Consults fs look (pure c) (pure c) :=
    consults_of_gives (Resolving.gives_pure c)
  unfold testsOf dispatch ownTest placeText
  refine (consults_of_gives (Resolving.gives_lift _)).bind fun directory => ?_
  split
  · exact consults_of_gives (Resolving.gives_lift _)
  · split
    · exact pure_ []
    · dsimp only
      by_cases inside : Lexical.within fs.cwd (r.onDisk path).toString r.sourceRoot = true
      · rw [if_pos inside, if_pos inside]
        exact (consults_testsOfSource declared _).bind fun _ => pure_ _
      · rw [if_neg inside, if_neg inside]
        exact (pure_ []).bind fun _ => pure_ _

/-- A whole run of look-ups is a plain function of the index that the memory leads to. -/
theorem consults_resolve (declared : r.strategy = .declared) (paths : List String) :
    r.Consults fs look (r.resolve fs paths)
      (Affected.collect (r.dispatch fs (r.declaredAt fs look)) paths) :=
  consults_foldlM (fun _ path => (consults_testsOf declared path).bind fun _ =>
    consults_of_gives (Resolving.gives_pure _)) [] paths

/-! ## What a source file needs -/

theorem declaredAt_of_sourceFile (based : ∀ base, r.base = some base → base.Proper)
    (source : r.SourceFile fs path) (look : Except Failure CoverageIndex) :
    ∃ className, CoversTag.sourceClass fs (r.onDisk path) r.convention.sourceSuffix =
        .ok (some className) ∧
      r.declaredAt fs look (r.placeText path) = (fun index => index.testsOf className) <$> look := by
  obtain ⟨className, class_⟩ := exists_sourceClass source.existing r.convention.sourceSuffix
  refine ⟨className, class_, ?_⟩
  rw [declaredAt, placeText, Path.ofString_toString (proper_onDisk based path), class_]
  cases look <;> rfl

theorem declaredAt_of_not_file (based : ∀ base, r.base = some base → base.Proper)
    (asked : fs.isFile (r.onDisk path) = .ok false) (look : Except Failure CoverageIndex) :
    r.declaredAt fs look (r.placeText path) = .ok [] := by
  rw [declaredAt, placeText, Path.ofString_toString (proper_onDisk based path),
    CoversTag.sourceClass, asked]
  rfl

/-- The look-up of a path fails where the path is too long, and for a source file where there is no
index. -/
theorem dispatch_declaredAt_eq_error_iff (based : ∀ base, r.base = some base → base.Proper)
    {failure : Failure} :
    r.dispatch fs (r.declaredAt fs look) path = .error failure ↔
      r.SourceFile fs path ∧ look = .error failure ∨
        r.TooLong fs path ∧ failure = .file .nameTooLong := by
  rw [dispatch_eq_error_iff]
  refine or_congr_left ?_
  constructor
  · rintro ⟨asked, ends, inside, failed⟩
    cases existing : fs.isFile (r.onDisk path) with
    | error fault =>
      have long := (FileSystem.ask_eq_error_iff.1 existing).1
      have refused : fs.isDirectory (r.onDisk path) = .error .nameTooLong :=
        FileSystem.ask_eq_error_iff.2 ⟨long, rfl⟩
      rw [refused] at asked
      cases asked
    | ok file =>
      cases file with
      | true =>
        have source : r.SourceFile fs path := ⟨existing, ends, inside⟩
        obtain ⟨className, -, given⟩ := declaredAt_of_sourceFile based source look
        exact ⟨source, of_map_error (given ▸ failed)⟩
      | false =>
        rw [declaredAt_of_not_file based existing] at failed
        cases failed
  · rintro ⟨source, rfl⟩
    obtain ⟨className, -, given⟩ := declaredAt_of_sourceFile based source (.error failure)
    exact ⟨FileSystem.isDirectory_of_isFile source.existing, source.ends, source.inside, given⟩

theorem exists_dispatch_declaredAt_iff (based : ∀ base, r.base = some base → base.Proper) :
    (∃ tests, r.dispatch fs (r.declaredAt fs look) path = .ok tests) ↔
      ¬ r.TooLong fs path ∧ (r.SourceFile fs path → ∃ index, look = .ok index) := by
  simp only [exists_ok_iff, ne_eq, dispatch_declaredAt_eq_error_iff based]
  constructor
  · intro clean
    exact ⟨fun long => clean _ (Or.inr ⟨long, rfl⟩),
      fun source failure refused => clean failure (Or.inl ⟨source, refused⟩)⟩
  · rintro ⟨short, served⟩ failure (⟨source, refused⟩ | ⟨long, -⟩)
    · exact served source failure refused
    · exact short long

/-- A source file has the tests that the index lists under its class. -/
theorem dispatch_of_sourceFile (based : ∀ base, r.base = some base → base.Proper)
    (source : r.SourceFile fs path) {tests : List String}
    (found : r.dispatch fs (r.declaredAt fs look) path = .ok tests) :
    ∃ className index, CoversTag.sourceClass fs (r.onDisk path) r.convention.sourceSuffix =
        .ok (some className) ∧
      look = .ok index ∧ tests = r.ownTest fs path ++ index.testsOf className := by
  obtain ⟨className, class_, given⟩ := declaredAt_of_sourceFile based source look
  rw [dispatch_of_source (FileSystem.isDirectory_of_isFile source.existing) source.ends
    source.inside, given] at found
  obtain ⟨others, listed, rfl⟩ := of_map_ok found
  obtain ⟨index, looked, rfl⟩ := of_map_ok listed
  exact ⟨className, index, class_, looked, rfl⟩

/-- An index that was read lists under a class exactly the tests whose texts cover it. -/
theorem chosen_of_indexNow {index : CoverageIndex} (read : r.indexNow fs = .ok index)
    (className : String) :
    ∃ tests, testsBelow fs r.base r.testRoot r.listedSuffix = .ok tests ∧
      r.Chosen fs tests className (index.testsOf className) := by
  obtain ⟨tests, listed, built⟩ := of_bind_ok read
  have texts := CoverageIndex.exists_build_iff.1 ⟨index, built⟩
  obtain ⟨other, built', lists⟩ := CoverageIndex.testsOf_build (nodup_testsBelow listed) texts
  obtain rfl := Except.ok.inj (built.symm.trans built')
  exact ⟨tests, listed, chosen_testsOf texts (lists className)⟩

/-! ## Whole look-ups -/

/-- Looking up changed paths by declaration gives each of them its tests, unless one of them is too
long or a source file needs the index and not every listed test can be read. One test that cannot be
read takes the tests of all source files away, while a file below the test root can be read whatever
its bytes are, if the system takes its path. Where the look-up succeeds a source file has exactly the
tests that cover its class, among all that are listed. -/
theorem indexes_unless_unreadable (declared : r.strategy = .declared)
    (based : ∀ base, r.base = some base → base.Proper) (named : r.testRoot ≠ "")
    (fs : FileSystem) (memory : Memory) (paths : List String) :
    (∃ outcome after, Yields memory (r.resolve fs paths) outcome after ∧
      ((∃ affected, outcome = .ok affected) ↔ (∀ path ∈ paths, ¬ r.TooLong fs path) ∧
        (memory = none → (∃ path ∈ paths, r.SourceFile fs path) → r.Readable fs)) ∧
      (∀ failure, outcome = .error failure →
        (∃ path ∈ paths, r.TooLong fs path) ∧ failure = .file .nameTooLong ∨
          memory = none ∧ r.Hinders fs failure) ∧
      ∀ affected, outcome = .ok affected → affected.map Prod.fst = paths.eraseDups ∧
        ∀ entry ∈ affected, r.SourceFile fs entry.1 → ∃ className found,
          CoversTag.sourceClass fs (r.onDisk entry.1) r.convention.sourceSuffix =
              .ok (some className) ∧
            entry.2 = r.ownTest fs entry.1 ++ found ∧
            (∀ index, memory = some index → found = index.testsOf className) ∧
            (memory = none → ∃ tests,
              testsBelow fs r.base r.testRoot r.listedSuffix = .ok tests ∧
                r.Chosen fs tests className found)) ∧
    ∀ location, fs.locate true (r.onDisk r.testRoot) = .ok (.entry location .directory) →
      ∀ names content executable, fs.Inside location names (.file content executable) →
        FileSystem.Accepts (r.onDisk (fileText r.testRoot names)) names →
        ∃ text, fs.readText (r.onDisk (fileText r.testRoot names)) = .ok text := by
  refine ⟨?_, fun location led names content executable inside taken =>
    exists_readText_of_inside named led inside taken⟩
  obtain ⟨after, yields, -⟩ := consults_resolve declared paths memory rfl
  refine ⟨_, after, yields, ?_, ?_, ?_⟩
  · have served : (∃ index, r.lookUp fs memory = .ok index) ↔ memory = none → r.Readable fs := by
      cases memory with
      | none => exact exists_indexNow_iff.trans ⟨fun read _ => read, fun read => read rfl⟩
      | some index => exact iff_of_true ⟨index, rfl⟩ fun first => nomatch first
    simp only [Affected.exists_collect_iff, exists_dispatch_declaredAt_iff based, served]
    constructor
    · intro each
      exact ⟨fun path mem => (each path mem).1,
        fun first ⟨path, mem, source⟩ => (each path mem).2 source first⟩
    · rintro ⟨short, read⟩ path mem
      exact ⟨short path mem, fun source first => read first ⟨path, mem, source⟩⟩
  · intro failure failed
    obtain ⟨path, mem, spoilt⟩ := Affected.exists_of_collect_error failed
    rcases (dispatch_declaredAt_eq_error_iff based).1 spoilt with ⟨-, refused⟩ | ⟨long, rfl⟩
    · cases memory with
      | some index => cases refused
      | none => exact Or.inr ⟨rfl, hinders_of_indexNow refused⟩
    · exact Or.inl ⟨⟨path, mem, long⟩, rfl⟩
  · intro affected resolved
    have records := Affected.records_collect resolved
    refine ⟨records.keys, fun entry listed source => ?_⟩
    obtain ⟨className, index, class_, found, whole⟩ :=
      dispatch_of_sourceFile based source (records.own entry listed)
    refine ⟨className, index.testsOf className, class_, whole, ?_, ?_⟩
    · rintro other rfl
      cases found
      rfl
    · rintro rfl
      exact chosen_of_indexNow found className

/-- Beside a link to nothing the look-up of a source file fails, though a test that covers its class
can be read. -/
theorem lost_beside_dangling_link :
    (∃ text, SmallProject.dangling.readText
        (SmallProject.declaring.onDisk "/p/test/AFunctionalTest.php") = .ok text ∧
      "A" ∈ CoverageIndex.declaredBy text) ∧
    ∃ failure after, Yields none
      (SmallProject.declaring.resolve SmallProject.dangling ["src/A.php"]) (.error failure) after := by
  have read : SmallProject.dangling.readText
      (SmallProject.declaring.onDisk "/p/test/AFunctionalTest.php") =
        .ok SmallProject.declaration := by
    decide +kernel
  have source : SmallProject.declaring.SourceFile SmallProject.dangling "src/A.php" :=
    ⟨by decide +kernel, by decide +kernel, by decide +kernel⟩
  refine ⟨⟨_, read, by decide +kernel⟩, ?_⟩
  obtain ⟨⟨outcome, after, yields, succeeds, -⟩, -⟩ :=
    indexes_unless_unreadable (r := SmallProject.declaring) rfl
      (fun base given => Option.some.inj given ▸ Path.proper_ofString "/p") (by decide)
      SmallProject.dangling none ["src/A.php"]
  cases outcome with
  | error failure => exact ⟨failure, after, yields⟩
  | ok affected =>
    obtain ⟨tests, listed, texts⟩ := (succeeds.1 ⟨affected, rfl⟩).2 rfl ⟨_, by simp, source⟩
    have led : SmallProject.dangling.locate true
        (CoverageIndex.anchored SmallProject.declaring.base SmallProject.declaring.testRoot) =
          .ok (.entry ["p", "test"] .directory) := by
      decide +kernel
    have link : SmallProject.dangling.Listed ["p", "test"] SmallProject.declaring.listedSuffix
        ["BFunctionalTest.php"] (.link "gone") :=
      ⟨.entry rfl, by decide +kernel, by decide +kernel⟩
    obtain ⟨text, unbroken⟩ := texts _ ((mem_testsBelow_iff led listed _).2 ⟨_, _, link, rfl⟩)
    have broken : SmallProject.dangling.readText (SmallProject.declaring.onDisk
        (fileText SmallProject.declaring.testRoot ["BFunctionalTest.php"])) = .error .missing := by
      decide +kernel
    rw [broken] at unbroken
    cases unbroken

end Resolver

end TestImpact
