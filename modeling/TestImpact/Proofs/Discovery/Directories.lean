import TestImpact.Proofs.Discovery.Places

/-!
# Directories and what lies below them

The tests of a directory come from a listing and those of a file from its name. Both are read as
names without `..` (`namesOf`): a test of a path in the test root is the path itself or lies below
it (`Mirrored.below_of_test`), and a test of a path in the source root lies where the path does, in
the test root (`Mirrored.reflects_of_test`). An enclosing directory lists whatever is there
(`Mirrored.exists_below_directory`, `Parted.exists_below_mirrored`), but writes it after its own
spelling, and two slashes in front of a spelling make another identity of the same place
(`Parted.identity_eq_iff`). Main statement: `directories_cover`.
-/

namespace TestImpact

theorem Resolving.Gives.unique {α : Type} {action : Resolving α} {left right : Except Failure α}
    (first : action.Gives left) (second : action.Gives right) : left = right :=
  (Prod.mk.inj ((first none).symm.trans (second none))).1

namespace Resolver

variable {r : Resolver} {fs : FileSystem} {path directory test : String} {tests : List String}

/-- Resolving gives the test for one of the paths. -/
def Selects (r : Resolver) (fs : FileSystem) (paths : List String) (test : String) : Prop :=
  ∃ affected, (r.resolve fs paths).Gives (.ok affected) ∧ ∃ entry ∈ affected, test ∈ entry.2

theorem exists_testsAt_of_selects (structural : r.strategy = .structural) {paths : List String}
    (selects : r.Selects fs paths test) :
    ∃ path ∈ paths, ∃ tests, r.testsAt fs path = .ok tests ∧ test ∈ tests := by
  obtain ⟨affected, gives, entry, listed, mem⟩ := selects
  have records := Affected.records_collect ((gives_resolve structural fs paths).unique gives)
  have key : entry.1 ∈ paths.eraseDups := by
    rw [← records.keys]
    exact List.mem_map.2 ⟨entry, listed, rfl⟩
  exact ⟨entry.1, List.mem_eraseDups.1 key, entry.2, records.own entry listed, mem⟩

/-- A path alone is resolved to its tests. -/
theorem gives_resolve_singleton_iff (structural : r.strategy = .structural) :
    (r.resolve fs [path]).Gives (.ok [(path, tests)]) ↔ r.testsAt fs path = .ok tests := by
  have gives := gives_resolve_singleton (gives_testsOf structural fs path)
  constructor
  · intro given
    obtain ⟨others, found, single⟩ := of_map_ok (gives.unique given)
    cases single
    exact found
  · intro found
    rwa [found] at gives

theorem selects_of_testsAt (structural : r.strategy = .structural)
    (found : r.testsAt fs path = .ok tests) (mem : test ∈ tests) : r.Selects fs [path] test :=
  ⟨[(path, tests)], (gives_resolve_singleton_iff structural).2 found, (path, tests),
    List.mem_singleton.2 rfl, mem⟩

theorem selects_ownTest (structural : r.strategy = .structural)
    (asked : fs.isDirectory (r.onDisk path) = .ok false)
    (ends : Convention.endsWith path r.convention.sourceSuffix = true)
    (outside : Lexical.within fs.cwd (r.placeText path) r.sourceRoot = false)
    (mem : test ∈ r.ownTest fs path) : r.Selects fs [path] test :=
  selects_of_testsAt structural (testsAt_of_not_source asked ends outside) mem

/-- Whoever has tests could be asked whether it is a directory. -/
theorem isDirectory_of_testsAt (found : r.testsAt fs path = .ok tests) :
    fs.isDirectory (r.onDisk path) = .ok true ∨ fs.isDirectory (r.onDisk path) = .ok false := by
  cases asked : fs.isDirectory (r.onDisk path) with
  | error fault =>
    rw [testsAt_of_fault asked] at found
    cases found
  | ok directory => cases directory <;> simp

/-! ## Listings -/

theorem testsBelow_of_directory {base : Option Path} {suffix : String} {location : Location}
    (led : fs.locate true (CoverageIndex.anchored base directory) =
      .ok (.entry location .directory)) :
    testsBelow fs base directory suffix =
      .ok (((fs.filesBelow location).filter fun names =>
        Convention.endsWith (names.getLastD "") suffix).map (fileText directory)) := by
  rw [testsBelow, led]
  rfl

theorem exists_mem_testsBelow {base : Option Path} {suffix : String} {location names : Location}
    (led : fs.locate true (CoverageIndex.anchored base directory) =
      .ok (.entry location .directory))
    (below : names ∈ fs.filesBelow location)
    (ends : Convention.endsWith (names.getLastD "") suffix = true) :
    ∃ tests, testsBelow fs base directory suffix = .ok tests ∧ fileText directory names ∈ tests :=
  ⟨_, testsBelow_of_directory led, List.mem_map.2 ⟨names, List.mem_filter.2 ⟨below, ends⟩, rfl⟩⟩

theorem exists_of_mem_testsBelow {base : Option Path} {suffix : String}
    (found : testsBelow fs base directory suffix = .ok tests) (mem : test ∈ tests) :
    ∃ location names, fs.locate true (CoverageIndex.anchored base directory) =
        .ok (.entry location .directory) ∧
      names ∈ fs.filesBelow location ∧ Convention.endsWith (names.getLastD "") suffix = true ∧
      test = fileText directory names := by
  cases led : fs.locate true (CoverageIndex.anchored base directory) with
  | error fault =>
    rw [testsBelow, led] at found
    dsimp only at found
    split at found <;> cases found
    cases mem
  | ok target =>
    by_cases place : ∃ location, target = .entry location .directory
    · obtain ⟨location, rfl⟩ := place
      rw [testsBelow_of_directory led] at found
      cases found
      obtain ⟨names, listed, rfl⟩ := List.mem_map.1 mem
      obtain ⟨below, ends⟩ := List.mem_filter.1 listed
      exact ⟨location, names, rfl, below, ends, rfl⟩
    · have nothing : testsBelow fs base directory suffix = .ok [] := by
        unfold testsBelow
        dsimp only
        rw [led]
        split
        next same => exact absurd ⟨_, Except.ok.inj same⟩ place
        next same => cases same
        next => rfl
      rw [nothing] at found
      cases found
      cases mem

/-- What is listed below a directory has a name, and none of its names is special. -/
theorem segments_of_mem_filesBelow {location names : Location} (linkless : fs.Linkless)
    (place : fs.node? location = some .directory) (below : names ∈ fs.filesBelow location) :
    names ≠ [] ∧ (∀ name ∈ names, Path.IsSegment name) ∧ Lexical.parentSegment ∉ names := by
  obtain ⟨content, executable, found⟩ := (FileSystem.mem_filesBelow_iff_file linkless).1 below
  have segments := FileSystem.isSegment_of_mem_filesBelow below
  exact ⟨FileSystem.ne_nil_of_file_below place found, fun name mem => (segments name mem).1,
    fun up => (segments _ up).2 rfl⟩

theorem getLastD_append {names : List String} (above : List String) (nonempty : names ≠ []) :
    (above ++ names).getLastD "" = names.getLastD "" := by
  rw [List.getLastD_eq_getLast?, List.getLast?_append_of_ne_nil _ nonempty,
    List.getLastD_eq_getLast?]

/-! ## Places -/

/-- Tests are found by place, the two roots are absolute and lie apart, and no link leads from one
place to another. -/
structure Mirrored (r : Resolver) (fs : FileSystem) : Prop where
  structural : r.strategy = .structural
  plain : r.convention.Plain
  based : ∃ base, r.base = some base ∧ base.isAbsolute = true ∧ base.Proper
  source_rooted : r.sourceRoot.toList.head? = some '/'
  test_rooted : r.testRoot.toList.head? = some '/'
  apart : Lexical.within fs.cwd r.sourceRoot r.testRoot = false
  apart' : Lexical.within fs.cwd r.testRoot r.sourceRoot = false
  linkless : fs.Linkless

/-- An existing directory in one of the two roots and a path below it. In the source root the two
are one place only if the path leads to the directory. -/
structure Encloses (r : Resolver) (fs : FileSystem) (directory path : String) : Prop where
  legible : r.Legible directory
  legible' : r.Legible path
  existing : fs.isDirectory (r.onDisk directory) = .ok true
  rooted : Lexical.within fs.cwd (r.placeText directory) r.sourceRoot = true ∨
    Lexical.within fs.cwd (r.placeText directory) r.testRoot = true
  below : Lexical.within fs.cwd (r.placeText path) (r.placeText directory) = true
  same : Lexical.within fs.cwd (r.placeText directory) r.sourceRoot = true →
    Lexical.within fs.cwd (r.placeText directory) (r.placeText path) = true →
      fs.isDirectory (r.onDisk path) = .ok true

/-! ## Directories that are moved -/

namespace Parted

variable (parted : r.Parted fs) {moved suffix : String} {rest names : List String}
include parted

/-- For a directory in the source root its place in the test root is listed. -/
theorem testsAt_of_sourceDirectory
    (joined : Lexical.names fs.cwd (r.placeText directory) =
      Lexical.names fs.cwd r.sourceRoot ++ rest)
    (existing : fs.isDirectory (r.onDisk directory) = .ok true) :
    ∃ moved, Lexical.transplant? fs.cwd (r.placeText directory) r.sourceRoot r.testRoot =
        some moved ∧
      Path.ofString moved = r.mirrorPath rest ∧ (∃ c ∈ moved.toList, c ≠ '/') ∧
      Lexical.parentSegment ∉ rest ∧
      r.testsAt fs directory = testsBelow fs none moved r.convention.testSuffix := by
  have down : Lexical.parentSegment ∉ rest := fun up =>
    Lexical.parentSegment_notMem_names fs.cwd (parted.head?_place directory)
      (joined ▸ List.mem_append_right _ up)
  obtain ⟨moved, transplanted, read, some_char⟩ := parted.exists_transplanted joined down
  have inside := parted.within_place_iff.2 ⟨rest, joined.symm⟩
  refine ⟨moved, transplanted, read, some_char, down, ?_⟩
  rw [testsAt_of_directory existing, testsOfDirectory,
    if_neg (by simp [parted.not_within_testRoot inside]), transplanted]

/-- What is listed below a place in the test root lies there. -/
theorem of_mem_testsBelow_moved (linkless : fs.Linkless)
    (read : Path.ofString moved = r.mirrorPath rest) (some_char : ∃ c ∈ moved.toList, c ≠ '/')
    (found : testsBelow fs none moved suffix = .ok tests) (mem : test ∈ tests) :
    ∃ names, r.onDisk test = r.mirrorPath (rest ++ names) ∧ names ≠ [] ∧
      Lexical.parentSegment ∉ names ∧ Convention.endsWith (names.getLastD "") suffix = true := by
  obtain ⟨location, names, led, below, ends, rfl⟩ := exists_of_mem_testsBelow found mem
  have absolute : (Path.ofString moved).isAbsolute = true := by
    rw [read]
    exact parted.isAbsolute_mirrorPath rest
  have place := (FileSystem.entry_of_locate linkless absolute led).2
  obtain ⟨nonempty, segments, down⟩ := segments_of_mem_filesBelow linkless place below
  exact ⟨names, parted.onDisk_fileText_mirrored read some_char segments, nonempty, down, ends⟩

/-- A file that lies below a place in the test root is listed there. -/
theorem exists_mem_testsBelow_moved (linkless : fs.Linkless)
    (read : Path.ofString moved = r.mirrorPath rest) (some_char : ∃ c ∈ moved.toList, c ≠ '/')
    (nonempty : names ≠ []) (down : Lexical.parentSegment ∉ names)
    (ends : Convention.endsWith (names.getLastD "") suffix = true)
    {location : Location} {content : List UInt8} {executable : Bool}
    (led : fs.locate true (r.mirrorPath (rest ++ names)) =
      .ok (.entry location (.file content executable))) :
    ∃ tests test, testsBelow fs none moved suffix = .ok tests ∧ test ∈ tests ∧
      r.onDisk test = r.mirrorPath (rest ++ names) := by
  obtain ⟨place, file⟩ := FileSystem.entry_of_locate linkless (parted.isAbsolute_mirrorPath _) led
  have split : r.mirrorPath (rest ++ names) =
      ⟨(Path.ofString r.testRoot).anchor, ((Path.ofString r.testRoot).parts ++ rest) ++ names⟩ := by
    rw [mirrorPath, List.append_assoc]
  rw [split] at led place
  have led_moved : fs.locate true (CoverageIndex.anchored none moved) =
      .ok (.entry (Lexical.collapse true ((Path.ofString r.testRoot).parts ++ rest))
        .directory) := by
    show fs.locate true (Path.ofString moved) = _
    rw [read]
    exact FileSystem.locate_front linkless parted.anchor_testRoot nonempty led
  have absolute : (Path.ofString moved).isAbsolute = true := by
    rw [read]
    exact parted.isAbsolute_mirrorPath rest
  have place_moved := (FileSystem.entry_of_locate linkless absolute led_moved).2
  have below : names ∈
      fs.filesBelow (Lexical.collapse true ((Path.ofString r.testRoot).parts ++ rest)) := by
    refine (FileSystem.mem_filesBelow_iff_file linkless).2 ⟨content, executable, ?_⟩
    rw [← Lexical.collapse_append true _ down, ← place]
    exact file
  obtain ⟨-, segments, -⟩ := segments_of_mem_filesBelow linkless place_moved below
  obtain ⟨tests, found, mem⟩ := exists_mem_testsBelow led_moved below ends
  exact ⟨tests, fileText moved names, found, mem,
    parted.onDisk_fileText_mirrored read some_char segments⟩

/-- A directory in the source root has each test below its place in the test root. -/
theorem exists_below_mirrored (linkless : fs.Linkless)
    (joined : Lexical.names fs.cwd (r.placeText directory) =
      Lexical.names fs.cwd r.sourceRoot ++ rest)
    (existing : fs.isDirectory (r.onDisk directory) = .ok true)
    (nonempty : names ≠ []) (down : Lexical.parentSegment ∉ names)
    (ends : Convention.endsWith (names.getLastD "") r.convention.testSuffix = true)
    {location : Location} {content : List UInt8} {executable : Bool}
    (led : fs.locate true (r.mirrorPath (rest ++ names)) =
      .ok (.entry location (.file content executable))) :
    ∃ tests test, r.testsAt fs directory = .ok tests ∧ test ∈ tests ∧
      r.onDisk test = r.mirrorPath (rest ++ names) := by
  obtain ⟨moved, -, read, some_char, -, listed⟩ :=
    parted.testsAt_of_sourceDirectory joined existing
  obtain ⟨tests, test, found, mem, place⟩ :=
    parted.exists_mem_testsBelow_moved linkless read some_char nonempty down ends led
  exact ⟨tests, test, listed.trans found, mem, place⟩

end Parted

namespace Mirrored

variable (mirrored : r.Mirrored fs)
include mirrored

theorem parted : r.Parted fs where
  based := mirrored.based
  source_rooted := mirrored.source_rooted
  test_rooted := mirrored.test_rooted
  apart := mirrored.apart
  apart' := mirrored.apart'

/-! ## Directories of tests -/

theorem namesOf_ne_nil (inside : Lexical.names fs.cwd r.testRoot <+: r.namesOf path) :
    r.namesOf path ≠ [] := fun top =>
  mirrored.parted.testRoot_names (List.prefix_nil.1 (top ▸ inside))

theorem testsAt_of_testDirectory (legible : r.Legible directory)
    (inside : Lexical.names fs.cwd r.testRoot <+: r.namesOf directory)
    (existing : fs.isDirectory (r.onDisk directory) = .ok true) :
    r.testsAt fs directory = testsBelow fs r.base directory r.convention.testSuffix := by
  rw [testsAt_of_directory existing, testsOfDirectory,
    if_pos ((mirrored.parted.within_iff legible).2 inside)]

/-- The tests of a directory in the test root lie below it. -/
theorem below_of_directory (legible : r.Legible path)
    (inside : Lexical.names fs.cwd r.testRoot <+: r.namesOf path)
    (existing : fs.isDirectory (r.onDisk path) = .ok true)
    (found : r.testsAt fs path = .ok tests) (mem : test ∈ tests) :
    ∃ names, (r.onDisk test).anchor = (r.onDisk path).anchor ∧
      r.namesOf test = r.namesOf path ++ names ∧
      r.convention.testSuffix.toList <:+ ((r.namesOf test).getLastD "").toList := by
  rw [mirrored.testsAt_of_testDirectory legible inside existing] at found
  obtain ⟨location, names, led, below, ends, rfl⟩ := exists_of_mem_testsBelow found mem
  obtain ⟨rfl, place⟩ := mirrored.parted.entry_of_locate mirrored.linkless led
  obtain ⟨nonempty, segments, down⟩ := segments_of_mem_filesBelow mirrored.linkless place below
  obtain ⟨written, joined⟩ :=
    onDisk_listed legible (mirrored.namesOf_ne_nil inside) segments down
  refine ⟨names, by rw [written], joined, ?_⟩
  rw [joined, getLastD_append _ nonempty]
  exact Convention.endsWith_iff.1 ends

/-- A test of a path in the test root is a file at the path or below it, under the anchor of the
path. -/
theorem below_of_test (legible : r.Legible path)
    (inside : Lexical.names fs.cwd r.testRoot <+: r.namesOf path)
    (found : r.testsAt fs path = .ok tests) (mem : test ∈ tests) :
    ∃ names, (r.onDisk test).anchor = (r.onDisk path).anchor ∧
      r.namesOf test = r.namesOf path ++ names ∧
      r.convention.testSuffix.toList <:+ ((r.namesOf test).getLastD "").toList := by
  have not_source : Lexical.within fs.cwd (r.placeText path) r.sourceRoot = false := by
    rw [← Bool.not_eq_true, mirrored.parted.within_iff legible]
    exact fun source => mirrored.parted.disjoint source inside
  rcases isDirectory_of_testsAt found with asked | asked
  · exact mirrored.below_of_directory legible inside asked found mem
  · by_cases ends : Convention.endsWith path r.convention.sourceSuffix = true
    · rw [testsAt_of_not_source asked ends not_source, ownTest] at found
      split at found
      next own =>
        cases found
        obtain rfl := List.mem_singleton.1 mem
        refine ⟨[], rfl, (List.append_nil _).symm, ?_⟩
        rw [Bool.and_eq_true] at own
        obtain ⟨above, name, names, -, suffix⟩ := namesOf_concat
          mirrored.plain.testSuffix_free mirrored.plain.testSuffix_named own.2
        rwa [names, List.getLastD_concat]
      next =>
        cases found
        cases mem
    · rw [testsAt_of_other asked (Bool.eq_false_iff.2 ends)] at found
      cases found
      cases mem

/-- A directory in the test root has each test below it, under the anchor of the directory. -/
theorem exists_below_directory (legible : r.Legible directory)
    (inside : Lexical.names fs.cwd r.testRoot <+: r.namesOf directory)
    (existing : fs.isDirectory (r.onDisk directory) = .ok true) {names : List String}
    {content : List UInt8} {executable : Bool}
    (file : fs.node? (r.namesOf directory ++ names) = some (.file content executable))
    (ends : r.convention.testSuffix.toList <:+
      ((r.namesOf directory ++ names).getLastD "").toList) :
    ∃ tests test, r.testsAt fs directory = .ok tests ∧ test ∈ tests ∧
      r.onDisk test = ⟨(r.onDisk directory).anchor, (r.onDisk directory).parts ++ names⟩ ∧
      r.namesOf test = r.namesOf directory ++ names := by
  obtain ⟨led, place⟩ := mirrored.parted.directory_led mirrored.linkless existing
  have below : names ∈ fs.filesBelow (r.namesOf directory) :=
    (FileSystem.mem_filesBelow_iff_file mirrored.linkless).2 ⟨content, executable, file⟩
  obtain ⟨nonempty, segments, down⟩ := segments_of_mem_filesBelow mirrored.linkless place below
  rw [getLastD_append _ nonempty] at ends
  obtain ⟨tests, found, mem⟩ := exists_mem_testsBelow led below (Convention.endsWith_iff.2 ends)
  refine ⟨tests, fileText directory names, ?_, mem,
    onDisk_listed legible (mirrored.namesOf_ne_nil inside) segments down⟩
  rw [mirrored.testsAt_of_testDirectory legible inside existing, found]

/-! ## Directories of sources -/

end Mirrored

/-- A test lies in the test root where a file lies in the source root that is right in the directory
with the names `front`. -/
def Reflects (r : Resolver) (fs : FileSystem) (test : String) (front : List String) : Prop :=
  ∃ rest last, r.onDisk test = r.mirrorPath rest ∧
    Lexical.names fs.cwd r.sourceRoot ++ rest = front ++ [last] ∧
    Lexical.parentSegment ∉ rest ∧ r.convention.testSuffix.toList <:+ last.toList

namespace Mirrored

variable (mirrored : r.Mirrored fs)
include mirrored

/-- The text of the counterpart of a source file differs from that of the file in the last name. -/
theorem names_counterpart (legible : r.Legible path)
    (ends : Convention.endsWith path r.convention.sourceSuffix = true) :
    ∃ front name last, r.namesOf path = front ++ [name] ∧
      Lexical.names fs.cwd (r.convention.counterpart (r.placeText path)) = front ++ [last] ∧
      Lexical.parentSegment ∉ front ++ [last] ∧
      r.convention.testSuffix.toList <:+ last.toList := by
  obtain ⟨above, name, names, place, suffix⟩ :=
    namesOf_concat mirrored.plain.suffix_free mirrored.plain.named ends
  have proper := mirrored.parted.proper_onDisk path
  have plain := mirrored.parted.plain_parts legible
  have free : '\\' ∉ name.toList := plain name (by rw [place]; simp)
  obtain ⟨-, valid, test_suffix, counterpart⟩ :=
    counterpart_placeText mirrored.plain proper place suffix free
  rw [← @String.toList_ofList (r.convention.testName name.toList)] at test_suffix
  generalize String.ofList (r.convention.testName name.toList) = last at valid test_suffix counterpart
  rw [place] at proper plain
  have absolute' : (⟨(r.onDisk path).anchor, above ++ [last]⟩ : Path).isAbsolute = true :=
    mirrored.parted.isAbsolute_onDisk path
  have proper' : (⟨(r.onDisk path).anchor, above ++ [last]⟩ : Path).Proper :=
    List.forall_mem_append.2 ⟨(List.forall_mem_append.1 proper).1,
      List.forall_mem_singleton.2 valid.segment⟩
  have plain' : ∀ part ∈ above ++ [last], '\\' ∉ part.toList :=
    List.forall_mem_append.2 ⟨(List.forall_mem_append.1 plain).1,
      List.forall_mem_singleton.2 valid.plain⟩
  have single : Lexical.parentSegment ∉ [last] := by simpa using Ne.symm valid.down
  refine ⟨Lexical.collapse true above, name, last, names, ?_, ?_, test_suffix⟩
  · rw [counterpart, Lexical.names_toString fs.cwd absolute' proper' plain']
    exact Lexical.collapse_append true above single
  · rw [List.mem_append, not_or]
    exact ⟨Lexical.parentSegment_notMem_collapse above, single⟩

/-- The counterpart of a source file lies in the test root where the file does in the source root,
but for its name. -/
theorem reflects_of_source (legible : r.Legible path)
    (ends : Convention.endsWith path r.convention.sourceSuffix = true)
    (given : r.counterpart fs (r.placeText path) = .ok test) :
    ∃ front name, r.Reflects fs test front ∧ r.namesOf path = front ++ [name] := by
  obtain ⟨front, name, last, names, renamed, down, suffix⟩ := mirrored.names_counterpart legible ends
  have inside : Lexical.within fs.cwd (r.convention.counterpart (r.placeText path))
      r.sourceRoot = true := by
    by_contra outside
    have failed := counterpart_eq_error_iff.2 ⟨Bool.eq_false_iff.2 outside, rfl⟩
    rw [given] at failed
    cases failed
  obtain ⟨rest, joined⟩ := (Lexical.within_iff_below (renamed ▸ down)).1 inside
  have down_rest : Lexical.parentSegment ∉ rest := fun up =>
    down (renamed ▸ joined ▸ List.mem_append_right _ up)
  obtain ⟨moved, transplanted, read, -⟩ := mirrored.parted.exists_transplanted joined.symm down_rest
  rw [counterpart_eq_ok_iff, transplanted] at given
  obtain rfl := Option.some.inj given
  exact ⟨front, name, ⟨rest, last, mirrored.parted.onDisk_of_ofString read, joined.trans renamed,
    down_rest, suffix⟩, names⟩

/-- The tests of a directory in the source root lie below its place in the test root. -/
theorem reflects_of_directory (legible : r.Legible path)
    (inside : Lexical.names fs.cwd r.sourceRoot <+: r.namesOf path)
    (existing : fs.isDirectory (r.onDisk path) = .ok true)
    (found : r.testsAt fs path = .ok tests) (mem : test ∈ tests) :
    ∃ front, r.Reflects fs test front ∧ r.namesOf path <+: front := by
  obtain ⟨rest, joined⟩ := inside
  obtain ⟨moved, -, read, some_char, down, listed⟩ := mirrored.parted.testsAt_of_sourceDirectory
    ((mirrored.parted.names_placeText legible).trans joined.symm) existing
  obtain ⟨names, place, nonempty, down_names, ends⟩ := mirrored.parted.of_mem_testsBelow_moved
    mirrored.linkless read some_char (listed.symm.trans found) mem
  obtain ⟨earlier, last, rfl⟩ := (List.eq_nil_or_concat' names).resolve_left nonempty
  rw [List.getLastD_concat] at ends
  refine ⟨r.namesOf path ++ earlier, ⟨rest ++ (earlier ++ [last]), last, place, ?_, ?_,
    Convention.endsWith_iff.1 ends⟩, List.prefix_append _ _⟩
  · rw [← joined]
    simp only [List.append_assoc]
  · rw [List.mem_append, not_or]
    exact ⟨down, down_names⟩

/-- A test of a path in the source root lies in the test root where the path does in the source
root, but for its name, or below the path. -/
theorem reflects_of_test (legible : r.Legible path)
    (inside : Lexical.names fs.cwd r.sourceRoot <+: r.namesOf path)
    (found : r.testsAt fs path = .ok tests) (mem : test ∈ tests) :
    ∃ front, r.Reflects fs test front ∧ (r.namesOf path <+: front ∨
      fs.isDirectory (r.onDisk path) = .ok false ∧ ∃ name, r.namesOf path = front ++ [name]) := by
  rcases isDirectory_of_testsAt found with asked | asked
  · obtain ⟨front, reflects, below⟩ :=
      mirrored.reflects_of_directory legible inside asked found mem
    exact ⟨front, reflects, Or.inl below⟩
  · by_cases ends : Convention.endsWith path r.convention.sourceSuffix = true
    · have source := (mirrored.parted.within_iff legible).2 inside
      rw [testsAt_of_source asked ends source, mirrored.parted.ownTest_eq_nil source] at found
      obtain ⟨counterpart, given, rfl⟩ := of_map_ok found
      obtain rfl := List.mem_singleton.1 mem
      obtain ⟨front, name, reflects, names⟩ := mirrored.reflects_of_source legible ends given
      exact ⟨front, reflects, Or.inr ⟨asked, name, names⟩⟩
    · rw [testsAt_of_other asked (Bool.eq_false_iff.2 ends)] at found
      cases found
      cases mem

/-! ## Coverage -/

/-- A directory in the test root covers the tests of the paths in it, under its own anchor. -/
theorem covers_of_test (legible : r.Legible directory) (legible' : r.Legible path)
    (existing : fs.isDirectory (r.onDisk directory) = .ok true)
    (inside : Lexical.names fs.cwd r.testRoot <+: r.namesOf directory)
    (below : r.namesOf directory <+: r.namesOf path)
    (found : r.testsAt fs path = .ok tests) (mem : test ∈ tests)
    (file : fs.isFile (r.onDisk test) = .ok true) :
    ∃ other, r.Selects fs [directory] other ∧ r.namesOf other = r.namesOf test ∧
      (r.onDisk other).anchor = (r.onDisk directory).anchor ∧
      (r.onDisk test).anchor = (r.onDisk path).anchor := by
  obtain ⟨names, anchor, joined, ends⟩ :=
    mirrored.below_of_test legible' (inside.trans below) found mem
  obtain ⟨more, split⟩ := below
  obtain ⟨content, executable, -, node⟩ := mirrored.parted.file_led mirrored.linkless file
  rw [joined, ← split, List.append_assoc] at node ends
  obtain ⟨others, other, found', mem', place, joined'⟩ :=
    mirrored.exists_below_directory legible inside existing node ends
  refine ⟨other, selects_of_testsAt mirrored.structural found' mem', ?_, by rw [place], anchor⟩
  rw [joined', joined, ← split, List.append_assoc]

/-- A directory in the source root covers the tests of the paths below it. -/
theorem covers_of_source (encloses : r.Encloses fs directory path)
    (inside : Lexical.names fs.cwd r.sourceRoot <+: r.namesOf directory)
    (found : r.testsAt fs path = .ok tests) (mem : test ∈ tests)
    (file : fs.isFile (r.onDisk test) = .ok true) :
    ∃ other, r.Selects fs [directory] other ∧ r.onDisk other = r.onDisk test := by
  obtain ⟨legible, legible', existing, -, below, same⟩ := encloses
  rw [mirrored.parted.within_iff legible', mirrored.parted.names_placeText legible] at below
  rw [mirrored.parted.within_iff legible, mirrored.parted.within_iff legible,
    mirrored.parted.names_placeText legible'] at same
  obtain ⟨front, ⟨rest, last, read, joined, down, ends⟩, place⟩ :=
    mirrored.reflects_of_test legible' (inside.trans below) found mem
  have above : r.namesOf directory <+: front := by
    rcases place with inner | ⟨asked, name, names⟩
    · exact below.trans inner
    · have strict : ¬ r.namesOf path <+: r.namesOf directory := by
        intro back
        have leads := same inside back
        rw [asked] at leads
        cases leads
      rw [names] at below strict
      refine (List.prefix_concat_iff.1 below).resolve_left fun whole => strict ?_
      exact whole ▸ List.prefix_rfl
  obtain ⟨start, split⟩ := inside
  obtain ⟨back, split'⟩ := above
  have rest_eq : rest = start ++ (back ++ [last]) := by
    rw [← split', ← split] at joined
    simp only [List.append_assoc] at joined
    exact List.append_cancel_left joined
  have down_back : Lexical.parentSegment ∉ back ++ [last] := fun up =>
    down (rest_eq ▸ List.mem_append_right _ up)
  obtain ⟨content, executable, led, -⟩ := mirrored.parted.file_led mirrored.linkless file
  rw [read, rest_eq] at led
  have ends_text : Convention.endsWith ((back ++ [last]).getLastD "")
      r.convention.testSuffix = true := by
    rw [List.getLastD_concat]
    exact Convention.endsWith_iff.2 ends
  have names := (mirrored.parted.names_placeText legible).trans split.symm
  obtain ⟨others, other, found', mem', place'⟩ := mirrored.parted.exists_below_mirrored
    mirrored.linkless names existing (by simp) down_back ends_text led
  refine ⟨other, selects_of_testsAt mirrored.structural found' mem', ?_⟩
  rw [place', read, rest_eq]

/-- The test root covers the tests of the paths in the source root. -/
theorem testRoot_covers_of_source (legible : r.Legible r.testRoot) (legible' : r.Legible path)
    (existing : fs.isDirectory (r.onDisk r.testRoot) = .ok true)
    (root : Lexical.names fs.cwd r.testRoot = r.namesOf r.testRoot)
    (inside : Lexical.names fs.cwd r.sourceRoot <+: r.namesOf path)
    (found : r.testsAt fs path = .ok tests) (mem : test ∈ tests)
    (file : fs.isFile (r.onDisk test) = .ok true) :
    ∃ other, r.Selects fs [r.testRoot] other ∧ r.onDisk other = r.onDisk test ∧
      (r.onDisk test).anchor = (r.onDisk r.testRoot).anchor := by
  obtain ⟨front, ⟨rest, last, read, joined, down, ends⟩, -⟩ :=
    mirrored.reflects_of_test legible' inside found mem
  have absolute : (Path.ofString r.testRoot).isAbsolute = true :=
    decide_eq_true mirrored.parted.anchor_testRoot
  have top := r.onDisk_of_isAbsolute absolute
  have names : r.namesOf test = r.namesOf r.testRoot ++ rest := by
    rw [namesOf_of_mirrored read down, namesOf, top]
  obtain ⟨content, executable, -, node⟩ := mirrored.parted.file_led mirrored.linkless file
  rw [names] at node
  have nonempty := FileSystem.ne_nil_of_file_below (mirrored.parted.directory_led mirrored.linkless existing).2 node
  have ends' : r.convention.testSuffix.toList <:+
      ((r.namesOf r.testRoot ++ rest).getLastD "").toList := by
    have final : rest.getLastD "" = last := by
      rw [← getLastD_append _ nonempty, joined, List.getLastD_concat]
    rwa [getLastD_append _ nonempty, final]
  obtain ⟨others, other, found', mem', place, -⟩ := mirrored.exists_below_directory legible
    (root ▸ List.prefix_rfl) existing node ends'
  refine ⟨other, selects_of_testsAt mirrored.structural found' mem', ?_, ?_⟩
  · rw [place, read, top]
    rfl
  · rw [read, top]
    rfl

theorem legible_testRoot (plain : '\\' ∉ r.testRoot.toList) :
    r.Legible r.testRoot ∧ Lexical.names fs.cwd r.testRoot = r.namesOf r.testRoot := by
  have absolute : (Path.ofString r.testRoot).isAbsolute = true :=
    decide_eq_true mirrored.parted.anchor_testRoot
  have top := r.onDisk_of_isAbsolute absolute
  refine ⟨⟨?_, ?_⟩, ?_⟩
  · intro empty
    have rooted := mirrored.test_rooted
    rw [empty] at rooted
    cases rooted
  · rw [placeText, top]
    exact Lexical.notMem_toString fun part mem => Lexical.notMem_of_mem_segments plain mem
  · rw [Lexical.names_of_slash fs.cwd mirrored.test_rooted, Lexical.slashed_of_notMem plain,
      namesOf, top]
    rfl

end Mirrored

/-- An existing directory in one of the two roots covers what lies below it: each existing test of a
path below the directory is a test of the directory, at the same place. It has the same identity,
too, unless the directory lies in the test root and one of the two spellings begins with two slashes
and the other does not. The test root covers all existing tests of paths in the two roots in the
same way. -/
theorem directories_cover (mirrored : r.Mirrored fs) :
    (∀ directory path test, r.Encloses fs directory path → r.Selects fs [path] test →
      fs.isFile (Executor.located r.base test) = .ok true →
      ∃ other, r.Selects fs [directory] other ∧ r.namesOf other = r.namesOf test ∧
        (Executor.identity r.base other = Executor.identity r.base test ↔
          Lexical.within fs.cwd (r.placeText directory) r.sourceRoot = true ∨
            (r.onDisk directory).anchor = (r.onDisk path).anchor)) ∧
    ('\\' ∉ r.testRoot.toList → fs.isDirectory (r.onDisk r.testRoot) = .ok true →
      ∀ paths test, (∀ path ∈ paths, r.Legible path ∧
        (Lexical.within fs.cwd (r.placeText path) r.sourceRoot = true ∨
          Lexical.within fs.cwd (r.placeText path) r.testRoot = true)) →
      r.Selects fs paths test → fs.isFile (Executor.located r.base test) = .ok true →
      ∃ other, r.Selects fs [r.testRoot] other ∧ r.namesOf other = r.namesOf test ∧
        (Executor.identity r.base other = Executor.identity r.base test ↔
          (r.onDisk r.testRoot).anchor = (r.onDisk test).anchor)) := by
  constructor
  · intro directory path test encloses selects file
    rw [located_eq_onDisk] at file
    obtain ⟨_, single, tests, found, mem⟩ :=
      exists_testsAt_of_selects mirrored.structural selects
    rw [List.mem_singleton.1 single] at found
    have ⟨legible, legible', existing, rooted, below, _⟩ := encloses
    rw [mirrored.parted.within_iff legible', mirrored.parted.names_placeText legible] at below
    rw [mirrored.parted.within_iff legible, mirrored.parted.within_iff legible] at rooted
    rw [mirrored.parted.within_iff legible]
    rcases rooted with source | inside
    · obtain ⟨other, covers, place⟩ := mirrored.covers_of_source encloses source found mem file
      have names : r.namesOf other = r.namesOf test := by rw [namesOf, place, namesOf]
      refine ⟨other, covers, names, iff_of_true ?_ (Or.inl source)⟩
      exact mirrored.parted.identity_eq_iff.2 ⟨by rw [place], names⟩
    · obtain ⟨other, covers, names, anchor, anchor'⟩ := mirrored.covers_of_test legible legible'
        existing inside below found mem file
      refine ⟨other, covers, names, ?_⟩
      rw [mirrored.parted.identity_eq_iff, and_iff_left names, anchor, anchor']
      exact ⟨Or.inr, fun either => either.resolve_left (mirrored.parted.disjoint · inside)⟩
  · intro plain existing paths test lie selects file
    rw [located_eq_onDisk] at file
    obtain ⟨path, listed, tests, found, mem⟩ :=
      exists_testsAt_of_selects mirrored.structural selects
    obtain ⟨legible', rooted⟩ := lie path listed
    obtain ⟨legible, root⟩ := mirrored.legible_testRoot plain
    rw [mirrored.parted.within_iff legible', mirrored.parted.within_iff legible'] at rooted
    rcases rooted with source | inside
    · obtain ⟨other, covers, place, anchor⟩ := mirrored.testRoot_covers_of_source legible legible'
        existing root source found mem file
      have names : r.namesOf other = r.namesOf test := by rw [namesOf, place, namesOf]
      refine ⟨other, covers, names, iff_of_true ?_ anchor.symm⟩
      exact mirrored.parted.identity_eq_iff.2 ⟨by rw [place], names⟩
    · obtain ⟨other, covers, names, anchor, anchor'⟩ := mirrored.covers_of_test legible legible'
        existing (root ▸ List.prefix_rfl) (root ▸ inside) found mem file
      refine ⟨other, covers, names, ?_⟩
      rw [mirrored.parted.identity_eq_iff, and_iff_left names, anchor]

theorem mirrored_smallProject : SmallProject.resolver.Mirrored SmallProject.files where
  structural := by rfl
  plain := by
    have suffix : SmallProject.resolver.convention.sourceSuffix.toList = ['.', 'p', 'h', 'p'] := by
      decide +kernel
    have marker : SmallProject.resolver.convention.testMarker.toList = ['T', 'e', 's', 't'] := by
      decide +kernel
    constructor <;> simp [suffix, marker, Text.IsSeparator]
  based := ⟨Path.ofString "/p", rfl, by decide +kernel, Path.proper_ofString _⟩
  source_rooted := by decide +kernel
  test_rooted := by decide +kernel
  apart := by decide +kernel
  apart' := by decide +kernel
  linkless := FileSystem.linkless_of_entries (by decide +kernel)

/-- The directory of the tests has the test that is asked for by name, and it has the same identity;
asked for with two slashes in front of its path it has another one. -/
theorem identities_below_test :
    (∃ other, SmallProject.resolver.Selects SmallProject.files ["test"] other ∧
      Executor.identity SmallProject.resolver.base other = "/p/test/ATest.php") ∧
    ∃ other, SmallProject.resolver.Selects SmallProject.files ["test"] other ∧
      SmallProject.resolver.namesOf other = ["p", "test", "ATest.php"] ∧
      Executor.identity SmallProject.resolver.base other ≠
        Executor.identity SmallProject.resolver.base "//p/test/ATest.php" := by
  have encloses : ∀ path ∈ ["test/ATest.php", "//p/test/ATest.php"],
      SmallProject.resolver.Encloses SmallProject.files "test" path := by
    intro path mem
    simp only [List.mem_cons, List.not_mem_nil, or_false] at mem
    rcases mem with rfl | rfl <;> exact
      { legible := ⟨by decide, by decide +kernel⟩, legible' := ⟨by decide, by decide +kernel⟩
        existing := by rfl
        rooted := Or.inr (by decide +kernel)
        below := by decide +kernel
        same := fun source => absurd source (by decide +kernel) }
  have selected : ∀ path ∈ ["test/ATest.php", "//p/test/ATest.php"],
      SmallProject.resolver.Selects SmallProject.files [path] path := by
    intro path mem
    simp only [List.mem_cons, List.not_mem_nil, or_false] at mem
    rcases mem with rfl | rfl <;> exact selects_ownTest mirrored_smallProject.structural
      (by rfl) (by decide +kernel) (by decide +kernel) (by decide +kernel)
  obtain ⟨cover, -⟩ := directories_cover mirrored_smallProject
  constructor
  · obtain ⟨other, selects, -, identical⟩ := cover "test" "test/ATest.php" "test/ATest.php"
      (encloses _ (by simp)) (selected _ (by simp)) (by rfl)
    refine ⟨other, selects, (identical.2 (Or.inr (by decide +kernel))).trans ?_⟩
    decide +kernel
  · obtain ⟨other, selects, names, identical⟩ :=
      cover "test" "//p/test/ATest.php" "//p/test/ATest.php"
        (encloses _ (by simp)) (selected _ (by simp)) (by rfl)
    refine ⟨other, selects, names.trans (by decide +kernel), fun same => ?_⟩
    exact absurd (identical.1 same) (by decide +kernel)

end Resolver

end TestImpact
