import TestImpact.Execution.Job
import TestImpact.Proofs.Discovery.Structural

/-!
# Places and the roots they lie in

A path has a place on disk, and its names without `..` say where that is (`namesOf`). What lies below
a directory is written behind the text of the directory and has its names behind those of the
directory (`anchored_behind`). Where both roots are named from the top and neither lies in the other
(`Parted`), no place lies in both (`Parted.disjoint`), a place in the source root can be moved to the
test root (`Parted.exists_transplanted`), and two paths are the same to a run exactly if they have
the same anchor and the same names (`Parted.identity_eq_iff`).
-/

namespace TestImpact.Resolver

variable {r : Resolver} {fs : FileSystem} {path directory test : String} {tests : List String}

/-! ## Texts of what lies below a directory -/

/-- The text of a file below a directory. -/
def fileText (directory : String) (names : List String) : String :=
  Lexical.withoutTrailingSlashes directory ++ "/" ++ "/".intercalate names

/-- A file below a directory, seen from a base directory. -/
theorem anchored_fileText (base : Option Path) (some_char : ∃ c ∈ path.toList, c ≠ '/')
    {names : List String} (proper : ∀ name ∈ names, Path.IsSegment name) :
    CoverageIndex.anchored base (fileText path names) =
      ⟨(CoverageIndex.anchored base path).anchor,
        (CoverageIndex.anchored base path).parts ++ names⟩ := by
  have read : Path.ofString (fileText path names) =
      ⟨(Path.ofString path).anchor, (Path.ofString path).parts ++ names⟩ :=
    Lexical.ofString_below some_char proper
  unfold CoverageIndex.anchored
  cases base with
  | none => exact read
  | some base =>
    show Path.append base (Path.ofString (fileText path names)) =
      ⟨(Path.append base (Path.ofString path)).anchor,
        (Path.append base (Path.ofString path)).parts ++ names⟩
    rw [read]
    unfold Path.append
    by_cases absolute : (Path.ofString path).isAbsolute = true
    · have absolute' : (⟨(Path.ofString path).anchor, (Path.ofString path).parts ++ names⟩ :
          Path).isAbsolute = true := absolute
      rw [if_pos absolute, if_pos absolute']
    · have relative : ¬ (⟨(Path.ofString path).anchor, (Path.ofString path).parts ++ names⟩ :
          Path).isAbsolute = true := absolute
      rw [if_neg absolute, if_neg relative, List.append_assoc]

/-- A file below a directory, on disk. -/
theorem onDisk_fileText (some_char : ∃ c ∈ path.toList, c ≠ '/') {names : List String}
    (proper : ∀ name ∈ names, Path.IsSegment name) :
    r.onDisk (fileText path names) =
      ⟨(r.onDisk path).anchor, (r.onDisk path).parts ++ names⟩ :=
  anchored_fileText r.base some_char proper

theorem segments_fileText (directory : String) {names : List String}
    (proper : ∀ name ∈ names, Path.IsSegment name) :
    Path.segments (fileText directory names) = Path.segments directory ++ names := by
  rw [fileText, Path.segments_append_slash, Lexical.segments_withoutTrailingSlashes,
    Path.segments_intercalate_self proper]

/-- A file below a directory is found from where the directory is, and goes on behind it. -/
theorem anchored_behind (base : Option Path) (nonempty : directory ≠ "") {names : List String}
    (proper : ∀ name ∈ names, Path.IsSegment name) :
    (CoverageIndex.anchored base (fileText directory names)).isAbsolute =
        (CoverageIndex.anchored base directory).isAbsolute ∧
      (CoverageIndex.anchored base (fileText directory names)).parts =
        (CoverageIndex.anchored base directory).parts ++ names := by
  by_cases slash : directory.toList.head? = some '/'
  · have absolute : (Path.ofString directory).isAbsolute = true :=
      Lexical.isAbsolute_ofString slash
    have begins : (fileText directory names).toList.head? = some '/' := by
      rw [fileText]
      exact Lexical.head?_behind slash _
    have absolute' : (Path.ofString (fileText directory names)).isAbsolute = true :=
      Lexical.isAbsolute_ofString begins
    rw [anchored_of_isAbsolute base absolute, anchored_of_isAbsolute base absolute', absolute,
      absolute', Path.parts_ofString, Path.parts_ofString, segments_fileText directory proper]
    exact ⟨rfl, rfl⟩
  · rw [anchored_fileText base (Path.exists_char_of_head? nonempty slash) proper]
    exact ⟨rfl, rfl⟩

/-! ## Names of places -/

/-- A spelling that says something and holds no backslash, nor does the place it is seen from. -/
def Legible (r : Resolver) (path : String) : Prop :=
  path ≠ "" ∧ '\\' ∉ (r.placeText path).toList

/-- The names of the place of a path, without `..`. -/
def namesOf (r : Resolver) (path : String) : Location :=
  Lexical.collapse true (r.onDisk path).parts

/-- The last name of a place ends as its path does. -/
theorem namesOf_concat {suffix : String} (free : ∀ c ∈ suffix.toList, ¬ Text.IsSeparator c)
    (named : ∃ c ∈ suffix.toList, c ≠ '.') (ends : Convention.endsWith path suffix = true) :
    ∃ above name, r.namesOf path = Lexical.collapse true above ++ [name] ∧
      r.onDisk path = ⟨(r.onDisk path).anchor, above ++ [name]⟩ ∧
      suffix.toList <:+ name.toList := by
  obtain ⟨anchor, above, name, place, behind⟩ : ∃ anchor above name,
      r.onDisk path = ⟨anchor, above ++ [name]⟩ ∧ suffix.toList <:+ name.toList :=
    exists_onDisk_concat (fun slash => free _ slash (Or.inl rfl)) named ends
  obtain ⟨c, mem, differs⟩ := named
  have down : Lexical.parentSegment ∉ [name] := by
    intro up
    have inside := behind.subset mem
    rw [← List.mem_singleton.1 up] at inside
    exact differs (by simpa [Lexical.parentSegment] using inside)
  refine ⟨above, name, ?_, by rw [place], behind⟩
  rw [namesOf, place]
  exact Lexical.collapse_append true above down

theorem located_eq_onDisk (r : Resolver) (path : String) :
    Executor.located r.base path = r.onDisk path := by
  unfold Executor.located onDisk CoverageIndex.anchored
  cases r.base <;> rfl

theorem exists_char_of_namesOf (legible : r.Legible path) (named : r.namesOf path ≠ []) :
    ∃ c ∈ path.toList, c ≠ '/' := by
  by_cases rooted : path.toList.head? = some '/'
  · refine Path.exists_char_of_segments fun bare => named ?_
    have absolute : (Path.ofString path).isAbsolute = true :=
      Lexical.isAbsolute_ofString rooted
    have parts : (Path.ofString path).parts = [] := bare
    rw [namesOf, r.onDisk_of_isAbsolute absolute, parts]
    rfl
  · exact Path.exists_char_of_head? legible.1 rooted

/-- A listed file below a path, on disk. -/
theorem onDisk_listed (legible : r.Legible path) (named : r.namesOf path ≠ []) {names : Location}
    (segments : ∀ name ∈ names, Path.IsSegment name) (down : Lexical.parentSegment ∉ names) :
    r.onDisk (fileText path names) = ⟨(r.onDisk path).anchor, (r.onDisk path).parts ++ names⟩ ∧
      r.namesOf (fileText path names) = r.namesOf path ++ names := by
  have written := onDisk_fileText (r := r) (exists_char_of_namesOf legible named) segments
  refine ⟨written, ?_⟩
  rw [namesOf, written]
  exact Lexical.collapse_append true _ down

/-! ## Roots that lie apart -/

/-- Everything is named from the top, and neither of the two roots lies in the other. -/
structure Parted (r : Resolver) (fs : FileSystem) : Prop where
  based : ∃ base, r.base = some base ∧ base.isAbsolute = true ∧ base.Proper
  source_rooted : r.sourceRoot.toList.head? = some '/'
  test_rooted : r.testRoot.toList.head? = some '/'
  apart : Lexical.within fs.cwd r.sourceRoot r.testRoot = false
  apart' : Lexical.within fs.cwd r.testRoot r.sourceRoot = false

namespace Parted

variable (parted : r.Parted fs)
include parted

theorem isAbsolute_onDisk (path : String) : (r.onDisk path).isAbsolute = true :=
  (anchored_onDisk parted.based path).1

theorem proper_onDisk (path : String) : (r.onDisk path).Proper :=
  (anchored_onDisk parted.based path).2

theorem plain_parts (legible : r.Legible path) :
    ∀ part ∈ (r.onDisk path).parts, '\\' ∉ part.toList := by
  intro part mem
  have parts := Path.segments_toString (parted.proper_onDisk path)
  exact Lexical.notMem_of_mem_segments legible.2 (parts.symm ▸ mem)

theorem names_placeText (legible : r.Legible path) :
    Lexical.names fs.cwd (r.placeText path) = r.namesOf path :=
  Lexical.names_toString fs.cwd (parted.isAbsolute_onDisk path) (parted.proper_onDisk path)
    (parted.plain_parts legible)

theorem head?_place (path : String) : (r.placeText path).toList.head? = some '/' :=
  Lexical.head?_toString_of_isAbsolute (parted.isAbsolute_onDisk path)

theorem within_place_iff {root : String} :
    Lexical.within fs.cwd (r.placeText path) root = true ↔
      Lexical.names fs.cwd root <+: Lexical.names fs.cwd (r.placeText path) :=
  Lexical.within_iff_below (Lexical.parentSegment_notMem_names fs.cwd (parted.head?_place path))

theorem within_iff (legible : r.Legible path) {root : String} :
    Lexical.within fs.cwd (r.placeText path) root = true ↔
      Lexical.names fs.cwd root <+: r.namesOf path := by
  rw [parted.within_place_iff, parted.names_placeText legible]

/-- No place lies in both roots. -/
theorem disjoint {names : List String} (source : Lexical.names fs.cwd r.sourceRoot <+: names)
    (test : Lexical.names fs.cwd r.testRoot <+: names) : False := by
  rcases List.prefix_or_prefix_of_prefix source test with below | below
  · have plain := Lexical.parentSegment_notMem_names fs.cwd parted.test_rooted
    have inside := (Lexical.within_iff_below plain).2 below
    rw [parted.apart'] at inside
    cases inside
  · have plain := Lexical.parentSegment_notMem_names fs.cwd parted.source_rooted
    have inside := (Lexical.within_iff_below plain).2 below
    rw [parted.apart] at inside
    cases inside

/-- No place in the source root lies in the test root. -/
theorem not_within_testRoot (inside : Lexical.within fs.cwd (r.placeText path) r.sourceRoot = true) :
    Lexical.within fs.cwd (r.placeText path) r.testRoot = false := by
  rw [Bool.eq_false_iff]
  exact fun test => parted.disjoint (parted.within_place_iff.1 inside)
    (parted.within_place_iff.1 test)

/-- A path in the source root is no test itself. -/
theorem ownTest_eq_nil (inside : Lexical.within fs.cwd (r.placeText path) r.sourceRoot = true) :
    r.ownTest fs path = [] := by
  simp [ownTest, parted.not_within_testRoot inside]

/-- Where a path leads that leads anywhere. -/
theorem entry_of_locate (linkless : fs.Linkless) {location : Location} {node : Node}
    (led : fs.locate true (r.onDisk path) = .ok (.entry location node)) :
    location = r.namesOf path ∧ fs.node? location = some node :=
  FileSystem.entry_of_locate linkless (parted.isAbsolute_onDisk path) led

theorem directory_led (linkless : fs.Linkless)
    (existing : fs.isDirectory (r.onDisk path) = .ok true) :
    fs.locate true (r.onDisk path) = .ok (.entry (r.namesOf path) .directory) ∧
      fs.node? (r.namesOf path) = some .directory := by
  obtain ⟨location, led⟩ := FileSystem.isDirectory_eq_true_iff.1 existing
  obtain ⟨rfl, found⟩ := parted.entry_of_locate linkless led
  exact ⟨led, found⟩

theorem file_led (linkless : fs.Linkless) (existing : fs.isFile (r.onDisk path) = .ok true) :
    ∃ content executable, fs.locate true (r.onDisk path) =
        .ok (.entry (r.namesOf path) (.file content executable)) ∧
      fs.node? (r.namesOf path) = some (.file content executable) := by
  obtain ⟨location, content, executable, led⟩ := FileSystem.isFile_eq_true_iff.1 existing
  obtain ⟨rfl, found⟩ := parted.entry_of_locate linkless led
  exact ⟨content, executable, led, found⟩

/-- The test root has names, or the source root would lie in it. -/
theorem testRoot_names : Lexical.names fs.cwd r.testRoot ≠ [] := by
  intro top
  refine parted.disjoint List.prefix_rfl ?_
  rw [top]
  exact List.nil_prefix

end Parted

/-! ## Places that are moved -/

/-- The place below the test root that has the names `rest` there. -/
def mirrorPath (r : Resolver) (rest : List String) : Path :=
  ⟨(Path.ofString r.testRoot).anchor, (Path.ofString r.testRoot).parts ++ rest⟩

/-- The names of a place below the test root. -/
theorem namesOf_of_mirrored {rest : List String} (place : r.onDisk test = r.mirrorPath rest)
    (down : Lexical.parentSegment ∉ rest) :
    r.namesOf test = Lexical.collapse true (Path.ofString r.testRoot).parts ++ rest := by
  rw [namesOf, place]
  exact Lexical.collapse_append true _ down

namespace Parted

variable (parted : r.Parted fs)
include parted

theorem anchor_testRoot : (Path.ofString r.testRoot).anchor ≠ .relative :=
  Lexical.anchorOf_ne_relative parted.test_rooted

theorem exists_char_testRoot : ∃ c ∈ r.testRoot.toList, c ≠ '/' := by
  by_contra none
  have slashes : ∀ c ∈ r.testRoot.toList, c = '/' :=
    fun c mem => by_contra fun differs => none ⟨c, mem, differs⟩
  have bare : Path.segments r.testRoot = [] :=
    by_contra fun some_segment => none (Path.exists_char_of_segments some_segment)
  have plain : '\\' ∉ r.testRoot.toList := fun backslash => nomatch slashes _ backslash
  refine parted.testRoot_names ?_
  rw [Lexical.names_of_slash fs.cwd parted.test_rooted, Lexical.slashed_of_notMem plain, bare]
  rfl

/-- A place in the source root is moved to the place below the test root with the same names. -/
theorem exists_transplanted {place : String} {rest : List String}
    (joined : Lexical.names fs.cwd place = Lexical.names fs.cwd r.sourceRoot ++ rest)
    (down : Lexical.parentSegment ∉ rest) :
    ∃ moved, Lexical.transplant? fs.cwd place r.sourceRoot r.testRoot = some moved ∧
      Path.ofString moved = r.mirrorPath rest ∧ ∃ c ∈ moved.toList, c ≠ '/' := by
  have head : rest.head? ≠ some Lexical.parentSegment :=
    fun first => down (List.mem_of_mem_head? first)
  refine ⟨_, Lexical.transplant?_eq joined head r.testRoot, ?_⟩
  have some_char := parted.exists_char_testRoot
  by_cases top : rest = []
  · rw [if_pos top, top]
    refine ⟨?_, some_char⟩
    rw [mirrorPath, List.append_nil]
  · rw [if_neg top]
    have proper : ∀ name ∈ rest, Path.IsSegment name := by
      intro name mem
      have kept : name ∈ Lexical.names fs.cwd place := joined ▸ List.mem_append_right _ mem
      exact Lexical.isSegment_of_mem_names kept
    refine ⟨Lexical.ofString_below some_char proper, ?_⟩
    obtain ⟨front, c, count, differs, kept, -⟩ := Text.exists_dropTrailing some_char
    refine ⟨c, ?_, differs⟩
    have cut : Lexical.withoutTrailingSlashes r.testRoot = String.ofList (front ++ [c]) :=
      congrArg String.ofList kept
    rw [cut]
    simp

theorem isAbsolute_mirrorPath (rest : List String) : (r.mirrorPath rest).isAbsolute = true :=
  decide_eq_true parted.anchor_testRoot

/-- A text that is read as a place below the test root leads there. -/
theorem onDisk_of_ofString {rest : List String} (read : Path.ofString test = r.mirrorPath rest) :
    r.onDisk test = r.mirrorPath rest := by
  rw [← read]
  refine r.onDisk_of_isAbsolute ?_
  rw [read]
  exact parted.isAbsolute_mirrorPath rest

theorem onDisk_fileText_mirrored {moved : String} {rest names : List String}
    (read : Path.ofString moved = r.mirrorPath rest) (some_char : ∃ c ∈ moved.toList, c ≠ '/')
    (proper : ∀ name ∈ names, Path.IsSegment name) :
    r.onDisk (fileText moved names) = r.mirrorPath (rest ++ names) := by
  refine parted.onDisk_of_ofString ?_
  have below : Path.ofString (fileText moved names) =
      ⟨(Path.ofString moved).anchor, (Path.ofString moved).parts ++ names⟩ :=
    Lexical.ofString_below some_char proper
  rw [below, read]
  simp only [mirrorPath, List.append_assoc]

/-! ## Identities -/

theorem identity_eq (path : String) :
    Executor.identity r.base path = (⟨(r.onDisk path).anchor, r.namesOf path⟩ : Path).toString := by
  have proper := parted.proper_onDisk path
  have absolute : (r.onDisk path).anchor ≠ .relative :=
    of_decide_eq_true (parted.isAbsolute_onDisk path)
  rw [Executor.identity, located_eq_onDisk, Lexical.normalise_eq, Lexical.normalPath,
    Path.anchorOf_toString proper, Path.segments_toString proper, decide_eq_true absolute]
  rfl

theorem identity_eq_iff {left right : String} :
    Executor.identity r.base left = Executor.identity r.base right ↔
      (r.onDisk left).anchor = (r.onDisk right).anchor ∧ r.namesOf left = r.namesOf right := by
  have proper : ∀ path : String,
      (⟨(r.onDisk path).anchor, r.namesOf path⟩ : Path).Proper := fun path =>
    Lexical.proper_collapse (parted.proper_onDisk path)
  rw [parted.identity_eq, parted.identity_eq, Path.toString_inj (proper left) (proper right),
    Path.mk.injEq]

end Parted

end TestImpact.Resolver
