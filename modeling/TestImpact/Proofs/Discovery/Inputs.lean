import TestImpact.Discovery.Resolver
import TestImpact.Proofs.FileSystem.Alike
import TestImpact.Proofs.Report.LineCounts

/-!
# What the search for affected tests looks at

To find the tests that changed paths affect, some directories are listed (`Resolver.Lists`) and some
files are opened (`Resolver.Opens`). In file systems that are alike but for some places the same
tests are found, if no place is below a listed directory and every opened path leads to the same
(`Resolver.resolve_congr`).
-/

namespace TestImpact

open FileSystem

variable {left right : FileSystem} {places : Set Location} {path : Path}

theorem FileSystem.Alike.cwd_eq (alike : Alike places left right) : left.cwd = right.cwd := by
  rw [FileSystem.cwd, FileSystem.cwd, alike.home]

/-- The directory that a path leads to, if it leads to one, contains none of some places. -/
def FileSystem.Without (fs : FileSystem) (places : Set Location) (path : Path) : Prop :=
  ∀ location, fs.locate true path = .ok (.entry location .directory) →
    ∀ place ∈ places, ¬ location <+: place

/-- Tests are found where a directory leads, and in what lies below it. -/
theorem testsBelow_of_locate_eq {base : Option Path} {directory : String} (suffix : String)
    (same : left.locate true (CoverageIndex.anchored base directory) =
      right.locate true (CoverageIndex.anchored base directory))
    (listed : ∀ location, left.locate true (CoverageIndex.anchored base directory) =
      .ok (.entry location .directory) → left.filesBelow location = right.filesBelow location) :
    testsBelow left base directory suffix = testsBelow right base directory suffix := by
  unfold testsBelow
  simp only
  rw [← same]
  split
  next location found => rw [listed location found]
  · rfl
  · rfl

theorem testsBelow_congr {base : Option Path} {directory : String} (suffix : String)
    (alike : Alike places left right)
    (listed : left.Without places (CoverageIndex.anchored base directory)) :
    testsBelow left base directory suffix = testsBelow right base directory suffix := by
  have nothing : ∀ {fs : FileSystem} {place : Location},
      Fruitless place (fs.locate true (CoverageIndex.anchored base directory)) →
        testsBelow fs base directory suffix = .ok [] := by
    intro fs place fruitless
    unfold testsBelow
    rcases fruitless.cases with led | led | ⟨_, _, led, -⟩ | ⟨_, _, led⟩ <;>
    · simp only [led]
      rfl
  rcases alike.locate_eq true (CoverageIndex.anchored base directory) with
    same | ⟨place, -, -, fruitless, fruitless'⟩
  · exact testsBelow_of_locate_eq suffix same fun location found =>
      alike.filesBelow_eq (listed location found)
  · rw [nothing fruitless, nothing fruitless']

namespace Resolver

variable {r : Resolver} {paths : List String}

/-- A directory whose files are listed to find the tests that changed paths affect: a changed
directory of tests, the place of a changed directory of sources among the tests, or all tests. -/
inductive Lists (r : Resolver) (fs : FileSystem) (paths : List String) : Path → Prop
  | tests {path : String} : path ∈ paths →
      Lexical.within fs.cwd (r.onDisk path).toString r.testRoot = true →
      Lists r fs paths (r.onDisk path)
  | mirrored {path directory : String} : path ∈ paths →
      Lexical.transplant? fs.cwd (r.onDisk path).toString r.sourceRoot r.testRoot =
        some directory →
      Lists r fs paths (Path.ofString directory)
  | all : r.strategy = .declared → Lists r fs paths (r.onDisk r.testRoot)

/-- A file that is opened to find the tests that changed paths affect: a changed source file, or any
test, and both only to see which classes they declare. -/
inductive Opens (r : Resolver) (fs : FileSystem) (paths : List String) : Path → Prop
  | source {path : String} : r.strategy = .declared → path ∈ paths →
      Lexical.within fs.cwd (r.onDisk path).toString r.sourceRoot = true →
      Opens r fs paths (Path.ofString (r.onDisk path).toString)
  | test {tests : List String} {test : String} : r.strategy = .declared →
      testsBelow fs r.base r.testRoot (r.convention.testSuffixOf r.testKind) = .ok tests →
      test ∈ tests → Opens r fs paths (r.onDisk test)

theorem sourceClass_congr (begun : left.start path = right.start path)
    (shared : Shared left right path) (suffix : String) :
    CoversTag.sourceClass left path suffix = CoversTag.sourceClass right path suffix := by
  unfold CoversTag.sourceClass
  rw [shared.isFile_eq begun, shared.readText_eq begun]

theorem build_congr {base : Option Path} (tests : List String)
    (begun : ∀ test ∈ tests, left.start (CoverageIndex.anchored base test) =
      right.start (CoverageIndex.anchored base test))
    (shared : ∀ test ∈ tests, Shared left right (CoverageIndex.anchored base test)) :
    CoverageIndex.build left base tests = CoverageIndex.build right base tests := by
  refine foldlM_congr_of_mem (fun test mem index => ?_) []
  rw [(shared test mem).readText_eq (begun test mem)]

/-- The index is made of the tests that are found and of what they declare. -/
theorem index_of_testsBelow_eq
    (found : testsBelow left r.base r.testRoot (r.convention.testSuffixOf r.testKind) =
      testsBelow right r.base r.testRoot (r.convention.testSuffixOf r.testKind))
    (built : ∀ tests,
      testsBelow left r.base r.testRoot (r.convention.testSuffixOf r.testKind) = .ok tests →
        CoverageIndex.build left r.base tests = CoverageIndex.build right r.base tests) :
    r.index left = r.index right := by
  unfold index
  rw [← found]
  refine congrArg (get >>= ·) (funext fun memory => ?_)
  cases memory with
  | some index => rfl
  | none =>
    cases tests : testsBelow left r.base r.testRoot (r.convention.testSuffixOf r.testKind) with
    | error failure => rfl
    | ok names =>
      have begun : ∀ fs, (do
          let tests ← (Except.ok names : Except Failure (List String))
          let index ← CoverageIndex.build fs r.base tests
          set (some index)
          pure index : Resolving CoverageIndex) = (do
            let index ← CoverageIndex.build fs r.base names
            set (some index)
            pure index) := fun _ => rfl
      rw [begun left, begun right, built names tests]

section

variable (alike : Alike places left right)
  (shared : ∀ path, r.Opens left paths path → Shared left right path)
  (listed : ∀ path, r.Lists left paths path → left.Without places path)

include alike shared listed

theorem index_congr (declared : r.strategy = .declared) : r.index left = r.index right := by
  have found := testsBelow_congr (r.convention.testSuffixOf r.testKind) alike
    (listed _ (.all declared))
  refine index_of_testsBelow_eq found fun tests read => ?_
  exact build_congr tests (fun _ _ => start_congr alike.home _)
    fun test mem => shared _ (.test declared read mem)

theorem testsOfSource_congr {path : String} (mem : path ∈ paths)
    (inside : Lexical.within left.cwd (r.onDisk path).toString r.sourceRoot = true) :
    r.testsOfSource left (r.onDisk path).toString =
      r.testsOfSource right (r.onDisk path).toString := by
  unfold testsOfSource
  cases strategy : r.strategy with
  | structural =>
    unfold counterpart
    rw [alike.cwd_eq]
  | declared =>
    simp only
    rw [sourceClass_congr (start_congr alike.home _) (shared _ (.source strategy mem inside)),
      index_congr alike shared listed strategy]

omit shared in
theorem testsOfDirectory_congr {path : String} (mem : path ∈ paths) :
    r.testsOfDirectory left path (r.onDisk path).toString =
      r.testsOfDirectory right path (r.onDisk path).toString := by
  unfold testsOfDirectory
  rw [← alike.cwd_eq]
  split
  next inside => exact testsBelow_congr _ alike (listed _ (.tests mem inside))
  next =>
    split
    next directory moved => exact testsBelow_congr _ alike (listed _ (.mirrored mem moved))
    next => rfl

theorem testsOf_congr {path : String} (mem : path ∈ paths) :
    r.testsOf left path = r.testsOf right path := by
  unfold testsOf
  simp only
  rw [← alike.isDirectory_eq, testsOfDirectory_congr alike listed mem, ← alike.cwd_eq]
  by_cases inside : Lexical.within left.cwd (r.onDisk path).toString r.sourceRoot = true
  · rw [testsOfSource_congr alike shared listed mem inside]
  · simp only [inside, Bool.false_eq_true, if_false]

/-- The same tests are found in both file systems. -/
theorem resolve_congr : r.resolve left paths = r.resolve right paths := by
  unfold resolve
  refine foldlM_congr_of_mem (fun path mem affected => ?_) []
  rw [testsOf_congr alike shared listed mem]

end

end Resolver

end TestImpact
