import TestImpact.Proofs.Discovery.Inputs
import TestImpact.Proofs.Discovery.Naming
import TestImpact.Proofs.FileSystem.Standing

/-!
# The search for affected tests from another working directory

Where the base directory and both roots are named from the root (`Resolver.Rooted`), every path
that is asked for is, too: changed paths start at the base directory, and what is moved to the
other tree or renamed keeps its first slash. So the working directory does not matter, by whichever
strategy the tests are found (`Resolver.resolve_seenFrom`).
-/

namespace TestImpact

variable {fs : FileSystem} {home : Location}

theorem testsBelow_seenFrom {base : Option Path} {directory : String} (suffix : String)
    (absolute : (CoverageIndex.anchored base directory).isAbsolute = true) :
    testsBelow (fs.seenFrom home) base directory suffix = testsBelow fs base directory suffix :=
  testsBelow_of_locate_eq suffix (FileSystem.locate_seenFrom absolute)
    fun location _ => FileSystem.filesBelow_seenFrom location

namespace Resolver

variable {r : Resolver} {path place : String}

/-- The places of a resolver are named from the root. -/
structure Rooted (r : Resolver) : Prop where
  based : ∃ base, r.base = some base ∧ base.isAbsolute = true
  source : r.sourceRoot.toList.head? = some '/'
  test : r.testRoot.toList.head? = some '/'

namespace Rooted

variable (rooted : r.Rooted)

include rooted

theorem isAbsolute_onDisk (path : String) : (r.onDisk path).isAbsolute = true := by
  obtain ⟨base, based, absolute⟩ := rooted.based
  rw [onDisk, based]
  exact Path.isAbsolute_div absolute _

theorem head?_place (path : String) : (r.onDisk path).toString.toList.head? = some '/' :=
  Lexical.head?_toString_of_isAbsolute (rooted.isAbsolute_onDisk path)

end Rooted

theorem index_seenFrom (rooted : r.Rooted) : r.index (fs.seenFrom home) = r.index fs := by
  refine index_of_testsBelow_eq (testsBelow_seenFrom _ (rooted.isAbsolute_onDisk _))
    fun tests _ => (build_congr tests (fun test _ => ?_) fun test _ => ?_).symm
  · exact FileSystem.start_seenFrom (rooted.isAbsolute_onDisk test)
  · exact fs.shared_seenFrom home _

theorem counterpart_seenFrom (source : r.sourceRoot.toList.head? = some '/')
    (slash : place.toList.head? = some '/') :
    r.counterpart (fs.seenFrom home) place = r.counterpart fs place := by
  unfold counterpart
  simp only
  rw [Lexical.transplant?_of_slash (fs.seenFrom home).cwd fs.cwd r.testRoot
    (Convention.head?_counterpart r.convention slash) source]

theorem testsOfSource_seenFrom (rooted : r.Rooted) (slash : place.toList.head? = some '/') :
    r.testsOfSource (fs.seenFrom home) place = r.testsOfSource fs place := by
  unfold testsOfSource
  cases r.strategy with
  | structural =>
    simp only
    rw [counterpart_seenFrom rooted.source slash]
  | declared =>
    have absolute : (Path.ofString place).isAbsolute = true :=
      Lexical.isAbsolute_ofString slash
    simp only
    rw [index_seenFrom rooted, ← sourceClass_congr (FileSystem.start_seenFrom absolute)
      (fs.shared_seenFrom home _)]

theorem testsOfDirectory_seenFrom (rooted : r.Rooted) (path : String)
    (slash : place.toList.head? = some '/') :
    r.testsOfDirectory (fs.seenFrom home) path place = r.testsOfDirectory fs path place := by
  unfold testsOfDirectory
  rw [Lexical.within_of_slash (fs.seenFrom home).cwd fs.cwd slash rooted.test,
    Lexical.transplant?_of_slash (fs.seenFrom home).cwd fs.cwd r.testRoot slash rooted.source,
    testsBelow_seenFrom _ (rooted.isAbsolute_onDisk path)]
  cases moved : Lexical.transplant? fs.cwd place r.sourceRoot r.testRoot with
  | none => rfl
  | some directory =>
    have begins := Lexical.head?_of_transplant? rooted.test moved
    have absolute : (CoverageIndex.anchored none directory).isAbsolute = true :=
      Lexical.isAbsolute_ofString begins
    simp only
    rw [testsBelow_seenFrom _ absolute]

theorem testsOf_seenFrom (rooted : r.Rooted) (path : String) :
    r.testsOf (fs.seenFrom home) path = r.testsOf fs path := by
  have slash := rooted.head?_place path
  unfold testsOf
  simp only
  rw [FileSystem.isDirectory_seenFrom (rooted.isAbsolute_onDisk path),
    testsOfDirectory_seenFrom rooted path slash, testsOfSource_seenFrom rooted slash,
    Lexical.within_of_slash (fs.seenFrom home).cwd fs.cwd slash rooted.test,
    Lexical.within_of_slash (fs.seenFrom home).cwd fs.cwd slash rooted.source]

/-- The same tests are found from every working directory, and the same is remembered. -/
theorem resolve_seenFrom (rooted : r.Rooted) (paths : List String) :
    r.resolve (fs.seenFrom home) paths = r.resolve fs paths := by
  unfold resolve
  simp only [testsOf_seenFrom rooted]

end Resolver

end TestImpact
