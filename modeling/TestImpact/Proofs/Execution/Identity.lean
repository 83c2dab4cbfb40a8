import Mathlib.Data.List.Perm.Subperm
import TestImpact.Proofs.Execution.Spellings

/-!
# Identities and places

Planning compares test files by their identity, which keeps two leading slashes apart from one,
and the arithmetic on paths by their absolute form, which does not. Both take the same `..` away
(`identity_eq`, `absolute_eq`), so they tell the same spellings apart but for their anchors
(`identity_eq_iff`): a file is planned once under each anchor that its spellings have, which is
twice at the most. Main statement: `planned_once_under_each_anchor`.
-/

namespace TestImpact.Executor

variable {base : Path} {test left right : String}

/-! ## Two canonical forms of one spelling -/

/-- A test file behind its anchor, with every `..` and the segment before it taken away. -/
def placed (base : Path) (test : String) : Path :=
  ⟨(located (some base) test).anchor, Lexical.collapse true (located (some base) test).parts⟩

theorem proper_located (proper : base.Proper) (test : String) :
    (located (some base) test).Proper :=
  proper.div (Path.proper_ofString test)

theorem proper_placed (proper : base.Proper) (test : String) : (placed base test).Proper :=
  Lexical.proper_collapse (proper_located proper test)

theorem isAbsolute_placed (absolute : base.isAbsolute = true) (test : String) :
    (placed base test).isAbsolute = true :=
  Path.isAbsolute_div absolute (Path.ofString test)

theorem identity_eq (absolute : base.isAbsolute = true) (proper : base.Proper) (test : String) :
    identity (some base) test = (placed base test).toString := by
  have anchored : (located (some base) test).anchor ≠ .relative :=
    of_decide_eq_true (isAbsolute_placed absolute test)
  rw [identity, Lexical.normalise_eq, Lexical.normalPath,
    Path.anchorOf_toString (proper_located proper test),
    Path.segments_toString (proper_located proper test), decide_eq_true anchored]
  rfl

/-- The text that is made absolute has the segments of the test file as it is located. -/
theorem segments_anchored (proper : base.Proper) (driveless : Lexical.hasDrive test = false) :
    Path.segments (Lexical.anchored base.toString test) = (located (some base) test).parts := by
  rw [Lexical.anchored, located]
  by_cases slash : test.toList.head? = some '/'
  · have absolute : (Path.ofString test).isAbsolute = true :=
      Lexical.isAbsolute_ofString slash
    rw [if_pos (by simp [Lexical.isRooted, slash]), Path.div_eq_of_isAbsolute absolute,
      Path.parts_ofString]
  · have relative : (Path.ofString test).isAbsolute = false :=
      Bool.eq_false_iff.2 fun absolute => slash (Path.head?_of_isAbsolute absolute)
    rw [if_neg (by simp [Lexical.isRooted, slash, driveless]), Path.segments_append_slash,
      Lexical.segments_withoutTrailingSlashes, Path.segments_toString proper,
      Path.div_eq_of_relative relative, Path.parts_ofString]

/-- The absolute form is the same place behind a single slash. -/
theorem absolute_eq (absolute : base.isAbsolute = true) (proper : base.Proper)
    (driveless : Lexical.hasDrive test = false) :
    Lexical.absolute test base.toString = (⟨.root, (placed base test).parts⟩ : Path).toString := by
  rw [Lexical.absolute_eq,
    Lexical.placeOf_of_driveless (Lexical.head?_toString_of_isAbsolute absolute) driveless,
    segments_anchored proper driveless]
  rfl

/-- Spellings of one identity are spellings of one place behind the same anchor. -/
theorem identity_eq_iff (absolute : base.isAbsolute = true) (proper : base.Proper)
    (driveless : Lexical.hasDrive left = false) (driveless' : Lexical.hasDrive right = false) :
    identity (some base) left = identity (some base) right ↔
      Lexical.absolute left base.toString = Lexical.absolute right base.toString ∧
        (located (some base) left).anchor = (located (some base) right).anchor := by
  have single : ∀ test, (⟨.root, (placed base test).parts⟩ : Path).Proper :=
    fun test => proper_placed proper test
  rw [identity_eq absolute proper, identity_eq absolute proper,
    Path.toString_inj (proper_placed proper left) (proper_placed proper right),
    absolute_eq absolute proper driveless, absolute_eq absolute proper driveless',
    Path.toString_inj (single left) (single right), Path.mk.injEq, Path.mk.injEq, and_comm]
  simp [placed]

/-! ## Jobs of one place -/

variable {executor : Executor} {affected : Affected} {before after : World} {jobs : List Job}

/-- The jobs that run the test file at a place. -/
def jobsAt (base : Path) (place : String) (jobs : List Job) : List Job :=
  jobs.filter fun job => Lexical.absolute job.testPath base.toString = place

theorem mem_affected_of_plan (returned : (executor.plan affected).Returns before jobs after)
    {job : Job} (mem : job ∈ jobs) : job.testPath ∈ affected.flatMap Prod.snd :=
  mem_of_mem_uniqueTests <|
    (returns_planTests (returns_plan returned).2).1.subset (List.mem_map.2 ⟨job, mem, rfl⟩)

/-- No two planned jobs have the same identity. -/
theorem nodup_identities (returned : (executor.plan affected).Returns before jobs after) :
    (jobs.map fun job => identity executor.base job.testPath).Nodup := by
  have below := (returns_planTests (returns_plan returned).2).1.map (identity executor.base)
  rw [List.map_map] at below
  exact (identity_addUnique executor.base [] _).1.sublist below

/-- Planned jobs that run the same test file have spellings with different anchors. -/
theorem pairwise_anchors (absolute : base.isAbsolute = true) (proper : base.Proper)
    (based : executor.base = some base)
    (driveless : ∀ test ∈ affected.flatMap Prod.snd, Lexical.hasDrive test = false)
    (returned : (executor.plan affected).Returns before jobs after) :
    jobs.Pairwise fun job other =>
      Lexical.absolute job.testPath base.toString = Lexical.absolute other.testPath base.toString →
        (located (some base) job.testPath).anchor ≠ (located (some base) other.testPath).anchor := by
  have distinct := nodup_identities returned
  rw [based, List.Nodup, List.pairwise_map] at distinct
  refine distinct.imp_of_mem fun {job other} mem mem' differ place anchor => differ ?_
  exact (identity_eq_iff absolute proper (driveless _ (mem_affected_of_plan returned mem))
    (driveless _ (mem_affected_of_plan returned mem'))).2 ⟨place, anchor⟩

theorem nodup_anchors (apart : jobs.Pairwise fun job other =>
      Lexical.absolute job.testPath base.toString = Lexical.absolute other.testPath base.toString →
        (located (some base) job.testPath).anchor ≠ (located (some base) other.testPath).anchor)
    (place : String) :
    ((jobsAt base place jobs).map fun job => (located (some base) job.testPath).anchor).Nodup := by
  rw [List.Nodup, List.pairwise_map]
  refine (apart.sublist List.filter_sublist).imp_of_mem fun {job other} mem mem' differ =>
    differ ?_
  have here := of_decide_eq_true (List.mem_filter.1 mem).2
  have here' := of_decide_eq_true (List.mem_filter.1 mem').2
  exact here.trans here'.symm

/-- A place has two anchors at the most, since none of its spellings is relative. -/
theorem length_jobsAt_le (absolute : base.isAbsolute = true) {place : String}
    (distinct : ((jobsAt base place jobs).map fun job =>
      (located (some base) job.testPath).anchor).Nodup) : (jobsAt base place jobs).length ≤ 2 := by
  have among : ((jobsAt base place jobs).map fun job => (located (some base) job.testPath).anchor) ⊆
      [.root, .doubleRoot] := by
    intro anchor mem
    obtain ⟨job, -, rfl⟩ := List.mem_map.1 mem
    have anchored : (located (some base) job.testPath).anchor ≠ .relative :=
      of_decide_eq_true (isAbsolute_placed absolute job.testPath)
    cases anchor : (located (some base) job.testPath).anchor with
    | relative => exact absurd anchor anchored
    | root => exact List.mem_cons_self
    | doubleRoot => exact List.mem_cons_of_mem _ List.mem_cons_self
  simpa using (List.subperm_of_subset distinct among).length_le

/-- Two spellings of a test file have the same identity exactly if they have the same absolute form
and the same anchor, which is that of the base directory for a relative one. So planning makes one
job of a file for each anchor that its spellings have, two at the most, and one alone where all
affected tests have the same. -/
theorem planned_once_under_each_anchor (absolute : base.isAbsolute = true) (proper : base.Proper) :
    (∀ left right, Lexical.hasDrive left = false → Lexical.hasDrive right = false →
      (identity (some base) left = identity (some base) right ↔
        Lexical.absolute left base.toString = Lexical.absolute right base.toString ∧
          (located (some base) left).anchor = (located (some base) right).anchor)) ∧
    ∀ (executor : Executor) (affected : Affected) (before : World) (jobs : List Job)
        (after : World), executor.base = some base →
      (∀ test ∈ affected.flatMap Prod.snd, Lexical.hasDrive test = false) →
      (executor.plan affected).Returns before jobs after →
      (∀ place, ((jobsAt base place jobs).map fun job =>
          (located (some base) job.testPath).anchor).Nodup ∧ (jobsAt base place jobs).length ≤ 2) ∧
      ∀ anchor, (∀ test ∈ affected.flatMap Prod.snd, (located (some base) test).anchor = anchor) →
        (jobs.map fun job => Lexical.absolute job.testPath base.toString).Nodup := by
  refine ⟨fun left right driveless driveless' =>
    identity_eq_iff absolute proper driveless driveless', ?_⟩
  intro executor affected before jobs after based driveless returned
  have apart := pairwise_anchors absolute proper based driveless returned
  constructor
  · intro place
    exact ⟨nodup_anchors apart place, length_jobsAt_le absolute (nodup_anchors apart place)⟩
  · intro anchor alike
    rw [List.Nodup, List.pairwise_map]
    refine apart.imp_of_mem fun {job other} mem mem' differ place => differ place ?_
    rw [alike _ (mem_affected_of_plan returned mem), alike _ (mem_affected_of_plan returned mem')]

/-- The small project, affected in a test that is spelled with one leading slash and with two. -/
def twoRooted : Affected :=
  [("test", ["/p/test/ATest.php", "//p/test/ATest.php"])]

/-- The one test file of the project is planned twice. -/
theorem planned_under_both_anchors :
    identity (some SmallProject.layout.root) "//p/test/ATest.php" ≠
      identity (some SmallProject.layout.root) "/p/test/ATest.php" ∧
    ∃ jobs after,
      ((SmallProject.engine "").executor.plan twoRooted).Returns SmallProject.world jobs after ∧
      (jobsAt SmallProject.layout.root "/p/test/ATest.php" jobs).length = 2 := by
  obtain ⟨identical, planned⟩ := @planned_once_under_each_anchor SmallProject.layout.root
    (by decide +kernel) (Path.proper_ofString "/p")
  constructor
  · intro same
    have anchors := ((identical _ _ (by decide +kernel) (by decide +kernel)).1 same).2
    exact absurd anchors (by decide +kernel)
  · have evaluated : ((SmallProject.engine "").executor.plan twoRooted).returnsSome
        SmallProject.world (fun jobs =>
          2 ≤ (jobsAt SmallProject.layout.root "/p/test/ATest.php" jobs).length) = true := by
      decide +kernel
    obtain ⟨jobs, after, returned, twice⟩ := Action.exists_of_returnsSome evaluated
    obtain ⟨places, -⟩ := planned _ _ _ _ _ rfl (by decide +kernel) returned
    exact ⟨jobs, after, returned, Nat.le_antisymm (places _).2 (of_decide_eq_true twice)⟩

end TestImpact.Executor
