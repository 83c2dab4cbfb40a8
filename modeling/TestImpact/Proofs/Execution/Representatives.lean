import Mathlib.Data.Fintype.Basic
import TestImpact.Proofs.Execution.Spellings

/-!
# One representative of each identity

Of the affected tests those are kept at whose position their identity comes up for the first time
(`addUnique_eq_map`). Behind other tests only those are kept that have an identity of their own
(`addUnique_append`), so a list in which no identity comes up twice is kept as it is
(`addUnique_of_nodup`). Main statement: `one_for_each_identity`.
-/

namespace TestImpact.Executor

variable {base : Option Path} {known tests : List String}

/-- The positions at which an identity comes up for the first time. -/
def firstPositions (base : Option Path) (tests : List String) : List (Fin tests.length) :=
  (List.finRange tests.length).filter fun position =>
    ∀ earlier < position, identity base (tests.get earlier) ≠ identity base (tests.get position)

/-- Identities that are known from the beginning are left out in the end. -/
theorem addUnique_eq_filter {both more : List String}
    (split : ∀ key, key ∈ both ↔ key ∈ known ∨ key ∈ more) :
    addUnique base both tests =
      (addUnique base more tests).filter fun test => identity base test ∉ known := by
  induction tests generalizing both more with
  | nil => rfl
  | cons test rest ih =>
    have later : ∀ key, key ∈ both ∨ key = identity base test ↔
        key ∈ known ∨ key ∈ identity base test :: more := by
      intro key
      rw [split, List.mem_cons, or_assoc, or_comm (a := key ∈ more)]
    rw [addUnique, addUnique]
    by_cases met : identity base test ∈ more
    · rw [if_pos (List.contains_iff_mem.2 ((split _).2 (Or.inr met))),
        if_pos (List.contains_iff_mem.2 met)]
      exact ih split
    · rw [if_neg fun listed => met (List.contains_iff_mem.1 listed)]
      by_cases old : identity base test ∈ known
      · have listed := (split _).2 (Or.inl old)
        rw [if_pos (List.contains_iff_mem.2 listed), List.filter_cons_of_neg (by simpa using old)]
        refine ih fun key => ?_
        rw [← later, or_iff_left_of_imp fun same => same ▸ listed]
      · have fresh : identity base test ∉ both := fun listed => ((split _).1 listed).elim old met
        rw [if_neg fun listed => fresh (List.contains_iff_mem.1 listed),
          List.filter_cons_of_pos (by simpa using old)]
        refine congrArg (test :: ·) (ih fun key => ?_)
        rw [← later, List.mem_cons, or_comm]

/-- Behind other tests those are kept that have another identity than all of them. -/
theorem addUnique_append (known front back : List String) :
    addUnique base known (front ++ back) = addUnique base known front ++
      (addUnique base known back).filter fun test =>
        identity base test ∉ front.map (identity base) := by
  induction front generalizing known with
  | nil => simp [addUnique]
  | cons test rest ih =>
    have without : ∀ both : List String,
        (∀ key, key ∈ both ↔ key ∈ [identity base test] ∨ key ∈ known) →
        (addUnique base both back).filter (fun other =>
            identity base other ∉ rest.map (identity base)) =
          (addUnique base known back).filter fun other =>
            identity base other ∉ (test :: rest).map (identity base) := by
      intro both split
      rw [addUnique_eq_filter split, List.filter_filter]
      refine List.filter_congr fun other _ => ?_
      rw [Bool.eq_iff_iff]
      simp [and_comm]
    rw [List.cons_append, addUnique, addUnique]
    split
    next met =>
      rw [ih, without known fun key => ?_]
      rw [List.mem_singleton, or_iff_right_of_imp fun same => same ▸ List.contains_iff_mem.1 met]
    next =>
      rw [ih, without (identity base test :: known) fun key => ?_, List.cons_append]
      rw [List.mem_singleton, List.mem_cons]

/-- Tests with identities of their own are all kept. -/
theorem addUnique_of_nodup (distinct : (tests.map (identity base)).Nodup)
    (fresh : ∀ test ∈ tests, identity base test ∉ known) :
    addUnique base known tests = tests := by
  induction tests generalizing known with
  | nil => rfl
  | cons test rest ih =>
    obtain ⟨fresh, fresh_rest⟩ := List.forall_mem_cons.1 fresh
    rw [List.map_cons, List.nodup_cons] at distinct
    rw [addUnique, if_neg fun listed => fresh (List.contains_iff_mem.1 listed),
      ih distinct.2 fun other mem => ?_]
    rw [List.mem_cons, not_or]
    exact ⟨fun same => distinct.1 (List.mem_map.2 ⟨other, mem, same⟩), fresh_rest other mem⟩

/-- An identity that the head of a list has does not come up for the first time behind it. -/
theorem firstPositions_cons (base : Option Path) (test : String) (rest : List String) :
    firstPositions base (test :: rest) = (0 : Fin (rest.length + 1)) ::
      ((firstPositions base rest).filter fun position =>
        identity base (rest.get position) ∉ [identity base test]).map Fin.succ := by
  have first_iff : ∀ position : Fin rest.length,
      (∀ earlier < position.succ, identity base ((test :: rest).get earlier) ≠
        identity base ((test :: rest).get position.succ)) ↔
      identity base (rest.get position) ∉ [identity base test] ∧ ∀ earlier < position,
        identity base (rest.get earlier) ≠ identity base (rest.get position) := by
    intro position
    simp [Fin.forall_fin_succ, eq_comm]
  unfold firstPositions
  simp only [List.length_cons]
  rw [List.finRange_succ, List.filter_cons_of_pos (by simp), List.filter_map, List.filter_filter]
  refine congrArg (_ :: List.map Fin.succ ·) (List.filter_congr fun position _ => ?_)
  rw [Bool.eq_iff_iff, Function.comp_apply, decide_eq_true_iff, first_iff]
  simp

/-- What is kept stands where its identity comes up for the first time. -/
theorem addUnique_eq_map (tests : List String) :
    addUnique base [] tests = (firstPositions base tests).map tests.get := by
  induction tests with
  | nil => rfl
  | cons test rest ih =>
    have behind : addUnique base [identity base test] rest = (addUnique base [] rest).filter
        fun other => identity base other ∉ [identity base test] :=
      addUnique_eq_filter fun key => by simp
    rw [addUnique, if_neg (by simp), behind, ih, firstPositions_cons, List.map_cons, List.map_map,
      List.filter_map]
    rfl

/-- Of all affected tests those are kept at whose position their identity comes up for the first
time. So no identity is kept twice and none is lost, what was kept is kept again, and of a second
part of the affected tests those are kept behind the first one that it would keep by itself and
whose identity is not affected in the first part. -/
theorem one_for_each_identity (base : Option Path) (affected : Affected) :
    uniqueTests base affected = (firstPositions base (affected.flatMap Prod.snd)).map
        (affected.flatMap Prod.snd).get ∧
    ((uniqueTests base affected).map (identity base)).Nodup ∧
    (∀ test ∈ affected.flatMap Prod.snd, ∃ first ∈ uniqueTests base affected,
      identity base first = identity base test) ∧
    (∀ again : Affected, again.flatMap Prod.snd = uniqueTests base affected →
      uniqueTests base again = uniqueTests base affected) ∧
    ∀ front back, affected = front ++ back →
      uniqueTests base affected = uniqueTests base front ++
        (uniqueTests base back).filter fun test =>
          identity base test ∉ (front.flatMap Prod.snd).map (identity base) := by
  have distinct := (identity_addUnique base [] (affected.flatMap Prod.snd)).1
  refine ⟨addUnique_eq_map _, distinct, fun test mem => ?_, fun again listed => ?_, ?_⟩
  · exact exists_mem_addUnique mem List.not_mem_nil
  · rw [uniqueTests, listed]
    exact addUnique_of_nodup distinct fun _ _ => List.not_mem_nil
  · rintro front back rfl
    rw [uniqueTests, List.flatMap_append, addUnique_append]
    rfl

/-- The small project, affected in a test that is spelled in two ways, and then in another one and
in the first again. -/
def respelled : Affected :=
  [("test", ["test/ATest.php", "/p/test/../test/ATest.php"]),
    ("src", ["test/BTest.php", "./test/ATest.php"])]

/-- The first spelling of each test is kept, also where the tests come in two parts. -/
theorem kept_of_respelled :
    uniqueTests (some SmallProject.layout.root) respelled = ["test/ATest.php", "test/BTest.php"] ∧
      uniqueTests (some SmallProject.layout.root) [("", ["test/ATest.php", "test/BTest.php"])] =
        ["test/ATest.php", "test/BTest.php"] ∧
      identity (some SmallProject.layout.root) "/p/test/../test/ATest.php" =
        identity (some SmallProject.layout.root) "test/ATest.php" := by
  obtain ⟨-, -, kept, again, parts⟩ :=
    one_for_each_identity (some SmallProject.layout.root) respelled
  have first : uniqueTests (some SmallProject.layout.root) (respelled.take 1) =
      ["test/ATest.php"] := by
    decide +kernel
  have second : (uniqueTests (some SmallProject.layout.root) (respelled.drop 1)).filter (fun test =>
      identity (some SmallProject.layout.root) test ∉ ((respelled.take 1).flatMap Prod.snd).map
        (identity (some SmallProject.layout.root))) = ["test/BTest.php"] := by
    decide +kernel
  have whole := parts (respelled.take 1) (respelled.drop 1) (List.take_append_drop 1 _).symm
  rw [first, second] at whole
  have listed : [("", ["test/ATest.php", "test/BTest.php"])].flatMap Prod.snd =
      uniqueTests (some SmallProject.layout.root) respelled := whole.symm
  refine ⟨whole, (again _ listed).trans whole, ?_⟩
  obtain ⟨test, mem, same⟩ := kept "/p/test/../test/ATest.php" (by decide)
  rw [whole] at mem
  rcases List.mem_cons.1 mem with rfl | mem
  · exact same.symm
  · obtain rfl := List.mem_singleton.1 mem
    exact absurd same (by decide +kernel)

end TestImpact.Executor
