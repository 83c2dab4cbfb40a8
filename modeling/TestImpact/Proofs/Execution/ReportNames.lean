import TestImpact.Proofs.Execution.Plan
import TestImpact.Proofs.SmallProject

/-!
# Which test files share their reports

The name of a report begins with a stem, which may be any text that is free of separators and may
itself look like a stem with a digest. But what stands behind the stem has one length for all test
files, so the name is read from its end: two names are equal exactly if both the stems and the
digits are (`fileNameWith_eq_iff`). The directories of JUnit and of Clover reports keep the two
kinds apart. Main statement: `collide_only_by_digest`.
-/

namespace TestImpact.ReportPlace

variable {digest : Digest} {place : ReportPlace} {left right : String}

/-! ## The name, read from its end -/

theorem length_ending (digest : Digest) (testPath : String) :
    ('-' :: (digest.digits testPath).take digestLength ++ ".xml".toList).length =
      1 + digestLength + 4 := by
  have enough : digestLength ≤ 32 := by decide
  have digits : ((digest.digits testPath).take digestLength).length = digestLength := by
    rw [List.length_take, digest.length_digits, Nat.min_eq_left enough]
  rw [List.length_append, List.length_cons, digits, Nat.add_comm digestLength]
  rfl

theorem fileNameWith_eq_iff : fileNameWith digest left = fileNameWith digest right ↔
    stem (lastSegment left) = stem (lastSegment right) ∧
      (digest.digits left).take digestLength = (digest.digits right).take digestLength := by
  constructor
  · intro same
    rw [← String.toList_inj, toList_fileNameWith, toList_fileNameWith] at same
    obtain ⟨stems, endings⟩ := List.append_inj' same
      ((length_ending digest left).trans (length_ending digest right).symm)
    exact ⟨stems, (List.cons.inj (List.append_cancel_right endings)).2⟩
  · rintro ⟨stems, digits⟩
    rw [fileNameWith, stems, digits, fileNameWith]

/-- Only the digests tell test files of one name apart. -/
example : fileName "a/ATest.php" = "ATest-ccdb91ab.xml" ∧
    fileName "b/ATest.php" = "ATest-b63cc12c.xml" := by
  decide +kernel

/-! ## Reports of two names -/

theorem junitDirectory_eq (place : ReportPlace) :
    place.junitDirectory = place.directory.child "junit" :=
  Path.div_of_isSegment _ ⟨by decide, by decide, by decide⟩

theorem cloverDirectory_eq (place : ReportPlace) :
    place.cloverDirectory = place.directory.child "clover" :=
  Path.div_of_isSegment _ ⟨by decide, by decide, by decide⟩

variable {name other : String} {path : Path}

theorem named_inj : place.named name = place.named other ↔ name = other := by
  constructor
  · exact fun same => Path.child_inj.1 (congrArg Outputs.junit same)
  · rintro rfl
    rfl

theorem junit_ne_clover (listed : path ∈ (place.named other).clover.toList) :
    (place.named name).junit ≠ path := by
  rw [eq_of_clover_named (Option.mem_toList.1 listed)]
  intro same
  rw [named, junitDirectory_eq, cloverDirectory_eq] at same
  simp [Path.child] at same

/-- Two names under which one file lies are one. -/
theorem eq_of_common (here : path ∈ (place.named name).paths)
    (there : path ∈ (place.named other).paths) : name = other := by
  rcases List.mem_cons.1 here with junit | clover <;>
    rcases List.mem_cons.1 there with junit' | clover'
  · exact Path.child_inj.1 (junit.symm.trans junit')
  · exact absurd junit.symm (junit_ne_clover clover')
  · exact absurd junit'.symm (junit_ne_clover clover)
  · exact Path.child_inj.1 ((eq_of_clover_named (Option.mem_toList.1 clover)).symm.trans
      (eq_of_clover_named (Option.mem_toList.1 clover')))

/-! ## Two test files -/

/-- What is allocated for a test file lies right inside the two directories, whatever the path of
the test file spells. No JUnit report is a Clover report, and two test files have the same reports
exactly if the names without their extensions and the first eight digits of the digests of the
paths are equal. Else they have no report in common. -/
theorem collide_only_by_digest (place : ReportPlace) :
    (∀ testPath, place.allocate testPath = place.allocateWith .md5 testPath) ∧
      ∀ (digest : Digest) (left right : String) (one other : Outputs)
        (before after before' after' : World),
        (place.allocateWith digest left).Returns before one after →
        (place.allocateWith digest right).Returns before' other after' →
        (∀ outputs ∈ [one, other], ∃ name, Lexical.IsFileName name ∧
          outputs.junit = (place.directory.child "junit").child name ∧
          outputs.clover = if place.coverage
            then some ((place.directory.child "clover").child name) else none) ∧
        (∀ junit ∈ [one.junit, other.junit],
          ∀ clover ∈ one.clover.toList ++ other.clover.toList, junit ≠ clover) ∧
        (one = other ↔ stem (lastSegment left) = stem (lastSegment right) ∧
          (digest.digits left).take 8 = (digest.digits right).take 8) ∧
        ((∃ path ∈ one.paths, path ∈ other.paths) → one = other) := by
  refine ⟨allocateWith_md5 place, ?_⟩
  intro digest left right one other before after before' after' first second
  obtain rfl := Executor.returns_allocateWith first
  obtain rfl := Executor.returns_allocateWith second
  rw [outputsWith_eq, outputsWith_eq, named_inj, fileNameWith_eq_iff, ← junitDirectory_eq,
    ← cloverDirectory_eq]
  refine ⟨?_, ?_, Iff.rfl, ?_⟩
  · intro outputs mem
    rcases List.mem_pair.1 mem with rfl | rfl
    · exact ⟨_, isFileName_fileNameWith digest left, rfl, rfl⟩
    · exact ⟨_, isFileName_fileNameWith digest right, rfl, rfl⟩
  · intro junit mem clover listed
    rcases List.mem_pair.1 mem with rfl | rfl <;> rcases List.mem_append.1 listed with mine | theirs
    · exact junit_ne_clover mine
    · exact junit_ne_clover theirs
    · exact junit_ne_clover mine
    · exact junit_ne_clover theirs
  · rintro ⟨path, here, there⟩
    exact fileNameWith_eq_iff.1 (eq_of_common here there)

/-- Where the small project leaves its reports when coverage is on. -/
def covered : ReportPlace :=
  ⟨Path.ofString "/p/reports", true⟩

/-- Two test files of one name whose digests begin alike have the same reports, and a path that is
spelled with backslashes has other ones. -/
theorem shared_by_digest :
    ∃ one other spelled after after' after'',
      (covered.allocate "test/113106/ATest.php").Returns SmallProject.world one after ∧
      (covered.allocate "test/116815/ATest.php").Returns SmallProject.world other after' ∧
      (covered.allocate "test\\113106\\ATest.php").Returns SmallProject.world spelled after'' ∧
      one = other ∧ one ≠ spelled := by
  have made : ∀ testPath, (covered.allocate testPath).returnsSome SmallProject.world
      (fun _ => true) = true →
      ∃ outputs after, (covered.allocate testPath).Returns SmallProject.world outputs after := by
    intro testPath evaluated
    obtain ⟨outputs, after, returned, -⟩ := Action.exists_of_returnsSome evaluated
    exact ⟨outputs, after, returned⟩
  obtain ⟨one, after, first⟩ := made "test/113106/ATest.php" (by decide +kernel)
  obtain ⟨other, after', second⟩ := made "test/116815/ATest.php" (by decide +kernel)
  obtain ⟨spelled, after'', third⟩ := made "test\\113106\\ATest.php" (by decide +kernel)
  obtain ⟨same, named⟩ := collide_only_by_digest covered
  rw [same] at first second third
  obtain ⟨-, -, shared, -⟩ := named .md5 _ _ _ _ _ _ _ _ first second
  obtain ⟨-, -, differs, -⟩ := named .md5 _ _ _ _ _ _ _ _ first third
  rw [← same] at first second third
  refine ⟨one, other, spelled, after, after', after'', first, second, third, ?_, ?_⟩
  · exact shared.2 (by decide +kernel)
  · exact fun equal => absurd (differs.1 equal) (by decide +kernel)

end TestImpact.ReportPlace
