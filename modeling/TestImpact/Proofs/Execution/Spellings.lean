import TestImpact.Proofs.Execution.Plan
import TestImpact.Proofs.Path.Lexical
import TestImpact.Proofs.SmallProject

/-!
# Spellings of affected tests

Of the spellings of one test file only the first is kept (`mem_uniqueTests_iff`), and the file
system is asked about that one, after room has been made for the reports of the tests before it
(`exists_asked`). Where a spelling leads through a directory that is not there, the test is lost
although another spelling leads to it (`lost_behind_detour`). Main statement:
`planned_by_first_spelling`.
-/

namespace TestImpact.Executor

variable {executor : Executor} {before between after : World} {base : Option Path}

/-! ## The spelling met first -/

/-- The spelling met first is the head of a list, or it comes first behind a head with another
identity. -/
theorem exists_split_cons_iff {test first : String} {rest : List String} :
    (∃ earlier later, test :: rest = earlier ++ first :: later ∧
        ∀ other ∈ earlier, identity base other ≠ identity base first) ↔
      first = test ∨ identity base test ≠ identity base first ∧
        ∃ earlier later, rest = earlier ++ first :: later ∧
          ∀ other ∈ earlier, identity base other ≠ identity base first := by
  constructor
  · rintro ⟨earlier, later, split, differ⟩
    cases earlier with
    | nil =>
      cases split
      exact Or.inl rfl
    | cons other earlier =>
      cases split
      obtain ⟨apart, differ⟩ := List.forall_mem_cons.1 differ
      exact Or.inr ⟨apart, earlier, later, rfl, differ⟩
  · rintro (rfl | ⟨apart, earlier, later, rfl, differ⟩)
    · exact ⟨[], rest, rfl, fun _ mem => nomatch mem⟩
    · exact ⟨test :: earlier, later, rfl, List.forall_mem_cons.2 ⟨apart, differ⟩⟩

/-- A test that goes on the list has an identity that is not known and was not met before. -/
theorem mem_addUnique_iff {known tests : List String} {first : String} :
    first ∈ addUnique base known tests ↔
      identity base first ∉ known ∧
        ∃ earlier later, tests = earlier ++ first :: later ∧
          ∀ other ∈ earlier, identity base other ≠ identity base first := by
  induction tests generalizing known with
  | nil =>
    constructor
    · exact fun mem => nomatch mem
    · rintro ⟨-, earlier, later, split, -⟩
      cases earlier <;> cases split
  | cons test rest ih =>
    rw [addUnique, exists_split_cons_iff]
    split
    next met =>
      have met : identity base test ∈ known := List.contains_iff_mem.1 met
      rw [ih]
      refine and_congr_right fun fresh => ?_
      have apart : identity base test ≠ identity base first := fun same => fresh (same ▸ met)
      have differs : first ≠ test := fun same => apart (same ▸ rfl)
      rw [or_iff_right differs, and_iff_right apart]
    next unmet =>
      have unmet : identity base test ∉ known := fun met => unmet (List.contains_iff_mem.2 met)
      rw [List.mem_cons, ih, List.mem_cons, not_or]
      constructor
      · rintro (rfl | ⟨⟨apart, fresh⟩, behind⟩)
        · exact ⟨unmet, Or.inl rfl⟩
        · exact ⟨fresh, Or.inr ⟨Ne.symm apart, behind⟩⟩
      · rintro ⟨fresh, rfl | ⟨apart, behind⟩⟩
        · exact Or.inl rfl
        · exact Or.inr ⟨⟨Ne.symm apart, fresh⟩, behind⟩

theorem exists_mem_addUnique {known tests : List String} {test : String} (mem : test ∈ tests)
    (fresh : identity base test ∉ known) :
    ∃ first ∈ addUnique base known tests, identity base first = identity base test := by
  induction tests generalizing known with
  | nil => cases mem
  | cons other rest ih =>
    rw [addUnique]
    split
    next met =>
      rcases List.mem_cons.1 mem with rfl | mem
      · exact absurd (List.contains_iff_mem.1 met) fresh
      · exact ih mem fresh
    next =>
      by_cases same : identity base other = identity base test
      · exact ⟨other, List.mem_cons_self, same⟩
      · have later : test ∈ rest := (List.mem_cons.1 mem).resolve_left fun alike =>
          same (alike ▸ rfl)
        have unknown : identity base test ∉ identity base other :: known := by
          rw [List.mem_cons, not_or]
          exact ⟨Ne.symm same, fresh⟩
        obtain ⟨first, listed, alike⟩ := ih later unknown
        exact ⟨first, List.mem_cons_of_mem _ listed, alike⟩

/-! ## One test after the other -/

theorem planTests_append (executor : Executor) (front back : List String) :
    executor.planTests (front ++ back) =
      executor.planTests front >>= fun made => (made ++ ·) <$> executor.planTests back := by
  induction front with
  | nil => simp [planTests]
  | cons test rest ih =>
    simp only [List.cons_append, planTests, bind_assoc, ih]
    congr 1
    funext found
    cases found <;> simp

/-- On the way through a list without repetitions, each test is asked for after those before it,
and has a job exactly if it is found. -/
theorem returns_planTests_at {passed later : List String} {first : String} {jobs : List Job}
    (distinct : (passed ++ first :: later).Nodup)
    (returned : (executor.planTests (passed ++ first :: later)).Returns before jobs after) :
    ∃ made between found, (executor.planTests passed).Returns before made between ∧
      between.files.isFile (located executor.base first) = .ok found ∧
      (found = true ↔ ∃ job ∈ jobs, job.testPath = first) := by
  rw [planTests_append, Action.returns_bind] at returned
  obtain ⟨made, between, passed_made, returned⟩ := returned
  obtain ⟨rest, rest_made, rfl⟩ := Action.returns_map.1 returned
  have apart : first ∉ passed ∧ first ∉ later := by
    rw [List.nodup_append, List.nodup_cons] at distinct
    exact ⟨fun mem => distinct.2.2 first mem first List.mem_cons_self rfl, distinct.2.1.1⟩
  have none_of : ∀ {tests : List String} {some : List Job}, (some.map Job.testPath).Sublist tests →
      first ∉ tests → ∀ job ∈ some, job.testPath ≠ first := by
    rintro tests some below absent job mem rfl
    exact absent (below.subset (List.mem_map.2 ⟨job, mem, rfl⟩))
  have none_passed := none_of (returns_planTests passed_made).1 apart.1
  rw [planTests, Action.returns_bind] at rest_made
  obtain ⟨found, start, asked, rest_made⟩ := rest_made
  obtain ⟨asked, rfl⟩ := Action.returns_ask.1 asked
  refine ⟨made, start, found, passed_made, asked, ?_⟩
  cases found with
  | false =>
    have none_later := none_of (returns_planTests rest_made).1 apart.2
    refine iff_of_false Bool.false_ne_true ?_
    rintro ⟨job, mem, same⟩
    rcases List.mem_append.1 mem with mem | mem
    · exact none_passed job mem same
    · exact none_later job mem same
  | true =>
    obtain ⟨job, _, job_made, rest_made⟩ := Action.returns_bind.1 rest_made
    obtain ⟨others, _, -, ended⟩ := Action.returns_bind.1 rest_made
    obtain ⟨rfl, -⟩ := Action.returns_pure.1 ended
    exact iff_of_true rfl ⟨job, by simp, (returns_jobOf job_made).1⟩

/-! ## Planning that fails -/

/-- An action that fails only where the file system refuses something. -/
def OnlyFaults {α : Type} (action : Action α) : Prop :=
  ∀ before raised after, action.Fails before raised after → ∃ fault, raised = ⟨.file fault, []⟩

theorem composes_onlyFaults : Action.Composes fun _ => OnlyFaults where
  ofPure _ := fun _ _ _ failed => absurd failed Action.not_fails_pure
  ofBind first later := by
    intro before raised after failed
    rcases Action.fails_bind.1 failed with failed | ⟨a, between, returned, failed⟩
    · exact first _ _ _ failed
    · exact later a before between returned _ _ _ failed

theorem onlyFaults_change (operation : FileSystem → Except Fault FileSystem) :
    OnlyFaults (Action.change operation) := by
  refine composes_onlyFaults.ofBind (fun _ _ _ failed => ?_) fun files _ _ _ _ _ _ failed =>
    absurd failed Action.not_fails_modify
  obtain ⟨fault, -, raised, -⟩ := Action.fails_ask.1 failed
  exact ⟨fault, raised⟩

theorem onlyFaults_jobOf (executor : Executor) (testPath : String) :
    OnlyFaults (executor.jobOf testPath) := by
  apply composes_onlyFaults.jobOf
  exact ⟨fun _ _ => onlyFaults_change _, fun _ _ => onlyFaults_change _,
    fun _ _ => onlyFaults_change _⟩

/-- The file system refuses to say whether a test is there, or to make room for its reports. -/
def Refuses (executor : Executor) (testPath : String) (before : World) (fault : Fault) : Prop :=
  before.files.isFile (located executor.base testPath) = .error fault ∨
    before.files.isFile (located executor.base testPath) = .ok true ∧
      ∃ after, (executor.jobOf testPath).Fails before ⟨.file fault, []⟩ after

/-- Planning fails at the first test at which the file system refuses something. -/
theorem fails_planTests {tests : List String} {raised : Raised}
    (failed : (executor.planTests tests).Fails before raised after) :
    ∃ passed first later made between fault, tests = passed ++ first :: later ∧
      (executor.planTests passed).Returns before made between ∧
      executor.Refuses first between fault ∧ raised = ⟨.file fault, []⟩ := by
  induction tests generalizing before with
  | nil => exact absurd failed Action.not_fails_pure
  | cons test rest ih =>
    rw [planTests] at failed
    rcases Action.fails_bind.1 failed with failed | ⟨found, start, asked, failed⟩
    · obtain ⟨fault, refused, rfl, -⟩ := Action.fails_ask.1 failed
      exact ⟨[], test, rest, [], before, fault, rfl, Action.returns_pure.2 ⟨rfl, rfl⟩,
        Or.inl refused, rfl⟩
    · obtain ⟨there, rfl⟩ := Action.returns_ask.1 asked
      cases found with
      | false =>
        obtain ⟨passed, first, later, made, between, fault, rfl, went, refused, rfl⟩ := ih failed
        refine ⟨test :: passed, first, later, made, between, fault, rfl, ?_, refused, rfl⟩
        exact Action.returns_bind.2 ⟨false, start, asked, went⟩
      | true =>
        rcases Action.fails_bind.1 failed with failed | ⟨job, next, job_made, failed⟩
        · obtain ⟨fault, rfl⟩ := onlyFaults_jobOf executor test _ _ _ failed
          exact ⟨[], test, rest, [], start, fault, rfl, Action.returns_pure.2 ⟨rfl, rfl⟩,
            Or.inr ⟨there, after, failed⟩, rfl⟩
        · rcases Action.fails_bind.1 failed with failed | ⟨others, stop, -, failed⟩
          · obtain ⟨passed, first, later, made, between, fault, rfl, went, refused, rfl⟩ :=
              ih failed
            refine ⟨test :: passed, first, later, job :: made, between, fault, rfl, ?_, refused,
              rfl⟩
            refine Action.returns_bind.2 ⟨true, start, asked, ?_⟩
            refine Action.returns_bind.2 ⟨job, next, job_made, ?_⟩
            exact Action.returns_bind.2 ⟨made, between, went, Action.returns_pure.2 ⟨rfl, rfl⟩⟩
          · exact absurd failed Action.not_fails_pure

/-! ## Tests that are planned -/

variable {affected : Affected} {jobs : List Job} {test : String}

/-- The spelling of a test that is met first leads to a file when planning comes to it. -/
def FirstFound (executor : Executor) (affected : Affected) (before : World) (test : String) :
    Prop :=
  ∃ passed first later made between,
    uniqueTests executor.base affected = passed ++ first :: later ∧
      identity executor.base first = identity executor.base test ∧
      (executor.planTests passed).Returns before made between ∧
      between.files.isFile (located executor.base first) = .ok true

/-- Some planned job runs a test of the identity. -/
def Planned (executor : Executor) (jobs : List Job) (test : String) : Prop :=
  ∃ job ∈ jobs, identity executor.base job.testPath = identity executor.base test

/-- Making room for reports neither removes nor makes an affected test. -/
def Settled (executor : Executor) (affected : Affected) (before : World) : Prop :=
  ∀ passed later made between, uniqueTests executor.base affected = passed ++ later →
    (executor.planTests passed).Returns before made between →
    ∀ test ∈ affected.flatMap Prod.snd,
      between.files.isFile (located executor.base test) =
        before.files.isFile (located executor.base test)

/-- All spellings of a test lead to a file, or none does. -/
def Agreed (executor : Executor) (affected : Affected) (before : World) (test : String) : Prop :=
  ∀ other ∈ affected.flatMap Prod.snd, identity executor.base other = identity executor.base test →
    before.files.isFile (located executor.base other) =
      before.files.isFile (located executor.base test)

theorem mem_uniqueTests_iff {first : String} :
    first ∈ uniqueTests base affected ↔
      ∃ earlier later, affected.flatMap Prod.snd = earlier ++ first :: later ∧
        ∀ other ∈ earlier, identity base other ≠ identity base first := by
  rw [uniqueTests, mem_addUnique_iff]
  simp

theorem mem_of_mem_uniqueTests {first : String} (listed : first ∈ uniqueTests base affected) :
    first ∈ affected.flatMap Prod.snd := by
  obtain ⟨earlier, later, split, -⟩ := mem_uniqueTests_iff.1 listed
  rw [split]
  exact List.mem_append_right _ List.mem_cons_self

/-- Each test of the list comes up, and has a job exactly if it is found then. -/
theorem exists_asked {first : String} (listed : first ∈ uniqueTests executor.base affected)
    (went : (executor.planTests (uniqueTests executor.base affected)).Returns before jobs after) :
    ∃ passed later made between found,
      uniqueTests executor.base affected = passed ++ first :: later ∧
        (executor.planTests passed).Returns before made between ∧
        between.files.isFile (located executor.base first) = .ok found ∧
        (found = true ↔ ∃ job ∈ jobs, job.testPath = first) := by
  obtain ⟨passed, later, split⟩ := List.append_of_mem listed
  have distinct := nodup_uniqueTests executor.base affected
  rw [split] at went distinct
  obtain ⟨made, between, found, passed_made, asked, job⟩ := returns_planTests_at distinct went
  exact ⟨passed, later, made, between, found, split, passed_made, asked, job⟩

theorem planned_iff_firstFound
    (went : (executor.planTests (uniqueTests executor.base affected)).Returns before jobs after) :
    executor.Planned jobs test ↔ executor.FirstFound affected before test := by
  constructor
  · rintro ⟨job, mem, same⟩
    have listed : job.testPath ∈ uniqueTests executor.base affected :=
      (returns_planTests went).1.subset (List.mem_map.2 ⟨job, mem, rfl⟩)
    obtain ⟨passed, later, made, between, found, split, passed_made, asked, has⟩ :=
      exists_asked listed went
    obtain rfl := has.2 ⟨job, mem, rfl⟩
    exact ⟨passed, job.testPath, later, made, between, split, same, passed_made, asked⟩
  · rintro ⟨passed, first, later, made, between, split, same, passed_made, there⟩
    have distinct := nodup_uniqueTests executor.base affected
    rw [split] at went distinct
    obtain ⟨_, start, found, again, asked, has⟩ := returns_planTests_at distinct went
    obtain ⟨-, rfl⟩ := again.unique passed_made
    rw [there] at asked
    cases asked
    obtain ⟨job, mem, rfl⟩ := has.1 rfl
    exact ⟨job, mem, same⟩

theorem firstFound_iff_isFile
    (went : (executor.planTests (uniqueTests executor.base affected)).Returns before jobs after)
    (settled : executor.Settled affected before) (mem : test ∈ affected.flatMap Prod.snd)
    (agreed : executor.Agreed affected before test) :
    executor.FirstFound affected before test ↔
      before.files.isFile (located executor.base test) = .ok true := by
  constructor
  · rintro ⟨passed, first, later, made, between, split, same, passed_made, there⟩
    have listed : first ∈ affected.flatMap Prod.snd :=
      mem_of_mem_uniqueTests (split ▸ List.mem_append_right _ List.mem_cons_self)
    rw [← agreed first listed same,
      ← settled passed (first :: later) made between split passed_made first listed, there]
  · intro there
    obtain ⟨first, unique, same⟩ := exists_mem_addUnique mem (List.not_mem_nil (a := _))
    have listed := mem_of_mem_uniqueTests unique
    obtain ⟨passed, later, made, between, found, split, passed_made, asked, -⟩ :=
      exists_asked unique went
    refine ⟨passed, first, later, made, between, split, same, passed_made, ?_⟩
    rw [settled passed (first :: later) made between split passed_made first listed,
      agreed first listed same, there]

theorem plan_fails {raised : Raised}
    (failed : (executor.plan affected).Fails before raised after) :
    ((executor.planTests (uniqueTests executor.base affected)).Returns before [] after ∧
        raised = ⟨.usage .noTests, []⟩) ∨
      (executor.planTests (uniqueTests executor.base affected)).Fails before raised after := by
  rcases Action.fails_bind.1 failed with failed | ⟨found, between, went, failed⟩
  · exact Or.inr failed
  · cases found with
    | nil =>
      obtain ⟨rfl, rfl⟩ := Action.fails_fail.1 failed
      exact Or.inl ⟨went, rfl⟩
    | cons first rest => exact absurd failed Action.not_fails_pure

/-- Spellings without `..` that have one identity lead to one place. -/
theorem located_eq_of_identity_eq {test other : String}
    (based : ∀ directory, base = some directory → directory.Proper)
    (plain : Lexical.parentSegment ∉ (located base test).parts)
    (plain' : Lexical.parentSegment ∉ (located base other).parts)
    (same : identity base test = identity base other) :
    located base test = located base other := by
  have proper : ∀ test, (located base test).Proper := by
    intro test
    unfold located
    split
    · exact (based _ rfl).div (Path.proper_ofString test)
    · exact Path.proper_ofString test
  have spelled : ∀ test, Lexical.parentSegment ∉ (located base test).parts →
      identity base test = (located base test).toString := by
    intro test plain
    rw [identity, Lexical.normalise_eq, Lexical.normalPath, Path.anchorOf_toString (proper test),
      Path.segments_toString (proper test), Lexical.collapse_of_notMem _ plain]
  rw [spelled test plain, spelled other plain'] at same
  exact (Path.toString_inj (proper test) (proper other)).1 same

/-- Of the spellings of one test the one met first decides. The test is planned exactly if that
spelling leads to a file when planning comes to it, and planning finds no tests exactly if none
does. So an affected test that is there is planned, in whatever order the tests are listed, unless
its spellings lead to different answers; without `..` they all lead to one place. Planning fails
otherwise only where the file system refuses something. -/
theorem planned_by_first_spelling (executor : Executor) (affected : Affected) (before : World) :
    (∀ first, first ∈ uniqueTests executor.base affected ↔
      ∃ earlier later, affected.flatMap Prod.snd = earlier ++ first :: later ∧
        ∀ other ∈ earlier, identity executor.base other ≠ identity executor.base first) ∧
    (∀ jobs after, (executor.plan affected).Returns before jobs after →
      ∀ test ∈ affected.flatMap Prod.snd,
        (executor.Planned jobs test ↔ executor.FirstFound affected before test) ∧
        (executor.Settled affected before → executor.Agreed affected before test →
          (executor.Planned jobs test ↔
            before.files.isFile (located executor.base test) = .ok true))) ∧
    (∀ raised after, (executor.plan affected).Fails before raised after →
      (raised = ⟨.usage .noTests, []⟩ ∧ ∀ test ∈ affected.flatMap Prod.snd,
        ¬ executor.FirstFound affected before test ∧
        (executor.Settled affected before → executor.Agreed affected before test →
          before.files.isFile (located executor.base test) ≠ .ok true)) ∨
      ∃ passed first later made between fault,
        uniqueTests executor.base affected = passed ++ first :: later ∧
        (executor.planTests passed).Returns before made between ∧
        executor.Refuses first between fault ∧ raised = ⟨.file fault, []⟩) ∧
    ((∀ directory, executor.base = some directory → directory.Proper) →
      ∀ test ∈ affected.flatMap Prod.snd,
        (∀ other ∈ affected.flatMap Prod.snd,
          identity executor.base other = identity executor.base test →
            Lexical.parentSegment ∉ (located executor.base other).parts) →
        executor.Agreed affected before test) := by
  refine ⟨fun first => mem_uniqueTests_iff, ?_, ?_, ?_⟩
  · intro jobs after returned test mem
    have went := (returns_plan returned).2
    have first_found : executor.Planned jobs test ↔ executor.FirstFound affected before test :=
      planned_iff_firstFound went
    refine ⟨first_found, fun settled agreed => ?_⟩
    exact first_found.trans (firstFound_iff_isFile went settled mem agreed)
  · intro raised after failed
    rcases plan_fails failed with ⟨went, rfl⟩ | failed
    · refine Or.inl ⟨rfl, fun test mem => ?_⟩
      have lost : ¬ executor.FirstFound affected before test := by
        rw [← planned_iff_firstFound went]
        rintro ⟨job, none, -⟩
        cases none
      refine ⟨lost, fun settled agreed there => lost ?_⟩
      exact (firstFound_iff_isFile went settled mem agreed).2 there
    · exact Or.inr (fails_planTests failed)
  · intro based test mem plain other listed same
    rw [located_eq_of_identity_eq based (plain other listed same) (plain test mem rfl) same]

/-- The small project, affected in a test that is spelled through a directory that is not there and
then as it is. -/
def detour : Affected :=
  [("test", ["test/gone/../ATest.php", "test/ATest.php"])]

/-- A test that is there is lost behind another spelling of it. -/
theorem lost_behind_detour :
    ∃ after, ((SmallProject.engine "").executor.plan detour).Fails SmallProject.world
        ⟨.usage .noTests, []⟩ after ∧
      ¬ (SmallProject.engine "").executor.FirstFound detour SmallProject.world "test/ATest.php" ∧
      SmallProject.files.isFile (located (some (Path.ofString "/p")) "test/ATest.php") =
        .ok true := by
  have evaluated : ((SmallProject.engine "").executor.plan detour).failsAs SmallProject.world
      ⟨.usage .noTests, []⟩ = true := by
    decide
  obtain ⟨after, failed⟩ := Action.exists_of_failsAs evaluated
  obtain ⟨-, -, fails, -⟩ := planned_by_first_spelling (SmallProject.engine "").executor detour
    SmallProject.world
  rcases fails _ _ failed with ⟨-, lost⟩ | ⟨_, _, _, _, _, _, -, -, -, other⟩
  · exact ⟨after, failed, (lost "test/ATest.php" (by simp [detour])).1, by rfl⟩
  · cases other

end TestImpact.Executor
