import TestImpact.Execution.Job
import TestImpact.Proofs.Action
import TestImpact.Proofs.Execution.Outputs

/-!
# Planned jobs

Of each affected test file one spelling is kept, and those that exist become jobs in this
order. So no two planned jobs have the same test path (`plan_distinct`), and every planned
job is made from its test path alone (`plan_jobs`). A property that sequences of actions have from
their parts holds of planning if it holds of what is asked and changed there
(`Action.Composes.planTests`).
-/

namespace TestImpact.Executor

variable {executor : Executor} {before after : World}

/-! ## One spelling for each test file -/

theorem identity_addUnique (base : Option Path) (known tests : List String) :
    ((addUnique base known tests).map (identity base)).Nodup ∧
      ∀ test ∈ addUnique base known tests, identity base test ∉ known := by
  induction tests generalizing known with
  | nil => exact ⟨List.nodup_nil, fun _ mem => nomatch mem⟩
  | cons test rest ih =>
    unfold addUnique
    by_cases met : known.contains (identity base test)
    · simp only [met, if_true]
      exact ih known
    · simp only [met, Bool.false_eq_true, if_false]
      obtain ⟨distinct, fresh⟩ := ih (identity base test :: known)
      constructor
      · rw [List.map_cons, List.nodup_cons]
        refine ⟨?_, distinct⟩
        intro mem
        obtain ⟨other, later, same⟩ := List.mem_map.1 mem
        exact fresh other later (same ▸ List.mem_cons_self)
      · intro other mem
        rcases List.mem_cons.1 mem with rfl | later
        · simpa using met
        · exact fun old => fresh other later (List.mem_cons_of_mem _ old)

theorem nodup_uniqueTests (base : Option Path) (affected : Affected) :
    (uniqueTests base affected).Nodup :=
  List.Pairwise.of_map (identity base)
    (fun _ _ differ same => differ (congrArg (identity base) same))
    (identity_addUnique base [] _).1

/-! ## The jobs -/

/-- A job that is made from its test path. -/
def IsJobOf (executor : Executor) (job : Job) : Prop :=
  job.outputs = executor.place.outputs job.testPath ∧
    job.command = executor.builder.build job.testPath job.outputs

theorem returns_allocateWith {digest : Digest} {place : ReportPlace} {testPath : String}
    {outputs : Outputs}
    (returned : (place.allocateWith digest testPath).Returns before outputs after) :
    outputs = place.outputsWith digest testPath := by
  simp only [ReportPlace.allocateWith, Action.returns_bind] at returned
  obtain ⟨_, _, -, returned⟩ := returned
  split at returned
  · obtain ⟨_, _, -, last⟩ := Action.returns_bind.1 returned
    exact (Action.returns_pure.1 last).1
  · exact (Action.returns_pure.1 returned).1

theorem returns_allocate {place : ReportPlace} {testPath : String} {outputs : Outputs}
    (returned : (place.allocate testPath).Returns before outputs after) :
    outputs = place.outputs testPath := by
  rw [ReportPlace.allocateWith_md5] at returned
  rw [ReportPlace.outputsWith_md5]
  exact returns_allocateWith returned

theorem returns_jobOf {testPath : String} {job : Job}
    (returned : (executor.jobOf testPath).Returns before job after) :
    job.testPath = testPath ∧ executor.IsJobOf job := by
  obtain ⟨outputs, between, allocated, returned⟩ := Action.returns_bind.1 returned
  have here := returns_allocate allocated
  have last : ∃ start, (pure ⟨testPath, outputs, executor.builder.build testPath outputs⟩ :
      Action Job).Returns start job after := by
    split at returned
    · obtain ⟨_, start, -, last⟩ := Action.returns_bind.1 returned
      exact ⟨start, last⟩
    · exact ⟨between, returned⟩
  obtain ⟨start, last⟩ := last
  obtain ⟨rfl, -⟩ := Action.returns_pure.1 last
  exact ⟨rfl, here, rfl⟩

theorem returns_planTests {tests : List String} {jobs : List Job}
    (returned : (executor.planTests tests).Returns before jobs after) :
    (jobs.map Job.testPath).Sublist tests ∧ ∀ job ∈ jobs, executor.IsJobOf job := by
  induction tests generalizing before after jobs with
  | nil =>
    obtain ⟨rfl, -⟩ := Action.returns_pure.1 returned
    exact ⟨List.nil_sublist _, fun _ mem => nomatch mem⟩
  | cons test rest ih =>
    obtain ⟨there, between, -, returned⟩ := Action.returns_bind.1 returned
    cases there with
    | false =>
      obtain ⟨below, made⟩ := ih returned
      exact ⟨below.cons test, made⟩
    | true =>
      obtain ⟨job, start, first, returned⟩ := Action.returns_bind.1 returned
      obtain ⟨others, stop, later, last⟩ := Action.returns_bind.1 returned
      obtain ⟨rfl, -⟩ := Action.returns_pure.1 last
      obtain ⟨rfl, job_made⟩ := returns_jobOf first
      obtain ⟨below, made⟩ := ih later
      refine ⟨below.cons_cons job.testPath, ?_⟩
      intro other mem
      rcases List.mem_cons.1 mem with rfl | later
      · exact job_made
      · exact made other later

theorem returns_plan {affected : Affected} {jobs : List Job}
    (returned : (executor.plan affected).Returns before jobs after) :
    jobs ≠ [] ∧
      (executor.planTests (uniqueTests executor.base affected)).Returns before jobs after := by
  obtain ⟨found, between, planned, returned⟩ := Action.returns_bind.1 returned
  cases found with
  | nil => exact absurd returned Action.not_returns_fail
  | cons first rest =>
    obtain ⟨rfl, rfl⟩ := Action.returns_pure.1 returned
    exact ⟨List.cons_ne_nil _ _, planned⟩

/-- No two planned jobs have the same test path. -/
theorem plan_distinct {affected : Affected} {jobs : List Job}
    (returned : (executor.plan affected).Returns before jobs after) :
    (jobs.map Job.testPath).Nodup :=
  (nodup_uniqueTests executor.base affected).sublist
    (returns_planTests (returns_plan returned).2).1

/-- Every planned job is made from its test path alone. -/
theorem plan_jobs {affected : Affected} {jobs : List Job}
    (returned : (executor.plan affected).Returns before jobs after) :
    ∀ job ∈ jobs, executor.IsJobOf job :=
  (returns_planTests (returns_plan returned).2).2

end TestImpact.Executor

/-! ## The parts of planning -/

namespace TestImpact.Action

variable {property : ∀ α : Type, Action α → Prop}

/-- The property holds of each change that is made for the reports of a test file. -/
structure HoldsOfChanges (property : ∀ α : Type, Action α → Prop) (place : ReportPlace)
    (testPath : String) : Prop where
  makes : ∀ directory ∈ [place.junitDirectory, place.cloverDirectory],
    property Unit (change (·.makeDirectories directory))
  removes : ∀ report ∈ (place.outputs testPath).paths, property Unit (change (·.remove report))
  touches : ∀ report ∈ (place.outputs testPath).paths, property Unit (change (·.touch report))

namespace Composes

variable {place : ReportPlace} {executor : Executor} {testPath : String}

theorem clear (composes : Composes property) (changes : HoldsOfChanges property place testPath)
    {directory report : Path} (home : directory ∈ [place.junitDirectory, place.cloverDirectory])
    (listed : report ∈ (place.outputs testPath).paths) :
    property Unit (ReportPlace.clear directory report) :=
  composes.ofBind (changes.makes directory home) fun _ _ _ _ => changes.removes report listed

theorem allocate (composes : Composes property) (changes : HoldsOfChanges property place testPath) :
    property Outputs (place.allocate testPath) := by
  refine composes.ofBind (composes.clear changes (by simp) List.mem_cons_self) fun _ _ _ _ => ?_
  split
  next clover found =>
    have listed : clover ∈ (place.outputs testPath).paths := by simp [Outputs.paths, found]
    exact composes.ofBind (composes.clear changes (by simp) listed) fun _ _ _ _ =>
      composes.ofPure _
  next => exact composes.ofPure _

theorem touchOutputs (composes : Composes property)
    (changes : HoldsOfChanges property place testPath) :
    property Unit (Executor.touchOutputs (place.outputs testPath)) := by
  refine composes.ofBind (changes.touches _ List.mem_cons_self) fun _ _ _ _ => ?_
  split
  next clover found => exact changes.touches clover (by simp [Outputs.paths, found])
  next => exact composes.ofPure _

theorem jobOf (composes : Composes property)
    (changes : HoldsOfChanges property executor.place testPath) :
    property Job (executor.jobOf testPath) := by
  refine composes.ofBind (composes.allocate changes) fun outputs before after allocated => ?_
  obtain rfl := Executor.returns_allocate allocated
  split
  · exact composes.ofBind (composes.touchOutputs changes) fun _ _ _ _ => composes.ofPure _
  · exact composes.ofPure _

theorem planTests (composes : Composes property)
    (asked : ∀ test, property Bool (ask (·.isFile (Executor.located executor.base test))))
    (changes : ∀ test, HoldsOfChanges property executor.place test) (tests : List String) :
    property (List Job) (executor.planTests tests) := by
  induction tests with
  | nil => exact composes.ofPure _
  | cons test rest ih =>
    refine composes.ofBind (asked test) fun found _ _ _ => ?_
    cases found with
    | false => exact ih
    | true =>
      refine composes.ofBind (composes.jobOf (changes test)) fun job _ _ _ => ?_
      exact composes.ofBind ih fun jobs _ _ _ => composes.ofPure _

theorem plan (composes : Composes property)
    (asked : ∀ test, property Bool (ask (·.isFile (Executor.located executor.base test))))
    (changes : ∀ test, HoldsOfChanges property executor.place test)
    (failed : property (List Job) (fail (.usage .noTests))) (affected : Affected) :
    property (List Job) (executor.plan affected) := by
  refine composes.ofBind (composes.planTests asked changes _) fun jobs _ _ _ => ?_
  split
  · exact failed
  · exact composes.ofPure _

end Composes

end TestImpact.Action
