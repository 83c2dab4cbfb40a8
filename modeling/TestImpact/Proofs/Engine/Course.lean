import Mathlib.Data.List.Basic
import TestImpact.Engine
import TestImpact.Proofs.Execution.Plan
import TestImpact.Proofs.Execution.Turns
import TestImpact.Proofs.Report.Problems

/-!
# The course of a run

A run that returns a report has planned some jobs and has an account of each of them: the
process ran in one world, and what it left was collected in another. `Engine.Course` is
the record of all this, and the report is made of the accounts and nothing else.

* `returns_collect_iff`: what becomes of a completion is decided by the reading of it.
* `exists_course`: every run that returns a report has a course.
* `Course.results_of_job`, `Course.failures_of_job`: what the report says about a job is
  what was collected of it.
-/

namespace TestImpact.Engine

variable {engine : Engine} {completion : Completion} {before after : World}

/-! ## Collecting a completion -/

/-- What the reading of a completion comes to in a world. -/
def outcome (engine : Engine) (world : World) (completion : Completion) :
    Except Failure (List TestResult) :=
  ((engine.reading world.files completion).run.run world.knowledge.lineCounts).1

/-- The world after the reading of a completion: more line counts may be known. -/
def afterReading (engine : Engine) (world : World) (completion : Completion) : World :=
  { world with knowledge :=
    { world.knowledge with
      lineCounts :=
        ((engine.reading world.files completion).run.run world.knowledge.lineCounts).2 } }

theorem run_reading (files : FileSystem) (counts : LineCounts) :
    (engine.reading files completion).run.run counts =
      match completion.job.outputs.texts files with
      | .ok (junit, clover) =>
        (Reading.results files engine.layout.root completion.job.testPath junit clover
          completion.err).run.run counts
      | .error failure => (.error failure, counts) := by
  unfold reading
  rw [run_bind_counting]
  cases completion.job.outputs.texts files <;> rfl

/-- The reading of a completion is the reading of the texts of its reports. -/
theorem outcome_eq (world : World) :
    engine.outcome world completion =
      completion.job.outputs.texts world.files >>= fun (junit, clover) =>
        Reading.outcome world.files engine.layout.root world.knowledge.lineCounts
          completion.job.testPath junit clover completion.err := by
  unfold outcome
  rw [run_reading]
  cases completion.job.outputs.texts world.files <;> rfl

/-- The reading of some texts, as far as their completion and a world decide it. -/
def readingOf (engine : Engine) (world : World) (completion : Completion) (junit : String)
    (clover : Option String) : Except Failure (List TestResult) :=
  Reading.resultsBy world.files.cwd engine.layout.root
    (LineCounts.answer world.files engine.layout.root world.knowledge.lineCounts)
    completion.job.testPath junit clover completion.err

theorem outcome_of_texts {world : World} {junit : String} {clover : Option String}
    (texts : completion.job.outputs.texts world.files = .ok (junit, clover)) :
    engine.outcome world completion = engine.readingOf world completion junit clover := by
  rw [outcome_eq, texts]
  exact Reading.outcome_eq_resultsBy world.knowledge.lineCounts

theorem of_outcome_ok {world : World} {found : List TestResult}
    (read : engine.outcome world completion = .ok found) :
    ∃ junit clover, completion.job.outputs.texts world.files = .ok (junit, clover) ∧
      engine.readingOf world completion junit clover = .ok found := by
  have whole := read
  rw [outcome_eq] at read
  obtain ⟨⟨junit, clover⟩, texts, -⟩ := of_bind_ok read
  exact ⟨junit, clover, texts, (outcome_of_texts texts).symm.trans whole⟩

/-- The reading of a completion leaves the answers about source files as they were. -/
theorem answer_afterReading (world : World) (completion : Completion) :
    LineCounts.answer world.files engine.layout.root
        (engine.afterReading world completion).knowledge.lineCounts =
      LineCounts.answer world.files engine.layout.root world.knowledge.lineCounts := by
  unfold afterReading
  simp only [run_reading]
  cases completion.job.outputs.texts world.files with
  | error failure => rfl
  | ok reports => exact (asks_results _ _ _ _ world.knowledge.lineCounts rfl).2

/-- A completion is collected exactly if the reading of it succeeds, and the results are listened
to, or if it fails with a report error, which is reported. -/
theorem returns_collect_iff {collected : Collected} :
    (engine.collect completion).Returns before collected after ↔
      (∃ found, engine.outcome before completion = .ok found ∧ collected = .results found ∧
        (found.forM engine.onResult).Returns (engine.afterReading before completion) () after) ∨
      ∃ error, engine.outcome before completion = .error (.report error) ∧
        collected = .unreadable ⟨completion.job.testPath, error.message⟩ ∧
        (Action.report .fail (completion.job.testPath ++ ": " ++ error.message)
          engine.emoji).Returns (engine.afterReading before completion) () after := by
  unfold collect
  simp only [Action.returns_bind, Action.returns_get, Action.returns_counting]
  constructor
  · rintro ⟨_, _, ⟨rfl, rfl⟩, _, _, ⟨rfl, rfl⟩, returned⟩
    split at returned
    · simp only [Action.returns_bind, Action.returns_pure] at returned
      obtain ⟨_, _, listened, rfl, rfl⟩ := returned
      exact Or.inl ⟨_, ‹_›, rfl, listened⟩
    · simp only [Action.returns_bind, Action.returns_pure] at returned
      obtain ⟨_, _, reported, rfl, rfl⟩ := returned
      exact Or.inr ⟨_, ‹_›, rfl, reported⟩
    · exact absurd returned Action.not_returns_fail
  · rintro (⟨found, read, rfl, listened⟩ | ⟨error, read, rfl, reported⟩)
    · refine ⟨_, _, ⟨rfl, rfl⟩, _, _, ⟨rfl, rfl⟩, ?_⟩
      unfold outcome at read
      rw [read]
      simp only [Action.returns_bind, Action.returns_pure]
      exact ⟨(), after, listened, trivial, rfl⟩
    · refine ⟨_, _, ⟨rfl, rfl⟩, _, _, ⟨rfl, rfl⟩, ?_⟩
      unfold outcome at read
      rw [read]
      simp only [Action.returns_bind, Action.returns_pure]
      exact ⟨(), after, reported, trivial, rfl⟩

/-- A completion cannot be collected because the reading of it fails with something else than a
report error, or because nobody listens to its results. -/
theorem fails_collect {raised : Raised}
    (failed : (engine.collect completion).Fails before raised after) :
    (engine.outcome before completion = .error raised.failure ∧ raised.notes = [] ∧
        ∀ error, raised.failure ≠ .report error) ∨
      ∃ found, engine.outcome before completion = .ok found ∧
        (found.forM engine.onResult).Fails (engine.afterReading before completion) raised
          after := by
  unfold collect at failed
  simp only [Action.fails_bind, Action.returns_get, Action.not_fails_get, Action.returns_counting,
    Action.not_fails_counting, false_or] at failed
  obtain ⟨_, _, ⟨rfl, rfl⟩, _, _, ⟨rfl, rfl⟩, failed⟩ := failed
  split at failed
  next found read =>
    simp only [Action.fails_bind, Action.not_fails_pure, and_false, exists_false,
      or_false] at failed
    exact Or.inr ⟨_, read, failed⟩
  next => simp at failed
  next failure notReport read =>
    obtain ⟨rfl, -⟩ := Action.fails_fail.1 failed
    exact Or.inl ⟨read, rfl, notReport⟩

/-! ## Around the jobs -/

/-- What a session does before its body. -/
def sessionOpening (here : Session.Surroundings) (setup : List String) : Action Unit := do
  Action.report .info "Starting test environment setup..." here.emoji
  Session.runStep here .setup setup

/-- A session returns exactly if its first command, its body and its last command do. -/
theorem returns_around_iff {α : Type} {here : Session.Surroundings} {setup teardown : List String}
    {body : Action α} {a : α} :
    (Session.around here setup teardown body).Returns before a after ↔
      ∃ opening closing, (sessionOpening here setup).Returns before () opening ∧
        body.Returns opening a closing ∧
        (Session.tearDown here teardown).Returns closing () after := by
  unfold Session.around sessionOpening
  simp only [Action.returns_bind, Action.returns_attempt]
  constructor
  · rintro ⟨_, reported, said, attempted, closing, ran, returned⟩
    cases attempted with
    | error failed =>
      simp only [Action.returns_bind, Action.not_returns_throw, and_false, exists_false] at returned
    | ok b =>
      simp only [Action.returns_bind, Action.returns_pure] at ran returned
      obtain ⟨_, opening, opened, body⟩ := ran
      obtain ⟨_, _, closed, rfl, rfl⟩ := returned
      exact ⟨opening, closing, ⟨(), reported, said, opened⟩, body, closed⟩
  · rintro ⟨opening, closing, ⟨_, reported, said, opened⟩, body, closed⟩
    refine ⟨(), reported, said, .ok a, closing, ?_, ?_⟩
    · exact ⟨(), opening, opened, body⟩
    · simp only [Action.returns_bind, Action.returns_pure]
      exact ⟨(), after, closed, trivial, rfl⟩

/-- What a run does before its jobs. -/
def opening (engine : Engine) : Action Unit :=
  let session := engine.config.session
  if session.enabled then
    sessionOpening ⟨engine.runner, some engine.stepOptions, engine.emoji⟩
      (engine.builder.sessionCommand session.setup)
  else pure ()

/-- What a run does after its jobs. -/
def closing (engine : Engine) : Action Unit :=
  let session := engine.config.session
  if session.enabled then
    Session.tearDown ⟨engine.runner, some engine.stepOptions, engine.emoji⟩
      (engine.builder.sessionCommand session.teardown)
  else pure ()

theorem returns_inSession_iff {α : Type} {body : Action α} {a : α} :
    (engine.inSession body).Returns before a after ↔
      ∃ opened finished, engine.opening.Returns before () opened ∧ body.Returns opened a finished ∧
        engine.closing.Returns finished () after := by
  unfold inSession opening closing
  by_cases session : engine.config.session.enabled
  · simp only [session, if_true]
    exact returns_around_iff
  · simp only [session, Bool.false_eq_true, if_false, Action.returns_pure]
    constructor
    · intro returned
      exact ⟨before, after, ⟨trivial, rfl⟩, returned, trivial, rfl⟩
    · rintro ⟨_, _, ⟨-, rfl⟩, returned, -, rfl⟩
      exact returned

theorem returns_prepare {paths : List String} {everything : Bool} {stale : List String}
    {jobs : List Job}
    (returned : (engine.prepare paths everything).Returns before (stale, jobs) after) :
    ∃ start affected, (engine.executor.plan affected).Returns start jobs after := by
  simp only [prepare, plan, Action.returns_bind, Action.returns_pure, Prod.mk.injEq] at returned
  obtain ⟨_, _, -, _, _, -, _, _, -, _, _, ⟨_, _, -, affected, _, -, _, _, -, _, start, -, planned⟩,
    ⟨rfl, rfl⟩, rfl⟩ := returned
  exact ⟨start, affected, planned⟩

/-! ## Courses -/

/-- What a run did about a job. -/
abbrev Account (engine : Engine) :=
  Executor.Account engine.executor engine.runner engine.collect

/-- What a run did on its way from some paths to a report: it planned jobs, took turns with them,
and has an account of each. -/
structure Course (engine : Engine) (paths : List String) (everything : Bool) (before after : World)
    (report : RunReport) where
  stale : List String
  jobs : List Job
  planned : World
  opened : World
  finished : World
  accounts : List engine.Account
  prepared : (engine.prepare paths everything).Returns before (stale, jobs) planned
  opens : engine.opening.Returns planned () opened
  taken : Executor.Taken engine.executor engine.runner engine.collect [] opened
    (engine.executor.turns jobs) accounts finished
  closes : engine.closing.Returns finished () after
  reported : report = .ofCollected stale (accounts.map (·.outcome))

/-- Every run that returns a report has a course. -/
theorem exists_course {paths : List String} {everything : Bool} {report : RunReport}
    (returned : (engine.run paths everything).Returns before report after) :
    Nonempty (engine.Course paths everything before after report) := by
  simp only [run, Action.returns_bind, Action.returns_pure] at returned
  obtain ⟨⟨stale, jobs⟩, planned, prepared, collected, _, inside, rfl, rfl⟩ := returned
  obtain ⟨opened, finished, opens, ran, closes⟩ := returns_inSession_iff.1 inside
  obtain ⟨accounts, taken, rfl⟩ := Executor.execute_returns ran
  exact ⟨⟨stale, jobs, planned, opened, finished, accounts, prepared, opens, taken, closes, rfl⟩⟩

/-! ## What a report says about a job -/

theorem Account.collected (account : engine.Account) :
    (∃ found, engine.outcome account.read account.completion = .ok found ∧
        account.outcome = .results found) ∨
      ∃ error, engine.outcome account.read account.completion = .error (.report error) ∧
        account.outcome = .unreadable ⟨account.job.testPath, error.message⟩ := by
  rcases returns_collect_iff.1 account.handed with
    ⟨found, read, outcome, -⟩ | ⟨error, read, outcome, -⟩
  · exact Or.inl ⟨found, read, outcome⟩
  · rw [account.job_completion] at outcome
    exact Or.inr ⟨error, read, outcome⟩

theorem Account.testPath_of_mem_found (account : engine.Account) {result : TestResult}
    (mem : result ∈ account.outcome.found) : result.testPath = some account.job.testPath := by
  rcases account.collected with ⟨found, read, outcome⟩ | ⟨error, read, outcome⟩
  · rw [outcome] at mem
    obtain ⟨junit, clover, -, read⟩ := of_outcome_ok read
    rw [Reading.testPath_of_resultsBy read mem, account.job_completion]
  · rw [outcome] at mem
    cases mem

theorem Account.testPath_of_mem_failure (account : engine.Account) {failure : JobFailure}
    (mem : failure ∈ account.outcome.failure?.toList) :
    failure.testPath = account.job.testPath := by
  rcases account.collected with ⟨found, read, outcome⟩ | ⟨error, read, outcome⟩
  · rw [outcome] at mem
    cases mem
  · rw [outcome] at mem
    rw [List.mem_singleton.1 mem]

/-- If what elements give is marked with their keys, and no two elements have the same key, then
what is marked with the key of an element comes from that element. -/
theorem filter_flatMap_of_key {α β κ : Type} [DecidableEq κ] (key : α → κ) {mark : β → κ}
    {give : α → List β} {elements : List α}
    (marked : ∀ a ∈ elements, ∀ b ∈ give a, mark b = key a) (distinct : (elements.map key).Nodup)
    {a : α} (mem : a ∈ elements) :
    (elements.flatMap give).filter (fun b => mark b = key a) = give a := by
  induction elements with
  | nil => cases mem
  | cons first rest ih =>
    rw [List.map_cons, List.nodup_cons] at distinct
    rw [List.flatMap_cons, List.filter_append]
    have marked' : ∀ a ∈ rest, ∀ b ∈ give a, mark b = key a :=
      fun a mem => marked a (List.mem_cons_of_mem _ mem)
    rcases List.mem_cons.1 mem with rfl | later
    · have here : (give a).filter (fun b => mark b = key a) = give a := by
        rw [List.filter_eq_self]
        intro b given
        exact decide_eq_true (marked a List.mem_cons_self b given)
      have others : (rest.flatMap give).filter (fun b => mark b = key a) = [] := by
        rw [List.filter_eq_nil_iff]
        intro b given same
        obtain ⟨c, among, given⟩ := List.mem_flatMap.1 given
        have clash : key c = key a := (marked' c among b given).symm.trans (of_decide_eq_true same)
        exact distinct.1 (clash ▸ List.mem_map_of_mem among)
      rw [here, others, List.append_nil]
    · have before : (give first).filter (fun b => mark b = key a) = [] := by
        rw [List.filter_eq_nil_iff]
        intro b given same
        have clash : key first = key a :=
          (marked first List.mem_cons_self b given).symm.trans (of_decide_eq_true same)
        exact distinct.1 (clash ▸ List.mem_map_of_mem later)
      rw [before, List.nil_append, ih marked' distinct.2 later]

variable {paths : List String} {everything : Bool} {report : RunReport}

namespace Course

/-- There is an account of every planned job and of no other one. -/
theorem complete (course : engine.Course paths everything before after report) :
    (course.accounts.map (·.job)).Perm course.jobs := by
  rw [course.taken.map_job]
  exact engine.executor.handedIn_turns course.jobs

/-- No two accounts of a course are about the same test path. -/
theorem distinct (course : engine.Course paths everything before after report) :
    (course.accounts.map fun account => account.job.testPath).Nodup := by
  obtain ⟨start, affected, planned⟩ := returns_prepare course.prepared
  have jobs := Executor.plan_distinct planned
  rw [← List.Perm.nodup_iff (course.complete.map Job.testPath), List.map_map] at jobs
  exact jobs

theorem exists_account (course : engine.Course paths everything before after report) {job : Job}
    (mem : job ∈ course.jobs) : ∃ account ∈ course.accounts, account.job = job :=
  List.mem_map.1 (course.complete.mem_iff.2 mem)

/-- The results of a report that name a test path are those that were collected of its job. -/
theorem results_of_job (course : engine.Course paths everything before after report)
    {account : engine.Account} (mem : account ∈ course.accounts) :
    report.results.filter (fun result => result.testPath = some account.job.testPath) =
      account.outcome.found := by
  have distinct : ((course.accounts.map fun account => account.job.testPath).map some).Nodup :=
    List.Pairwise.map some (fun _ _ differ same => differ (Option.some.inj same)) course.distinct
  rw [List.map_map] at distinct
  rw [course.reported, RunReport.ofCollected, List.flatMap_map]
  exact filter_flatMap_of_key (fun account : engine.Account => some account.job.testPath)
    (fun account _ result given => account.testPath_of_mem_found given) distinct mem

/-- The failures of a report that name a test path are those that were collected of its job. -/
theorem failures_of_job (course : engine.Course paths everything before after report)
    {account : engine.Account} (mem : account ∈ course.accounts) :
    report.failures.filter (fun failure => failure.testPath = account.job.testPath) =
      account.outcome.failure?.toList := by
  rw [course.reported, RunReport.ofCollected, List.filterMap_map, List.filterMap_eq_flatMap_toList]
  exact filter_flatMap_of_key (fun account : engine.Account => account.job.testPath)
    (fun account _ failure given => account.testPath_of_mem_failure given) course.distinct mem

end Course

end TestImpact.Engine
