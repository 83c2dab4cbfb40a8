import TestImpact.Proofs.Engine.Course
import TestImpact.Proofs.SmallProject

/-!
# Which jobs a report shows

A report should show every planned job, by a result or by a failure. A process that crashed
is a broken result, and a report that cannot be understood is a failure. There is one way to
leave no record: a JUnit report that is well-formed and leads to no case, with nothing else
wrong (`Engine.LeavesNothing`). `Engine.shows_iff` says that there is no other one.
-/

namespace TestImpact

/-- Does a report show a test file, by a result or by exactly one failure? -/
def RunReport.Shows (report : RunReport) (testPath : String) : Prop :=
  (∃ result ∈ report.results, result.testPath = some testPath) ∨
    (report.failures.filter fun failure => failure.testPath = testPath).length = 1

namespace Engine

variable {engine : Engine} {completion : Completion} {before after world : World}

/-- A completion of which no record is left: its process wrote nothing to the error stream, its
JUnit report is well-formed and leads to no case, and nothing is wrong with its reports. -/
def LeavesNothing (engine : Engine) (world : World) (completion : Completion) : Prop :=
  ∃ junit clover document, completion.job.outputs.texts world.files = .ok (junit, clover) ∧
    ¬ Reading.HasCrashed junit completion.err ∧ Xml.parse junit = .ok document ∧
    (∀ element, ¬ Junit.Reached document element) ∧
    Reading.problems world.files.cwd engine.layout.root
      (LineCounts.answer world.files engine.layout.root world.knowledge.lineCounts) junit clover
      completion.err = []

/-- No record is left exactly if the reading succeeds and gives no result. -/
theorem outcome_eq_nil_iff :
    engine.outcome world completion = .ok [] ↔ engine.LeavesNothing world completion := by
  constructor
  · intro nothing
    obtain ⟨junit, clover, texts, nothing⟩ := of_outcome_ok nothing
    have clean := Reading.resultsBy_meets.ok_iff.1 ⟨[], nothing⟩
    rcases Reading.of_resultsBy_ok nothing with
      ⟨-, one⟩ | ⟨fine, document, cases, _, parsed, read, -, none⟩
    · cases one
    · have empty : cases = [] := List.map_eq_nil_iff.1 none.symm
      exact ⟨junit, clover, document, texts, fine, parsed,
        (Junit.cases_eq_nil_iff read).1 empty, clean⟩
  · rintro ⟨junit, clover, document, texts, fine, parsed, nowhere, clean⟩
    have whole : Meets [] (engine.readingOf world completion junit clover) := by
      rw [← clean]
      exact Reading.resultsBy_meets
    obtain ⟨found, read⟩ := whole
    rw [outcome_of_texts texts, read]
    rcases Reading.of_resultsBy_ok read with
      ⟨crashed, -⟩ | ⟨-, other, cases, _, again, cases_read, -, rfl⟩
    · exact absurd crashed fine
    · rw [parsed] at again
      cases again
      rw [(Junit.cases_eq_nil_iff cases_read).2 nowhere]
      rfl

/-- A report shows an account exactly if something was collected of it. -/
theorem Course.shows_iff_outcome {paths : List String} {everything : Bool} {report : RunReport}
    (course : engine.Course paths everything before after report) {account : engine.Account}
    (mem : account ∈ course.accounts) :
    report.Shows account.job.testPath ↔
      account.outcome.found ≠ [] ∨ ∃ failure, account.outcome.failure? = some failure := by
  unfold RunReport.Shows
  rw [course.failures_of_job mem, ← course.results_of_job mem]
  apply or_congr
  · rw [ne_eq, List.filter_eq_nil_iff]
    simp
  · cases account.outcome.failure? <;> simp

/-- A run that returns a report shows every planned job of which a record is left, and no other
one. -/
theorem shows_iff {paths : List String} {everything : Bool} {report : RunReport}
    (returned : (engine.run paths everything).Returns before report after) :
    ∃ course : engine.Course paths everything before after report,
      ∀ job ∈ course.jobs, ∃ account ∈ course.accounts, account.job = job ∧
        (report.Shows job.testPath ↔ ¬ engine.LeavesNothing account.read account.completion) := by
  obtain ⟨course⟩ := exists_course returned
  refine ⟨course, fun job planned => ?_⟩
  obtain ⟨account, mem, rfl⟩ := course.exists_account planned
  refine ⟨account, mem, rfl, ?_⟩
  rw [course.shows_iff_outcome mem, ← outcome_eq_nil_iff]
  rcases account.collected with ⟨found, read, outcome⟩ | ⟨error, read, outcome⟩
  · rw [outcome, read]
    simp [Collected.found, Collected.failure?]
  · rw [outcome, read]
    simp [Collected.found, Collected.failure?]

/-- A test runner that reports no case at all is not shown. -/
theorem not_shows_of_testsuites :
    ∃ report after, ((SmallProject.engine "<testsuites/>").run ["test/ATest.php"]).Returns
        SmallProject.world report after ∧
      (report.results.isEmpty && report.failures.isEmpty) = true ∧
      ∃ course : (SmallProject.engine "<testsuites/>").Course ["test/ATest.php"] false
          SmallProject.world after report,
        ∀ job ∈ course.jobs, ∃ account ∈ course.accounts, account.job = job ∧
          (report.Shows job.testPath ↔
            ¬ (SmallProject.engine "<testsuites/>").LeavesNothing account.read
              account.completion) := by
  have evaluated : ((SmallProject.engine "<testsuites/>").run ["test/ATest.php"]).returnsSome
      SmallProject.world (fun report => report.results.isEmpty && report.failures.isEmpty) =
        true := by
    decide +kernel
  obtain ⟨report, after, returned, empty⟩ := Action.exists_of_returnsSome evaluated
  exact ⟨report, after, returned, empty, shows_iff returned⟩

end Engine

end TestImpact
