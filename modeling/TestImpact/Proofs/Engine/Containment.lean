import TestImpact.Proofs.Engine.Course
import TestImpact.Proofs.SmallProject

/-!
# Reports that end the whole run

A report that cannot be understood should be the failure of one job and nothing else. It is,
as long as what is wrong with it first is a report error. There are three other things that
can be wrong, and each of them ends the run and takes the results of all other jobs with it
(`Engine.Escapes`): a report file that is there and cannot be read, suites that are nested
too deep, and a source file in a Clover report that is there and cannot be read, such as a
directory. `Engine.contained_unless_escapes` says that there is nothing else.
-/

namespace TestImpact.Engine

variable {engine : Engine} {completion : Completion} {before after world : World}
  {failure : Failure}

/-- A failure that is no report error ends the reading of a completion: its reports cannot be read,
or something in them escapes. -/
inductive Escapes (engine : Engine) (world : World) (completion : Completion) : Failure → Prop
  | unreadable {failure : Failure} :
      completion.job.outputs.texts world.files = .error failure →
      Escapes engine world completion failure
  | report {junit : String} {clover : Option String} {failure : Failure} :
      completion.job.outputs.texts world.files = .ok (junit, clover) →
      Reading.Escapes world.files engine.layout.root world.knowledge.lineCounts junit clover
        completion.err failure →
      Escapes engine world completion failure

/-- Somebody who listens to the results of a completion fails. -/
def ListenerFails (engine : Engine) (world : World) (completion : Completion) (raised : Raised) :
    Prop :=
  ∃ found after, engine.outcome world completion = .ok found ∧
    (found.forM engine.onResult).Fails (engine.afterReading world completion) raised after

/-! ## One completion -/

theorem file_of_text_error {files : FileSystem} {path : Path}
    (failed : Outputs.text files path = .error failure) : ∃ fault, failure = .file fault := by
  unfold Outputs.text at failed
  split at failed
  · cases failed
  · cases failed
  · cases failed
    exact ⟨_, rfl⟩

/-- The texts of reports cannot be had only because the file system refuses them. -/
theorem file_of_texts_error {files : FileSystem} {outputs : Outputs}
    (failed : outputs.texts files = .error failure) : ∃ fault, failure = .file fault := by
  unfold Outputs.texts at failed
  rcases of_bind_error failed with unread | ⟨clover, -, failed⟩
  · cases listed : outputs.clover with
    | none =>
      rw [listed] at unread
      cases unread
    | some path =>
      rw [listed, Option.mapM_some] at unread
      exact file_of_text_error (of_map_error unread)
  · rcases of_bind_error failed with unread | ⟨junit, -, done⟩
    · exact file_of_text_error unread
    · cases done

/-- What escapes is what the reading of a completion fails with, if that is no report error. -/
theorem escapes_iff :
    engine.Escapes world completion failure ↔
      engine.outcome world completion = .error failure ∧ ∀ error, failure ≠ .report error := by
  rw [outcome_eq]
  constructor
  · intro escapes
    cases escapes with
    | unreadable unread =>
      obtain ⟨fault, rfl⟩ := file_of_texts_error unread
      rw [unread]
      exact ⟨rfl, fun error same => nomatch same⟩
    | report texts escapes =>
      rw [texts]
      exact (Reading.escapes_iff completion.job.testPath).1 escapes
  · rintro ⟨failed, foreign⟩
    rcases of_bind_error failed with unread | ⟨⟨junit, clover⟩, texts, failed⟩
    · exact .unreadable unread
    · exact .report texts ((Reading.escapes_iff completion.job.testPath).2 ⟨failed, foreign⟩)

/-- What escapes from a completion is what the collecting of it fails with. -/
theorem fails_collect_of_escapes (escapes : engine.Escapes before completion failure) :
    ∃ after, (engine.collect completion).Fails before ⟨failure, []⟩ after := by
  obtain ⟨failed, foreign⟩ := escapes_iff.1 escapes
  rcases Action.returns_or_fails (engine.collect completion) before with
    ⟨collected, after, returned⟩ | ⟨raised, after, raised_here⟩
  · rcases returns_collect_iff.1 returned with ⟨found, read, -⟩ | ⟨error, read, -⟩
    · rw [failed] at read
      cases read
    · rw [failed] at read
      cases read
      exact absurd rfl (foreign error)
  · rcases fails_collect raised_here with ⟨read, quiet, -⟩ | ⟨found, read, -⟩
    · rw [failed] at read
      cases read
      obtain ⟨other, notes⟩ := raised
      cases quiet
      exact ⟨after, raised_here⟩
    · rw [failed] at read
      cases read

/-- The collecting of a completion fails because something escapes from it, or because somebody who
listens fails. -/
theorem escapes_of_fails_collect {raised : Raised}
    (failed : (engine.collect completion).Fails before raised after) :
    engine.Escapes before completion raised.failure ∨
      engine.ListenerFails before completion raised := by
  rcases fails_collect failed with ⟨read, -, foreign⟩ | ⟨found, read, failed⟩
  · exact Or.inl (escapes_iff.2 ⟨read, foreign⟩)
  · exact Or.inr ⟨found, after, read, failed⟩

theorem not_escapes_of_collected (account : engine.Account) :
    ¬ engine.Escapes account.read account.completion failure := by
  intro escapes
  obtain ⟨after, failed⟩ := fails_collect_of_escapes escapes
  exact account.handed.not_fails failed

/-! ## The whole batch -/

/-- What ends the reading of reports with something else than a report error is what escapes from
them, and nothing else. It ends the collecting of the completion, and with it the whole batch; a
batch from which nothing escapes, and that no process and no listener breaks off, collects something
of each of its jobs. -/
theorem contained_unless_escapes (engine : Engine) :
    (∀ fs root counts testPath junit clover stderr failure,
      Reading.Escapes fs root counts junit clover stderr failure ↔
        Reading.outcome fs root counts testPath junit clover stderr = .error failure ∧
          ∀ error, failure ≠ .report error) ∧
    (∀ completion before,
      (∀ failure, engine.Escapes before completion failure →
        ∃ after, (engine.collect completion).Fails before ⟨failure, []⟩ after) ∧
      ∀ raised after, (engine.collect completion).Fails before raised after →
        engine.Escapes before completion raised.failure ∨
          engine.ListenerFails before completion raised) ∧
    ∀ jobs before,
      (∃ accounts after, Executor.Taken engine.executor engine.runner engine.collect [] before
          (engine.executor.turns jobs) accounts after ∧
        (engine.collectAll jobs).Returns before (accounts.map (·.outcome)) after ∧
        (accounts.map (·.job)).Perm jobs ∧
        ∀ account ∈ accounts, ∀ failure, ¬ engine.Escapes account.read account.completion failure) ∨
      ∃ raised after, (engine.collectAll jobs).Fails before raised after ∧
        ∃ process : Executor.Process engine.executor engine.runner, process.job ∈ jobs ∧
          (process.outcome = .error raised ∨ ∃ completion read, process.outcome = .ok completion ∧
            (engine.Escapes read completion raised.failure ∨
              engine.ListenerFails read completion raised)) := by
  refine ⟨fun fs root counts testPath junit clover stderr failure => Reading.escapes_iff testPath,
    fun completion before => ⟨fun failure => fails_collect_of_escapes,
      fun raised after => escapes_of_fails_collect⟩, fun jobs before => ?_⟩
  rcases Action.returns_or_fails (engine.collectAll jobs) before with
    ⟨collected, after, returned⟩ | ⟨raised, after, failed⟩
  · obtain ⟨accounts, taken, rfl⟩ := Executor.execute_returns returned
    have complete : (accounts.map (·.job)).Perm jobs := by
      rw [taken.map_job]
      exact engine.executor.handedIn_turns jobs
    exact Or.inl ⟨accounts, after, taken, returned, complete,
      fun account _ failure => not_escapes_of_collected account⟩
  · obtain ⟨process, planned, broken | ⟨completion, read, _, finished, stopped⟩⟩ :=
      Executor.execute_fails failed
    · exact Or.inr ⟨raised, after, failed, process, planned, Or.inl broken⟩
    · exact Or.inr ⟨raised, after, failed, process, planned,
        Or.inr ⟨completion, read, finished, escapes_of_fails_collect stopped⟩⟩

/-- A directory in a Clover report is such a source file. -/
example : (match Reading.outcome SmallProject.files (Path.ofString "/p") [] "test/ATest.php"
    "<testsuites/>" (some "<coverage><file name='src'/></coverage>") "" with
    | .error (.file .isDirectory) => true
    | _ => false) = true := by
  decide +kernel

end TestImpact.Engine
