import TestImpact.Proofs.Execution.Turns
import TestImpact.Proofs.Process.Ending
import TestImpact.Proofs.SmallProject

/-!
# What test processes print

What a process writes decides whether the call of it has a result. If its time is up, all
bytes are taken. If it ends by itself, the bytes have to be texts, and others break the call
off (`System.broken_iff`), which no job survives: a run of several jobs has nothing to say about
any of them. Main statement: `Executor.completes_unless_unreadable`.
-/

namespace TestImpact

/-! ## Bytes that are no texts -/

/-- What a process wrote to its two channels are texts. -/
def Remains.Readable (remains : Remains) : Prop :=
  (∃ out, Utf8.encode out = remains.out) ∧ ∃ err, Utf8.encode err = remains.err

theorem Remains.completed?_eq_none_iff {remains : Remains} :
    remains.completed? = none ↔ ¬ remains.Readable := by
  have texts : ∀ bytes, (∃ text, Utf8.encode text = bytes) ↔ Utf8.decode? bytes ≠ none := by
    intro bytes
    rw [Option.ne_none_iff_exists']
    simp only [Utf8.decode?_eq_some_iff]
  unfold Readable completed?
  rw [texts, texts]
  cases Utf8.decode? remains.out <;> cases Utf8.decode? remains.err <;> simp

/-- A process has a result if its time was up, or if it wrote texts; otherwise the call of it is
broken off. -/
theorem Remains.reply_cases (remains : Remains) (command : Call) :
    ((remains.TimedOut command ∨ remains.Readable) ∧ ∃ process,
        remains.reply (command.options.getD {}).timeout = .finished process ∧
          process.status = remains.ending.status) ∨
      (¬ remains.TimedOut command ∧ ¬ remains.Readable) ∧
        remains.reply (command.options.getD {}).timeout = .broken .undecodable := by
  by_cases timedOut : remains.TimedOut command
  · obtain ⟨limit, interrupted⟩ := reply_of_timedOut timedOut
    rw [interrupted, timedOut.1]
    exact Or.inl ⟨Or.inl timedOut, _, rfl, rfl⟩
  rw [reply_of_inTime timedOut]
  cases completed : remains.completed? with
  | none => exact Or.inr ⟨⟨timedOut, completed?_eq_none_iff.1 completed⟩, rfl⟩
  | some process =>
    have readable : remains.Readable := by
      by_contra unreadable
      rw [completed?_eq_none_iff.2 unreadable] at completed
      cases completed
    simp only [completed?, bind, Option.bind_eq_some_iff, pure, Option.some.injEq] at completed
    obtain ⟨_, -, _, -, rfl⟩ := completed
    exact Or.inl ⟨Or.inr readable, _, rfl, rfl⟩

namespace System

variable {system : System} {earlier : List Call} {command : Call} {files : FileSystem}

/-- A call becomes a process that ends before its time is up and writes something that is no
text. -/
def Unreadable (system : System) (earlier : List Call) (command : Call) (files : FileSystem) :
    Prop :=
  ∃ remains after, system earlier command files = (.ok remains, after) ∧
    ¬ remains.TimedOut command ∧ ¬ remains.Readable

/-- A call is broken off before it becomes a process. -/
def Unborn (system : System) (earlier : List Call) (command : Call) (files : FileSystem)
    (failure : Failure) : Prop :=
  ∃ after, system earlier command files = (.error (.broken failure), after)

/-- A call is broken off either before it becomes a process, or by what the process writes. -/
theorem broken_iff {failure : Failure} :
    (system.runner earlier command files).1 = .broken failure ↔
      system.Unborn earlier command files failure ∨
        system.Unreadable earlier command files ∧ failure = .undecodable := by
  unfold System.runner Unborn Unreadable
  rcases system earlier command files with ⟨reply | remains, after⟩
  · simp
  · have born : ¬ ∃ last, ((.ok remains, after) : Except Reply Remains × FileSystem) =
        (.error (.broken failure), last) := fun ⟨_, same⟩ => nomatch same
    rw [or_iff_right born]
    rcases remains.reply_cases command with
      ⟨readable, process, replied, -⟩ | ⟨⟨inTime, unreadable⟩, replied⟩
    · simp only [replied, reduceCtorEq, false_iff]
      rintro ⟨⟨_, _, same, inTime, unreadable⟩, -⟩
      cases same
      exact readable.elim inTime unreadable
    · simp only [replied, Reply.broken.injEq]
      constructor
      · rintro rfl
        exact ⟨⟨remains, after, rfl, inTime, unreadable⟩, rfl⟩
      · rintro ⟨-, rfl⟩
        rfl

end System

/-! ## Jobs -/

namespace Executor

variable {α : Type} {executor : Executor} {system : System} {job : Job} {before after : World}

/-- The call of a job, from some world on, has no result. -/
def Breaks (executor : Executor) (system : System) (job : Job) (before : World)
    (failure : Failure) : Prop :=
  system.Unborn before.calls (executor.callOf job) before.files failure ∨
    system.Unreadable before.calls (executor.callOf job) before.files ∧ failure = .undecodable

theorem breaks_of_fails_runJob {raised : Raised}
    (failed : (executor.runJob system.runner job).Fails before raised after) :
    executor.Breaks system job before raised.failure ∧ raised.notes = [] := by
  obtain ⟨failure, broken, rfl⟩ := fails_runJob failed
  exact ⟨System.broken_iff.1 broken, rfl⟩

theorem not_breaks_of_returns_runJob {completion : Completion}
    (returned : (executor.runJob system.runner job).Returns before completion after)
    (failure : Failure) : ¬ executor.Breaks system job before failure := by
  intro breaks
  obtain ⟨answer, -, answered, -⟩ := returns_runJob.1 returned
  rw [System.broken_iff.2 breaks] at answered
  cases answer <;> cases answered

/-- A job has a completion exactly if the call of it has a result. -/
theorem returns_runJob_iff_not_breaks :
    (∃ completion after, (executor.runJob system.runner job).Returns before completion after) ↔
      ∀ failure, ¬ executor.Breaks system job before failure := by
  constructor
  · rintro ⟨completion, after, returned⟩
    exact not_breaks_of_returns_runJob returned
  · intro kept
    rcases Action.returns_or_fails (executor.runJob system.runner job) before with
      returned | ⟨raised, after, failed⟩
    · exact returned
    · exact absurd (breaks_of_fails_runJob failed).1 (kept raised.failure)

/-- What a process prints breaks its call off exactly if it ends by itself and prints something that
is no text; a process that is stopped because its time is up may print anything. So a job has a
completion unless its call never became a process or its process printed something that is no text.
In a run that returns, no job had such a process, and every job was run and handed on. Otherwise
the call of one job was broken off, or what it left could not be handed on, and the run fails with
that; so one process that always prints something that is no text takes the run with it. -/
theorem completes_unless_unreadable (executor : Executor) (system : System)
    (hand : Completion → Action α) :
    (∀ (remains : Remains) (command : Call),
      ((∃ process, remains.reply (command.options.getD {}).timeout = .finished process) ↔
          remains.TimedOut command ∨ remains.Readable) ∧
        (¬ (remains.TimedOut command ∨ remains.Readable) →
          remains.reply (command.options.getD {}).timeout = .broken .undecodable)) ∧
    (∀ job before,
      (∃ completion after,
          (executor.runJob system.runner job).Returns before completion after) ↔
        ∀ failure, ¬ executor.Breaks system job before failure) ∧
    (∀ jobs before outcomes after,
      (executor.execute system.runner jobs hand).Returns before outcomes after →
      ∃ accounts : List (Account executor system.runner hand),
        (accounts.map (·.job)).Perm jobs ∧ accounts.map (·.outcome) = outcomes ∧
          ∀ account ∈ accounts, ∀ failure,
            ¬ executor.Breaks system account.job account.process.called failure) ∧
    (∀ jobs before raised after,
      (executor.execute system.runner jobs hand).Fails before raised after →
      ∃ process : Process executor system.runner, process.job ∈ jobs ∧
        (executor.Breaks system process.job process.called raised.failure ∨
          ∃ completion read after, process.outcome = .ok completion ∧
            (hand completion).Fails read raised after)) ∧
    ∀ jobs, ∀ job ∈ jobs,
      (∀ earlier files, system.Unreadable earlier (executor.callOf job) files) →
      ∀ before outcomes after,
        ¬ (executor.execute system.runner jobs hand).Returns before outcomes after := by
  have accounted : ∀ jobs before outcomes after,
      (executor.execute system.runner jobs hand).Returns before outcomes after →
      ∃ accounts : List (Account executor system.runner hand),
        (accounts.map (·.job)).Perm jobs ∧ accounts.map (·.outcome) = outcomes ∧
          ∀ account ∈ accounts, ∀ failure,
            ¬ executor.Breaks system account.job account.process.called failure := by
    intro jobs before outcomes after returned
    obtain ⟨accounts, taken, given⟩ := execute_returns returned
    refine ⟨accounts, ?_, given, fun account _ => not_breaks_of_returns_runJob account.ran⟩
    rw [taken.map_job]
    exact executor.handedIn_turns jobs
  refine ⟨fun remains command => ?_, fun job before => returns_runJob_iff_not_breaks, accounted,
    ?_, ?_⟩
  · rcases remains.reply_cases command with ⟨kept, process, replied, -⟩ | ⟨lost, replied⟩
    · exact ⟨iff_of_true ⟨process, replied⟩ kept, fun other => absurd kept other⟩
    · have lost := not_or.2 lost
      refine ⟨iff_of_false ?_ lost, fun _ => replied⟩
      rintro ⟨process, finished⟩
      rw [replied] at finished
      cases finished
  · intro jobs before raised after failed
    obtain ⟨process, mem, broken | handed⟩ := execute_fails failed
    · have ran := Action.returns_attempt.1 process.ran
      rw [broken] at ran
      exact ⟨process, mem, Or.inl (breaks_of_fails_runJob ran).1⟩
    · exact ⟨process, mem, Or.inr handed⟩
  · intro jobs job mem unreadable before outcomes after returned
    obtain ⟨accounts, all, -, kept⟩ := accounted jobs before outcomes after returned
    obtain ⟨account, among, rfl⟩ := List.mem_map.1 (all.mem_iff.2 mem)
    exact kept account among .undecodable (Or.inr ⟨unreadable _ _, rfl⟩)

end Executor

/-! ## A run of the small project that is lost -/

namespace Executor

/-- Every process ends well and prints one byte that is no text. -/
def garbled : System := fun _ _ files => (.ok { ending := .exited 0, out := [0xff] }, files)

/-- Runs of the small project in which no process prints a text. -/
def garbledEngine : Engine :=
  { SmallProject.engine "" with runner := garbled.runner }

theorem unreadable_garbled (earlier : List Call) (command : Call) (files : FileSystem) :
    garbled.Unreadable earlier command files := by
  refine ⟨{ ending := .exited 0, out := [0xff] }, files, rfl, ?_, ?_⟩
  · rintro ⟨stopped, -⟩
    cases stopped
  · rintro ⟨⟨out, encoded⟩, -⟩
    have refused : Utf8.decode? [0xff] = none := by decide
    rw [Utf8.decode?_eq_some_iff.2 encoded] at refused
    cases refused

/-- One byte that is no text is enough for a run to fail, and no jobs with such processes can be run
to the end. -/
theorem lost_by_one_byte :
    (∃ after, (garbledEngine.run ["test/ATest.php"]).Fails SmallProject.world
        ⟨.undecodable, []⟩ after) ∧
      ∀ job rest before collected after,
        ¬ (garbledEngine.collectAll (job :: rest)).Returns before collected after := by
  have evaluated : (garbledEngine.run ["test/ATest.php"]).failsAs SmallProject.world
      ⟨.undecodable, []⟩ = true := by
    decide +kernel
  refine ⟨Action.exists_of_failsAs evaluated, fun job rest before collected after => ?_⟩
  obtain ⟨-, -, -, -, lost⟩ :=
    completes_unless_unreadable garbledEngine.executor garbled garbledEngine.collect
  exact lost (job :: rest) job List.mem_cons_self
    (fun earlier files => unreadable_garbled earlier _ files) before collected after

end Executor

end TestImpact
