import Mathlib.Data.List.Count
import TestImpact.Execution.Job
import TestImpact.Proofs.Action

/-!
# What a run does about each job

A run takes turns, and what it gives is a list of outcomes. An `Account` says where an
outcome comes from: in some world the process of a job ran, and in some later one what it
left was handed on. `Taken` is the run as a relation. It leads from world to world and
keeps the accounts.

* `execute_eq_runTurns`: jobs that are run one at a time take turns, too.
* `execute_returns`: a run that returns takes turns and gives the outcomes of its accounts.
* `execute_fails`: a run that fails does so because a process was broken off or because
  a completion could not be handed on.
-/

namespace TestImpact

/-! ## Turns -/

@[simp]
theorem Turn.oneByOne_cons (job : Job) (rest : List Job) :
    Turn.oneByOne (job :: rest) = .ends job :: .handed job :: Turn.oneByOne rest :=
  rfl

@[simp]
theorem endedIn_ends (job : Job) (rest : List Turn) :
    endedIn (.ends job :: rest) = job :: endedIn rest :=
  rfl

@[simp]
theorem endedIn_handed (job : Job) (rest : List Turn) :
    endedIn (.handed job :: rest) = endedIn rest :=
  rfl

@[simp]
theorem handedIn_ends (job : Job) (rest : List Turn) :
    handedIn (.ends job :: rest) = handedIn rest :=
  rfl

@[simp]
theorem handedIn_handed (job : Job) (rest : List Turn) :
    handedIn (.handed job :: rest) = job :: handedIn rest :=
  rfl

/-- Does every job that is handed on wait or have a process that ended before? -/
def Turn.OrderedAfter (waiting : List Job) (turns : List Turn) : Prop :=
  ∀ before job after, turns = before ++ .handed job :: after →
    before.count (.handed job) < waiting.count job + before.count (.ends job)

theorem Turn.Ordered.orderedAfter {turns : List Turn} (ordered : Turn.Ordered turns) :
    Turn.OrderedAfter [] turns := by
  intro before job after eq
  have first := ordered before job after eq
  rw [List.count_nil]
  omega

theorem Turn.OrderedAfter.of_ends {waiting : List Job} {job : Job} {rest : List Turn}
    (ordered : Turn.OrderedAfter waiting (.ends job :: rest)) :
    Turn.OrderedAfter (waiting ++ [job]) rest := by
  intro before other after eq
  have whole := ordered (.ends job :: before) other after (by rw [eq, List.cons_append])
  by_cases same : job = other
  · subst same
    simp only [List.count_append, List.count_cons_self, List.count_nil] at whole ⊢
    simp only [List.count_cons, reduceCtorEq, beq_iff_eq, if_false] at whole
    omega
  · simp only [List.count_append, List.count_cons, List.count_nil, beq_iff_eq, same, reduceCtorEq,
      Turn.ends.injEq, if_false] at whole ⊢
    omega

theorem Turn.OrderedAfter.of_handed {waiting : List Job} {job : Job} {rest : List Turn}
    (ordered : Turn.OrderedAfter waiting (.handed job :: rest)) :
    job ∈ waiting ∧ Turn.OrderedAfter (waiting.erase job) rest := by
  have waits : job ∈ waiting := by
    have first := ordered [] job rest rfl
    rw [← List.count_pos_iff]
    simp only [List.count_nil] at first
    omega
  refine ⟨waits, ?_⟩
  intro before other after eq
  have whole := ordered (.handed job :: before) other after (by rw [eq, List.cons_append])
  by_cases same : job = other
  · subst same
    have counted := List.count_pos_iff.2 waits
    simp only [List.count_cons, beq_iff_eq, reduceCtorEq, if_true, if_false] at whole
    rw [List.count_erase_self]
    omega
  · rw [List.count_erase_of_ne (Ne.symm same)]
    simp only [List.count_cons, beq_iff_eq, same, reduceCtorEq, Turn.handed.injEq,
      if_false] at whole
    omega

/-! ## Every order is possible -/

/-- The turns in which all processes end, and then what they left is handed on in some order. -/
def Turn.allThen (jobs order : List Job) : List Turn :=
  jobs.map .ends ++ order.map .handed

theorem endedIn_allThen (jobs order : List Job) : endedIn (Turn.allThen jobs order) = jobs := by
  unfold endedIn Turn.allThen
  rw [List.filterMap_append, List.filterMap_map, List.filterMap_map]
  have all : jobs.filterMap (Turn.ended? ∘ Turn.ends) = jobs := List.filterMap_some
  have nothing : order.filterMap (Turn.ended? ∘ Turn.handed) = [] := by
    rw [List.filterMap_eq_nil_iff]
    exact fun _ _ => rfl
  rw [all, nothing, List.append_nil]

theorem handedIn_allThen (jobs order : List Job) : handedIn (Turn.allThen jobs order) = order := by
  unfold handedIn Turn.allThen
  rw [List.filterMap_append, List.filterMap_map, List.filterMap_map]
  have nothing : jobs.filterMap (Turn.handed? ∘ Turn.ends) = [] := by
    rw [List.filterMap_eq_nil_iff]
    exact fun _ _ => rfl
  have all : order.filterMap (Turn.handed? ∘ Turn.handed) = order := List.filterMap_some
  rw [nothing, all, List.nil_append]

theorem ordered_allThen {jobs order : List Job} (perm : order.Perm jobs) :
    Turn.Ordered (Turn.allThen jobs order) := by
  intro before job after eq
  have ends : jobs.count job ≤ (jobs.map Turn.ends).count (.ends job) := List.count_le_count_map
  have handed : (order.map Turn.handed).count (.handed job) = jobs.count job := by
    rw [List.count_map_of_injective order Turn.handed (fun _ _ same => Turn.handed.inj same),
      perm.count_eq]
  have none_handed : (jobs.map Turn.ends).count (.handed job) = 0 := by
    rw [List.count_eq_zero]
    simp
  rcases List.append_eq_append_iff.1 eq with ⟨passed, rfl, later⟩ | ⟨left, ended, later⟩
  · rw [later, List.count_append, List.count_cons_self] at handed
    rw [List.count_append, List.count_append]
    omega
  · cases left with
    | nil =>
      rw [List.append_nil] at ended
      rw [List.nil_append] at later
      rw [← later, List.count_cons_self] at handed
      rw [← ended]
      omega
    | cons turn rest =>
      obtain ⟨rfl, -⟩ := List.cons.inj later
      have mem : Turn.handed job ∈ jobs.map Turn.ends := by
        rw [ended]
        exact List.mem_append_right _ List.mem_cons_self
      simp at mem

/-- The schedule that hands some jobs on in a given order, when all their processes have ended, and
any other ones one by one. -/
def Schedule.inOrder {jobs order : List Job} (perm : order.Perm jobs) : Schedule where
  turns others := if others = jobs then Turn.allThen jobs order else Turn.oneByOne others
  ended others := by
    split
    next same =>
      rw [endedIn_allThen, same]
    next => exact .of_eq (endedIn_oneByOne others)
  handed others := by
    split
    next same =>
      rw [handedIn_allThen, same]
      exact perm
    next => exact .of_eq (handedIn_oneByOne others)
  ordered others := by
    split
    next => exact ordered_allThen perm
    next => exact ordered_oneByOne others

/-- Completions can be handed on in every order. -/
theorem handedIn_inOrder {jobs order : List Job} (perm : order.Perm jobs) :
    handedIn ((Schedule.inOrder perm).turns jobs) = order := by
  simp only [Schedule.inOrder, if_true]
  exact handedIn_allThen jobs order

namespace Executor

variable {α : Type} (executor : Executor) (runner : Runner) (hand : Completion → Action α)

/-- The turns that a run of some jobs takes. -/
def turns (jobs : List Job) : List Turn :=
  if executor.isSerial jobs then Turn.oneByOne jobs else executor.schedule.turns jobs

theorem turns_of_isSerial {jobs : List Job} (serial : executor.isSerial jobs = true) :
    executor.turns jobs = Turn.oneByOne jobs :=
  if_pos serial

theorem endedIn_turns (jobs : List Job) : (endedIn (executor.turns jobs)).Perm jobs := by
  unfold turns
  split
  · exact .of_eq (endedIn_oneByOne jobs)
  · exact executor.schedule.ended jobs

theorem handedIn_turns (jobs : List Job) : (handedIn (executor.turns jobs)).Perm jobs := by
  unfold turns
  split
  · exact .of_eq (handedIn_oneByOne jobs)
  · exact executor.schedule.handed jobs

theorem ordered_turns (jobs : List Job) : Turn.Ordered (executor.turns jobs) := by
  unfold turns
  split
  · exact ordered_oneByOne jobs
  · exact executor.schedule.ordered jobs

/-- To run jobs one at a time is to take their turns one by one. -/
theorem runEach_eq_runTurns (jobs : List Job) :
    executor.runEach runner hand jobs = executor.runTurns runner hand [] (Turn.oneByOne jobs) := by
  induction jobs with
  | nil => rfl
  | cons job rest ih =>
    simp only [runEach, Turn.oneByOne_cons, runTurns, List.nil_append, List.lookup_cons_self,
      List.eraseP_cons, List.eraseP_nil, decide_true, cond_true, ← ih]
    exact (Action.attempt_bind_release _ _).symm

/-- Every run takes turns. -/
theorem execute_eq_runTurns (jobs : List Job) :
    executor.execute runner jobs hand = executor.runTurns runner hand [] (executor.turns jobs) := by
  unfold execute turns
  split
  · exact executor.runEach_eq_runTurns runner hand jobs
  · rfl

/-! ## The process of a job -/

section

variable {executor runner} {job : Job} {completion : Completion} {before after : World}

/-- The world after the process of a job. -/
def afterJob (executor : Executor) (runner : Runner) (job : Job) (before : World) : World :=
  { Action.called runner (executor.callOf job) before with clock := before.clock.drop 2 }

@[simp]
theorem calls_afterJob (before : World) :
    (executor.afterJob runner job before).calls = before.calls ++ [executor.callOf job] :=
  rfl

@[simp]
theorem files_afterJob (before : World) :
    (executor.afterJob runner job before).files =
      (runner before.calls (executor.callOf job) before.files).2 :=
  rfl

@[simp]
theorem knowledge_afterJob (before : World) :
    (executor.afterJob runner job before).knowledge = before.knowledge :=
  rfl

@[simp]
theorem delivered_afterJob (before : World) :
    (executor.afterJob runner job before).delivered = before.delivered :=
  rfl

theorem returns_runJob :
    (executor.runJob runner job).Returns before completion after ↔
      ∃ answer elapsed,
        (runner before.calls (executor.callOf job) before.files).1 = .answered answer ∧
        elapsed = (before.clock.drop 1).headD 0 - before.clock.headD 0 ∧
        completion = .of job elapsed answer ∧ after = executor.afterJob runner job before := by
  simp only [runJob, Action.returns_bind, Action.returns_tick, Action.returns_call,
    Action.returns_pure]
  constructor
  · rintro ⟨_, _, ⟨rfl, rfl⟩, answer, _, ⟨answered, rfl⟩, _, _, ⟨rfl, rfl⟩, rfl, rfl⟩
    exact ⟨answer, _, answered, rfl, rfl, by simp [afterJob, Action.called]⟩
  · rintro ⟨answer, elapsed, answered, rfl, rfl, rfl⟩
    refine ⟨_, _, ⟨rfl, rfl⟩, answer, _, ⟨answered, rfl⟩, _, _, ⟨rfl, rfl⟩, rfl, ?_⟩
    simp [afterJob, Action.called]

theorem job_of_returns_runJob
    (returned : (executor.runJob runner job).Returns before completion after) :
    completion.job = job := by
  obtain ⟨answer, elapsed, -, -, rfl, -⟩ := returns_runJob.1 returned
  cases answer <;> rfl

/-- A process is broken off only by what the runner replies. -/
theorem fails_runJob {raised : Raised}
    (failed : (executor.runJob runner job).Fails before raised after) :
    ∃ failure, (runner before.calls (executor.callOf job) before.files).1 = .broken failure ∧
      raised = ⟨failure, []⟩ := by
  simp only [runJob, Action.fails_bind, Action.not_fails_tick, Action.returns_tick,
    Action.fails_call, Action.not_fails_pure, false_or, and_false, exists_false, or_false] at failed
  obtain ⟨_, _, ⟨rfl, rfl⟩, ⟨failure, broken, rfl⟩, -⟩ := failed
  exact ⟨failure, broken, rfl⟩

end

/-! ## What waits -/

theorem map_eraseP_eq_erase {ε : Type} {jobOf : ε → Job} (job : Job) (waiting : List ε) :
    (waiting.eraseP (jobOf · = job)).map jobOf = (waiting.map jobOf).erase job := by
  induction waiting with
  | nil => rfl
  | cons entry rest ih =>
    rw [List.eraseP_cons, List.map_cons, List.erase_cons]
    by_cases same : jobOf entry = job
    · simp [same]
    · simp [same, ih]

theorem exists_lookup_of_waiting {waiting : Waiting} {job : Job}
    (waits : job ∈ waiting.map Prod.fst) :
    ∃ outcome, waiting.lookup job = some outcome ∧ (job, outcome) ∈ waiting := by
  obtain ⟨⟨_, outcome⟩, mem, rfl⟩ := List.mem_map.1 waits
  cases found : waiting.lookup _ with
  | some first =>
    obtain ⟨passed, rest, rfl, -⟩ := List.lookup_eq_some_iff.1 found
    exact ⟨first, rfl, List.mem_append_right _ List.mem_cons_self⟩
  | none =>
    have absent := List.lookup_eq_none_iff.1 found _ mem
    simp at absent

/-! ## Processes that ran, and accounts -/

/-- A process that ran: the job, the worlds before and after it, and what became of it. -/
structure Process where
  job : Job
  called : World
  outcome : Except Raised Completion
  ended : World
  ran : (Action.attempt (executor.runJob runner job)).Returns called outcome ended

/-- What a run did about a job: its process ran, and what it left was handed on in some world. -/
structure Account where
  process : Process executor runner
  completion : Completion
  finished : process.outcome = .ok completion
  read : World
  outcome : α
  after : World
  handed : (hand completion).Returns read outcome after

/-- The job of an account. -/
def Account.job (account : Account executor runner hand) : Job :=
  account.process.job

/-- A run takes turns: it leads from some waiting processes and a world to a last world, and has
accounts of the jobs that are handed on, in order. -/
inductive Taken : List (Process executor runner) → World → List Turn →
    List (Account executor runner hand) → World → Prop
  | done {waiting : List (Process executor runner)} {world : World} :
      Taken waiting world [] [] world
  | ends {waiting : List (Process executor runner)} {rest : List Turn}
      {accounts : List (Account executor runner hand)} {last : World}
      (process : Process executor runner) :
      Taken (waiting ++ [process]) process.ended rest accounts last →
      Taken waiting process.called (.ends process.job :: rest) accounts last
  | handed {waiting : List (Process executor runner)} {rest : List Turn}
      {accounts : List (Account executor runner hand)} {last : World}
      (account : Account executor runner hand) :
      waiting.find? (·.job = account.job) = some account.process →
      Taken (waiting.eraseP (·.job = account.job)) account.after rest accounts last →
      Taken waiting account.read (.handed account.job :: rest) (account :: accounts) last

variable {executor runner hand} {turns : List Turn} {waiting : List (Process executor runner)}
  {before after : World}

/-- A process among those that wait. -/
def Process.entry (process : Process executor runner) : Job × Except Raised Completion :=
  (process.job, process.outcome)

theorem Account.ran (account : Account executor runner hand) :
    (executor.runJob runner account.job).Returns account.process.called account.completion
      account.process.ended := by
  have ran := Action.returns_attempt.1 account.process.ran
  rw [account.finished] at ran
  exact ran

theorem Account.job_completion (account : Account executor runner hand) :
    account.completion.job = account.job :=
  job_of_returns_runJob account.ran

theorem Taken.map_job {accounts : List (Account executor runner hand)}
    (taken : Taken executor runner hand waiting before turns accounts after) :
    accounts.map (·.job) = handedIn turns := by
  induction taken with
  | done => rfl
  | ends process _ ih => exact ih
  | handed account _ _ ih => rw [List.map_cons, ih, handedIn_handed]

theorem lookup_entries (job : Job) (waiting : List (Process executor runner)) :
    List.lookup job (waiting.map Process.entry) =
      (waiting.find? (·.job = job)).map Process.outcome := by
  induction waiting with
  | nil => rfl
  | cons process rest ih =>
    rw [List.map_cons, Process.entry, List.lookup_cons, List.find?_cons, ih]
    by_cases same : process.job = job
    · simp [same]
    · have differs : (job == process.job) = false := by simpa using Ne.symm same
      simp [same, differs]

theorem eraseP_entries (job : Job) (waiting : List (Process executor runner)) :
    (waiting.map Process.entry).eraseP (·.1 = job) =
      (waiting.eraseP (·.job = job)).map Process.entry := by
  rw [List.eraseP_map]
  rfl

theorem job_of_find? {job : Job} {process : Process executor runner}
    (found : waiting.find? (·.job = job) = some process) : process.job = job := by
  have same := List.find?_some found
  exact of_decide_eq_true same

theorem exists_find?_of_waiting {job : Job} (waits : job ∈ waiting.map Process.job) :
    ∃ process, waiting.find? (·.job = job) = some process ∧ process.job = job := by
  obtain ⟨process, mem, same⟩ := List.mem_map.1 waits
  cases found : waiting.find? (·.job = job) with
  | some first => exact ⟨first, rfl, job_of_find? found⟩
  | none =>
    have differs := List.find?_eq_none.1 found process mem
    simp [same] at differs

/-- A run that returns takes its turns, and gives the outcomes of its accounts. -/
theorem runTurns_returns {outcomes : List α}
    (ordered : Turn.OrderedAfter (waiting.map Process.job) turns)
    (returned : (executor.runTurns runner hand (waiting.map Process.entry) turns).Returns before
      outcomes after) :
    ∃ accounts, Taken executor runner hand waiting before turns accounts after ∧
      accounts.map (·.outcome) = outcomes := by
  induction turns generalizing waiting before outcomes with
  | nil =>
    obtain ⟨rfl, rfl⟩ := Action.returns_pure.1 returned
    exact ⟨[], .done, rfl⟩
  | cons turn rest ih =>
    cases turn with
    | ends job =>
      obtain ⟨outcome, between, ran, later⟩ := Action.returns_bind.1 returned
      let process : Process executor runner := ⟨job, before, outcome, between, ran⟩
      have later' : (executor.runTurns runner hand ((waiting ++ [process]).map Process.entry)
          rest).Returns between outcomes after := by
        rw [List.map_append]
        exact later
      have ordered' : Turn.OrderedAfter ((waiting ++ [process]).map Process.job) rest := by
        rw [List.map_append]
        exact ordered.of_ends
      obtain ⟨accounts, taken, given⟩ := ih ordered' later'
      exact ⟨accounts, .ends process taken, given⟩
    | handed job =>
      obtain ⟨waits, later⟩ := ordered.of_handed
      obtain ⟨process, found, rfl⟩ := exists_find?_of_waiting waits
      simp only [runTurns, lookup_entries, found, Option.map_some, Action.returns_bind,
        Action.returns_pure, eraseP_entries] at returned
      obtain ⟨completion, _, released, first, between, handed, others, _, went, rfl, rfl⟩ :=
        returned
      obtain ⟨finished, rfl⟩ := Action.returns_release.1 released
      rw [← map_eraseP_eq_erase] at later
      obtain ⟨accounts, taken, rfl⟩ := ih later went
      let account : Account executor runner hand :=
        ⟨process, completion, finished, _, first, between, handed⟩
      exact ⟨account :: accounts, .handed account found taken, rfl⟩

/-- A run from some waiting processes fails because the process of a job was broken off, or because
what it left could not be handed on. -/
theorem runTurns_fails {raised : Raised}
    (failed : (executor.runTurns runner hand (waiting.map Process.entry) turns).Fails before raised
      after) :
    ∃ process : Process executor runner, process.job ∈ handedIn turns ∧
      (process.outcome = .error raised ∨ ∃ completion read after,
        process.outcome = .ok completion ∧ (hand completion).Fails read raised after) := by
  induction turns generalizing waiting before with
  | nil => exact absurd failed Action.not_fails_pure
  | cons turn rest ih =>
    cases turn with
    | ends job =>
      rcases Action.fails_bind.1 failed with attempted | ⟨outcome, between, ran, later⟩
      · exact absurd attempted Action.not_fails_attempt
      · let process : Process executor runner := ⟨job, before, outcome, between, ran⟩
        have later' : (executor.runTurns runner hand ((waiting ++ [process]).map Process.entry)
            rest).Fails between raised after := by
          rw [List.map_append]
          exact later
        exact ih later'
    | handed job =>
      have onward : ∀ {waiting : List (Process executor runner)} {start : World},
          (executor.runTurns runner hand (waiting.map Process.entry) rest).Fails start raised
            after →
          ∃ process : Process executor runner, process.job ∈ handedIn (.handed job :: rest) ∧
            (process.outcome = .error raised ∨ ∃ completion read after,
              process.outcome = .ok completion ∧ (hand completion).Fails read raised after) := by
        intro waiting start later
        obtain ⟨process, mem, cause⟩ := ih later
        exact ⟨process, List.mem_cons_of_mem _ mem, cause⟩
      simp only [runTurns, lookup_entries] at failed
      cases found : waiting.find? (·.job = job) with
      | none =>
        rw [found] at failed
        exact onward failed
      | some process =>
        have listed : process.job ∈ handedIn (.handed job :: rest) := by
          rw [job_of_find? found]
          exact List.mem_cons_self
        simp only [found, Option.map_some, Action.fails_bind, Action.returns_release,
          Action.fails_release, Action.not_fails_pure, and_false, exists_false, or_false,
          eraseP_entries] at failed
        rcases failed with ⟨broken, -⟩ | ⟨completion, _, ⟨finished, rfl⟩, failed⟩
        · exact ⟨process, listed, Or.inl broken⟩
        · rcases failed with handed | ⟨_, _, -, later⟩
          · exact ⟨process, listed, Or.inr ⟨completion, _, _, finished, handed⟩⟩
          · exact onward later

/-- A run that returns takes turns, from no process that waits, and gives the outcomes of its
accounts. -/
theorem execute_returns {jobs : List Job} {outcomes : List α}
    (returned : (executor.execute runner jobs hand).Returns before outcomes after) :
    ∃ accounts, Taken executor runner hand [] before (executor.turns jobs) accounts after ∧
      accounts.map (·.outcome) = outcomes := by
  rw [execute_eq_runTurns] at returned
  have returned' : (executor.runTurns runner hand
      (([] : List (Process executor runner)).map Process.entry)
      (executor.turns jobs)).Returns before outcomes after := returned
  exact runTurns_returns (executor.ordered_turns jobs).orderedAfter returned'

/-- A run fails because the process of a job was broken off, or because what it left could not be
handed on. -/
theorem execute_fails {jobs : List Job} {raised : Raised}
    (failed : (executor.execute runner jobs hand).Fails before raised after) :
    ∃ process : Process executor runner, process.job ∈ jobs ∧
      (process.outcome = .error raised ∨ ∃ completion read after,
        process.outcome = .ok completion ∧ (hand completion).Fails read raised after) := by
  rw [execute_eq_runTurns] at failed
  have failed' : (executor.runTurns runner hand
      (([] : List (Process executor runner)).map Process.entry)
      (executor.turns jobs)).Fails before raised after := failed
  obtain ⟨process, mem, cause⟩ := runTurns_fails failed'
  exact ⟨process, (executor.handedIn_turns jobs).mem_iff.1 mem, cause⟩

end Executor

end TestImpact
