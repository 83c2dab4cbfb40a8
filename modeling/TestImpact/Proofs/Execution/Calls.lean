import TestImpact.Proofs.Execution.Turns

/-!
# Which programs are called

An action keeps what a view shows of the world if that is the same after it, whether it returns
or fails (`Action.Keeps`), and is `Silent` if it calls no program. Jobs that are run
one at a time call their programs in the order of the list, one call for each job, and if
something goes wrong no job behind that one is called (`outcome_runEach`). What can go wrong
is that a call is broken off, or that what it left cannot be handed on (`StopsAt`).
-/

namespace TestImpact

/-! ## What actions leave as it was -/

namespace Action

variable {α β σ : Type} {view : World → σ} {action : Action α} {before after : World}

/-- The action leaves what a view shows of the world as it was, whether it returns or fails. -/
def Keeps (view : World → σ) (action : Action α) : Prop :=
  ∀ before, view (action.outcome before).2 = view before

theorem Returns.keeps {a : α} (returned : action.Returns before a after)
    (kept : action.Keeps view) : view after = view before := by
  have here := kept before
  rw [returned] at here
  exact here

theorem Fails.keeps {raised : Raised} (failed : action.Fails before raised after)
    (kept : action.Keeps view) : view after = view before := by
  have here := kept before
  rw [failed] at here
  exact here

theorem keeps_pure (a : α) : (pure a : Action α).Keeps view :=
  fun _ => rfl

theorem keeps_get : (get : Action World).Keeps view :=
  fun _ => rfl

theorem keeps_report {level : Level} {message : String} {emoji : Bool} {coloured : Option Bool}
    (printed : ∀ world output, view { world with output } = view world) :
    (report level message emoji coloured).Keeps view :=
  fun before => printed before _

theorem keeps_counting {action : Counting α}
    (learned : ∀ world lineCounts,
      view { world with knowledge := { world.knowledge with lineCounts } } = view world) :
    (counting action).Keeps view :=
  fun before => learned before _

theorem keeps_fail (failure : Failure) : (fail failure : Action α).Keeps view :=
  fun _ => rfl

theorem keeps_ofExcept (outcome : Except Failure α) : (ofExcept outcome).Keeps view := by
  cases outcome with
  | ok a => exact keeps_pure a
  | error failure => exact keeps_fail failure

theorem keeps_ask (question : FileSystem → Except Fault α) : (ask question).Keeps view :=
  fun before => keeps_ofExcept (orFailure (question before.files)) before

theorem keeps_change (filed : ∀ world files, view { world with files } = view world)
    (operation : FileSystem → Except Fault FileSystem) : (change operation).Keeps view := by
  intro before
  rw [outcome_change]
  cases operation before.files with
  | ok files => exact filed before files
  | error fault => rfl

theorem composes_keeps : Composes fun _ => Keeps view where
  ofPure := keeps_pure
  ofBind first later := by
    intro before
    refine @after_bind _ _ before (fun left right => view right = view left) _ _ ?_ (first before) ?_
    · exact fun kept kept' => kept'.trans kept
    · exact fun a between returned _ => later a before between returned between

theorem keeps_bind {next : α → Action β} (first : action.Keeps view)
    (later : ∀ a, (next a).Keeps view) : (action >>= next).Keeps view :=
  composes_keeps.ofBind first fun a _ _ _ => later a

/-- The action calls no program, whether it returns or fails. -/
def Silent (action : Action α) : Prop :=
  ∀ before, (action.outcome before).2.calls = before.calls

theorem silent_pure (a : α) : (pure a : Action α).Silent :=
  keeps_pure a

end Action

/-! ## Jobs one at a time -/

namespace Executor

variable {α : Type} {executor : Executor} {runner : Runner} {hand : Completion → Action α}

/-- A job at which a run one at a time stops: its call is broken off, or what it left cannot be
handed on. -/
inductive Stops (executor : Executor) (runner : Runner) (hand : Completion → Action α) (job : Job)
    (called : World) (raised : Raised) : Prop
  | broken : (runner called.calls (executor.callOf job) called.files).1 = .broken raised.failure →
      raised.notes = [] → Stops executor runner hand job called raised
  | handed {completion : Completion} {read after : World} :
      (executor.runJob runner job).Returns called completion read →
      (hand completion).Fails read raised after → Stops executor runner hand job called raised

/-- The last of the jobs that were called stops the run. -/
def StopsAt (executor : Executor) (runner : Runner) (hand : Completion → Action α)
    (before : World) (ran : List Job) (raised : Raised) : Prop :=
  ∃ earlier job called, ran = earlier ++ [job] ∧
    called.calls = before.calls ++ earlier.map executor.callOf ∧
    Stops executor runner hand job called raised

theorem StopsAt.cons {before next : World} {job : Job} {ran : List Job} {raised : Raised}
    (stops : StopsAt executor runner hand next ran raised)
    (called : next.calls = before.calls ++ [executor.callOf job]) :
    StopsAt executor runner hand before (job :: ran) raised := by
  obtain ⟨earlier, last, world, rfl, calls, stopped⟩ := stops
  refine ⟨job :: earlier, last, world, rfl, ?_, stopped⟩
  rw [calls, called, List.map_cons, List.append_assoc, List.singleton_append]

theorem calls_of_fails_runJob {job : Job} {before after : World} {raised : Raised}
    (failed : (executor.runJob runner job).Fails before raised after) :
    after.calls = before.calls ++ [executor.callOf job] := by
  simp only [runJob, Action.fails_bind, Action.not_fails_tick, Action.returns_tick,
    Action.fails_call, Action.not_fails_pure, false_or, and_false, exists_false, or_false] at failed
  obtain ⟨_, _, ⟨rfl, rfl⟩, -, rfl⟩ := failed
  rfl

/-- Jobs that are run one at a time call their programs in the order of the list, and all of them
unless one stops the run. -/
theorem outcome_runEach (executor : Executor) (runner : Runner)
    (silent : ∀ completion, (hand completion).Silent) (jobs : List Job) (before : World) :
    ∃ ran outcome after, (executor.runEach runner hand jobs).outcome before = (outcome, after) ∧
      ran <+: jobs ∧ after.calls = before.calls ++ ran.map executor.callOf ∧
      ((∃ given, outcome = .ok given ∧ ran = jobs) ∨
        ∃ raised, outcome = .error raised ∧ StopsAt executor runner hand before ran raised) := by
  induction jobs generalizing before with
  | nil => exact ⟨[], .ok [], before, rfl, List.prefix_rfl, (List.append_nil _).symm,
      Or.inl ⟨[], rfl, rfl⟩⟩
  | cons job rest ih =>
    have first_of_list : [job] <+: job :: rest := List.prefix_append [job] rest
    rcases Action.returns_or_fails (executor.runJob runner job) before with
      ⟨completion, read, ran⟩ | ⟨raised, after, failed⟩
    · obtain ⟨_, _, -, -, -, rfl⟩ := returns_runJob.1 ran
      rcases Action.returns_or_fails (hand completion) (executor.afterJob runner job before) with
        ⟨given, next, handed⟩ | ⟨raised, after, failed⟩
      · have called : next.calls = before.calls ++ [executor.callOf job] :=
          handed.keeps (silent completion)
        obtain ⟨later, outcome, after, went, below, calls, ended⟩ := ih next
        refine ⟨job :: later, (given :: ·) <$> outcome, after, ?_,
          List.cons_prefix_cons.2 ⟨rfl, below⟩, ?_, ?_⟩
        · rw [runEach, Action.outcome_bind, ran]
          simp only
          rw [Action.outcome_bind, handed]
          simp only
          rw [Action.outcome_bind, went]
          cases outcome <;> rfl
        · rw [calls, called, List.map_cons, List.append_assoc, List.singleton_append]
        · rcases ended with ⟨others, rfl, rfl⟩ | ⟨raised, rfl, stops⟩
          · exact Or.inl ⟨given :: others, rfl, rfl⟩
          · exact Or.inr ⟨raised, rfl, stops.cons called⟩
      · refine ⟨[job], .error raised, after, ?_, first_of_list, failed.keeps (silent completion),
          Or.inr ⟨raised, rfl, [], job, before, rfl, (List.append_nil _).symm,
            .handed ran failed⟩⟩
        rw [runEach, Action.outcome_bind, ran]
        simp only
        rw [Action.outcome_bind, failed]
    · obtain ⟨failure, broken, rfl⟩ := fails_runJob failed
      refine ⟨[job], .error ⟨failure, []⟩, after, ?_, first_of_list, calls_of_fails_runJob failed,
        Or.inr ⟨⟨failure, []⟩, rfl, [], job, before, rfl, (List.append_nil _).symm,
          .broken broken rfl⟩⟩
      rw [runEach, Action.outcome_bind, failed]

end Executor

end TestImpact
