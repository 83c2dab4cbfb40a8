import TestImpact.World

/-!
# What comes of actions

An action that is done in a world either returns or fails, and in both cases leaves a
world. `Action.Returns` and `Action.Fails` say so as relations, and the theorems here take
an action apart: what a sequence returns comes from what its parts return
(`returns_bind`), and a sequence fails where one of its parts does (`fails_bind`).
-/

namespace TestImpact

/-- The reply to a call that is not broken off. -/
def Reply.answered : Except Refusal Finished → Reply
  | .ok process => .finished process
  | .error refusal => .notStarted refusal

namespace Action

variable {α β : Type} {before between after : World}

/-- What comes of an action in a world, and the world that it leaves. -/
def outcome (action : Action α) (before : World) : Except Raised α × World :=
  action.run.run before

/-- From the world `before` the action returns `a` and leaves the world `after`. -/
def Returns (action : Action α) (before : World) (a : α) (after : World) : Prop :=
  action.outcome before = (.ok a, after)

/-- From the world `before` the action fails with `raised` and leaves the world `after`. -/
def Fails (action : Action α) (before : World) (raised : Raised) (after : World) : Prop :=
  action.outcome before = (.error raised, after)

/-! ## One action, one outcome -/

theorem returns_or_fails (action : Action α) (before : World) :
    (∃ a after, action.Returns before a after) ∨
      ∃ raised after, action.Fails before raised after := by
  unfold Returns Fails
  rcases action.outcome before with ⟨_ | _, _⟩
  · exact Or.inr ⟨_, _, rfl⟩
  · exact Or.inl ⟨_, _, rfl⟩

theorem Returns.unique {action : Action α} {a b : α} {left right : World}
    (first : action.Returns before a left) (second : action.Returns before b right) :
    a = b ∧ left = right := by
  have same : (Except.ok a, left) = (Except.ok b, right) := first.symm.trans second
  cases same
  exact ⟨rfl, rfl⟩

/-- What an action returns is all that it returns. -/
theorem Returns.iff {action : Action α} {a b : α} {between after : World}
    (ran : action.Returns before a between) :
    action.Returns before b after ↔ b = a ∧ after = between := by
  refine ⟨fun again => again.unique ran, ?_⟩
  rintro ⟨rfl, rfl⟩
  exact ran

theorem Returns.not_fails {action : Action α} {a : α} {raised : Raised} {left right : World}
    (returned : action.Returns before a left) : ¬ action.Fails before raised right := by
  intro failed
  cases congrArg Prod.fst (returned.symm.trans failed)

/-- Two actions are the same if they come to the same in every world. -/
theorem ext {left right : Action α} (same : ∀ before, left.outcome before = right.outcome before) :
    left = right :=
  funext same

/-! ## Sequences -/

theorem outcome_bind (action : Action α) (next : α → Action β) (before : World) :
    (action >>= next).outcome before =
      match action.outcome before with
      | (.ok a, between) => (next a).outcome between
      | (.error raised, between) => (.error raised, between) := by
  have unfolded : (action >>= next).outcome before =
      (ExceptT.bindCont next (action.outcome before).1) (action.outcome before).2 := rfl
  rw [unfolded]
  rcases action.outcome before with ⟨_ | _, _⟩ <;> rfl

/-- A relation that goes on from world to world holds across a sequence if it holds across its
parts. -/
theorem after_bind {relation : World → World → Prop} {action : Action α} {next : α → Action β}
    (trans : ∀ {between after}, relation before between → relation between after →
      relation before after)
    (first : relation before (action.outcome before).2)
    (later : ∀ a between, action.Returns before a between → relation before between →
      relation between ((next a).outcome between).2) :
    relation before ((action >>= next).outcome before).2 := by
  rw [outcome_bind]
  rcases found : action.outcome before with ⟨_ | a, between⟩
  · rw [found] at first
    exact first
  · rw [found] at first
    exact trans first (later a between found first)

/-- A property of actions that a sequence has if its parts have it. -/
structure Composes (property : ∀ α : Type, Action α → Prop) : Prop where
  ofPure : ∀ {α : Type} (a : α), property α (pure a)
  ofBind : ∀ {α β : Type} {action : Action α} {next : α → Action β}, property α action →
    (∀ a before after, action.Returns before a after → property β (next a)) →
    property β (action >>= next)

theorem Composes.forM {property : ∀ α : Type, Action α → Prop} (composes : Composes property)
    {step : β → Action PUnit} (each : ∀ b, property PUnit (step b)) (steps : List β) :
    property PUnit (steps.forM step) := by
  induction steps with
  | nil => exact composes.ofPure _
  | cons first rest ih => exact composes.ofBind (each first) fun _ _ _ _ => ih

@[simp]
theorem returns_pure {a b : α} :
    (pure a : Action α).Returns before b after ↔ b = a ∧ after = before :=
  Returns.iff rfl

@[simp]
theorem not_fails_pure {a : α} {raised : Raised} :
    ¬ (pure a : Action α).Fails before raised after :=
  fun failed => nomatch failed

@[simp]
theorem returns_bind {action : Action α} {next : α → Action β} {b : β} :
    (action >>= next).Returns before b after ↔
      ∃ a between, action.Returns before a between ∧ (next a).Returns between b after := by
  unfold Returns
  rw [outcome_bind]
  constructor
  · intro returned
    split at returned
    · exact ⟨_, _, ‹_›, returned⟩
    · cases returned
  · rintro ⟨a, between, first, second⟩
    rw [first]
    exact second

@[simp]
theorem fails_bind {action : Action α} {next : α → Action β} {raised : Raised} :
    (action >>= next).Fails before raised after ↔
      action.Fails before raised after ∨
        ∃ a between, action.Returns before a between ∧ (next a).Fails between raised after := by
  unfold Fails Returns
  rw [outcome_bind]
  constructor
  · intro failed
    split at failed
    · exact Or.inr ⟨_, _, ‹_›, failed⟩
    · cases failed
      exact Or.inl ‹_›
  · rintro (failed | ⟨a, between, first, second⟩)
    · rw [failed]
    · rw [first]
      exact second

@[simp]
theorem returns_map {action : Action α} {change : α → β} {b : β} :
    (change <$> action).Returns before b after ↔
      ∃ a, action.Returns before a after ∧ b = change a := by
  rw [map_eq_pure_bind, returns_bind]
  constructor
  · rintro ⟨a, between, returned, last⟩
    obtain ⟨rfl, rfl⟩ := returns_pure.1 last
    exact ⟨a, returned, rfl⟩
  · rintro ⟨a, returned, rfl⟩
    exact ⟨a, after, returned, returns_pure.2 ⟨rfl, rfl⟩⟩

@[simp]
theorem fails_map {action : Action α} {change : α → β} {raised : Raised} :
    (change <$> action).Fails before raised after ↔ action.Fails before raised after := by
  rw [map_eq_pure_bind, fails_bind]
  constructor
  · rintro (failed | ⟨a, between, -, last⟩)
    · exact failed
    · exact absurd last not_fails_pure
  · exact Or.inl

/-! ## Single steps -/

@[simp]
theorem returns_get {world : World} :
    (get : Action World).Returns before world after ↔ world = before ∧ after = before :=
  Returns.iff rfl

@[simp]
theorem not_fails_get {raised : Raised} : ¬ (get : Action World).Fails before raised after :=
  fun failed => nomatch failed

theorem outcome_get_bind (next : World → Action β) (before : World) :
    (get >>= next).outcome before = (next before).outcome before :=
  rfl

theorem returns_get_bind {next : World → Action β} {b : β} :
    (get >>= next).Returns before b after ↔ (next before).Returns before b after :=
  Iff.rfl

theorem fails_get_bind {next : World → Action β} {raised : Raised} :
    (get >>= next).Fails before raised after ↔ (next before).Fails before raised after :=
  Iff.rfl

@[simp]
theorem returns_modify {change : World → World} {u : PUnit} :
    (modify change : Action PUnit).Returns before u after ↔ after = change before := by
  constructor
  · intro returned
    cases returned
    rfl
  · rintro rfl
    rfl

@[simp]
theorem not_fails_modify {change : World → World} {raised : Raised} :
    ¬ (modify change : Action PUnit).Fails before raised after :=
  fun failed => nomatch failed

@[simp]
theorem not_returns_throw {raised : Raised} {a : α} :
    ¬ (throw raised : Action α).Returns before a after :=
  fun returned => nomatch returned

@[simp]
theorem fails_throw {raised other : Raised} :
    (throw raised : Action α).Fails before other after ↔ other = raised ∧ after = before := by
  constructor
  · intro failed
    cases failed
    exact ⟨rfl, rfl⟩
  · rintro ⟨rfl, rfl⟩
    rfl

@[simp]
theorem not_returns_fail {failure : Failure} {a : α} :
    ¬ (fail failure : Action α).Returns before a after :=
  not_returns_throw

@[simp]
theorem fails_fail {failure : Failure} {raised : Raised} :
    (fail failure : Action α).Fails before raised after ↔ raised = ⟨failure, []⟩ ∧ after = before :=
  fails_throw

@[simp]
theorem returns_ofExcept {outcome : Except Failure α} {a : α} :
    (ofExcept outcome).Returns before a after ↔ outcome = .ok a ∧ after = before := by
  cases outcome with
  | ok b => simp [ofExcept, eq_comm]
  | error failure => simp [ofExcept]

theorem fails_ofExcept {outcome : Except Failure α} {raised : Raised} :
    (ofExcept outcome).Fails before raised after ↔
      outcome = .error raised.failure ∧ raised.notes = [] ∧ after = before := by
  cases outcome with
  | ok a => simp [ofExcept]
  | error failure =>
    simp only [ofExcept, fails_fail, Except.error.injEq]
    constructor
    · rintro ⟨rfl, rfl⟩
      exact ⟨rfl, rfl, rfl⟩
    · rcases raised with ⟨_, _⟩
      rintro ⟨rfl, rfl, rfl⟩
      exact ⟨rfl, rfl⟩

theorem outcome_ask (question : FileSystem → Except Fault α) (before : World) :
    (ask question).outcome before =
      (match question before.files with
        | .ok a => .ok a
        | .error fault => .error ⟨.file fault, []⟩, before) := by
  have entered : (ask question).outcome before =
      (ofExcept (orFailure (question before.files))).outcome before := rfl
  rw [entered]
  cases question before.files <;> rfl

@[simp]
theorem returns_ask {question : FileSystem → Except Fault α} {a : α} :
    (ask question).Returns before a after ↔ question before.files = .ok a ∧ after = before := by
  unfold Returns
  rw [outcome_ask]
  cases question before.files <;> simp [eq_comm]

@[simp]
theorem fails_ask {question : FileSystem → Except Fault α} {raised : Raised} :
    (ask question).Fails before raised after ↔
      ∃ fault, question before.files = .error fault ∧ raised = ⟨.file fault, []⟩ ∧
        after = before := by
  unfold Fails
  rw [outcome_ask]
  cases question before.files <;> simp [eq_comm]

theorem outcome_change (operation : FileSystem → Except Fault FileSystem) (before : World) :
    (change operation).outcome before =
      match operation before.files with
      | .ok files => (.ok (), { before with files })
      | .error fault => (.error ⟨.file fault, []⟩, before) := by
  unfold change
  rw [outcome_bind, outcome_ask]
  cases operation before.files <;> rfl

/-! ## Actions that are caught -/

theorem outcome_tryCatch (action : Action α) (handler : Raised → Action α) (before : World) :
    (tryCatch action handler).outcome before =
      match action.outcome before with
      | (.ok a, between) => (.ok a, between)
      | (.error raised, between) => (handler raised).outcome between := by
  simp only [outcome, tryCatch, tryCatchThe, MonadExceptOf.tryCatch, ExceptT.tryCatch,
    ExceptT.run_mk, StateT.run_bind]
  cases same : action.run.run before with
  | mk result between =>
    have unfolded : StateT.run action before = (result, between) := same
    rw [unfolded]
    cases result <;> rfl

theorem returns_tryCatch {action : Action α} {handler : Raised → Action α} {a : α} :
    (tryCatch action handler).Returns before a after ↔
      action.Returns before a after ∨
        ∃ raised between, action.Fails before raised between ∧
          (handler raised).Returns between a after := by
  unfold Returns Fails
  rw [outcome_tryCatch]
  constructor
  · intro returned
    split at returned
    · cases returned
      exact Or.inl ‹_›
    · exact Or.inr ⟨_, _, ‹_›, returned⟩
  · rintro (returned | ⟨raised, between, first, second⟩)
    · rw [returned]
    · rw [first]
      exact second

theorem fails_tryCatch {action : Action α} {handler : Raised → Action α} {raised : Raised} :
    (tryCatch action handler).Fails before raised after ↔
      ∃ first between, action.Fails before first between ∧
        (handler first).Fails between raised after := by
  unfold Fails
  rw [outcome_tryCatch]
  constructor
  · intro failed
    split at failed
    · cases failed
    · exact ⟨_, _, ‹_›, failed⟩
  · rintro ⟨first, between, thrown, second⟩
    rw [thrown]
    exact second

@[simp]
theorem returns_attempt {action : Action α} {outcome : Except Raised α} :
    (attempt action).Returns before outcome after ↔
      match outcome with
      | .ok a => action.Returns before a after
      | .error raised => action.Fails before raised after := by
  unfold attempt
  rw [returns_tryCatch]
  cases outcome with
  | ok a => simp
  | error raised => simp

@[simp]
theorem not_fails_attempt {action : Action α} {raised : Raised} :
    ¬ (attempt action).Fails before raised after := by
  unfold attempt
  rw [fails_tryCatch]
  simp

@[simp]
theorem returns_release {outcome : Except Raised α} {a : α} :
    (release outcome).Returns before a after ↔ outcome = .ok a ∧ after = before := by
  cases outcome with
  | ok b => simp [release, eq_comm]
  | error raised => simp [release]

@[simp]
theorem fails_release {outcome : Except Raised α} {raised : Raised} :
    (release outcome).Fails before raised after ↔ outcome = .error raised ∧ after = before := by
  cases outcome with
  | ok b => simp [release]
  | error first => simp [release, eq_comm]

/-- To attempt an action and to end as it did is to do it. -/
theorem attempt_bind_release (action : Action α) (next : α → Action β) :
    (attempt action >>= fun outcome => release outcome >>= next) = action >>= next := by
  apply ext
  intro before
  rw [outcome_bind, outcome_bind, attempt, outcome_tryCatch, map_eq_pure_bind, outcome_bind]
  rcases action.outcome before with ⟨_ | _, _⟩ <;> rfl

/-! ## What the basic actions change -/

@[simp]
theorem returns_print {text : String} {u : Unit} :
    (print text).Returns before u after ↔ after = { before with output := before.output ++ text } :=
  returns_modify

@[simp]
theorem not_fails_print {text : String} {raised : Raised} :
    ¬ (print text).Fails before raised after :=
  not_fails_modify

/-- A status line goes to the output and changes nothing else. -/
theorem returns_report {level : Level} {message : String} {emoji : Bool} {coloured : Option Bool}
    {u : Unit} (returned : (report level message emoji coloured).Returns before u after) :
    ∃ output, after = { before with output } := by
  simp only [report, returns_bind, returns_get, returns_print] at returned
  obtain ⟨_, _, ⟨rfl, rfl⟩, rfl⟩ := returned
  exact ⟨_, rfl⟩

@[simp]
theorem not_fails_report {level : Level} {message : String} {emoji : Bool} {coloured : Option Bool}
    {raised : Raised} : ¬ (report level message emoji coloured).Fails before raised after := by
  simp [report]

/-- A styled text goes to the output and changes nothing else. -/
theorem returns_display {text : StyledText} {coloured : Bool} {u : Unit}
    (returned : (display text coloured).Returns before u after) :
    ∃ output, after = { before with output } := by
  simp only [display, returns_bind, returns_get, returns_print] at returned
  obtain ⟨_, _, ⟨rfl, rfl⟩, rfl⟩ := returned
  exact ⟨_, rfl⟩

@[simp]
theorem not_fails_display {text : StyledText} {coloured : Bool} {raised : Raised} :
    ¬ (display text coloured).Fails before raised after := by
  simp [display]

theorem exists_returns_report (level : Level) (message : String) (emoji : Bool)
    (coloured : Option Bool) (before : World) :
    ∃ output, (report level message emoji coloured).Returns before () { before with output } := by
  rcases returns_or_fails (report level message emoji coloured) before with
    ⟨u, after, returned⟩ | ⟨raised, after, failed⟩
  · obtain ⟨output, rfl⟩ := returns_report returned
    exact ⟨output, returned⟩
  · exact absurd failed not_fails_report

@[simp]
theorem returns_tick {reading : Float} :
    tick.Returns before reading after ↔
      reading = before.clock.headD 0 ∧ after = { before with clock := before.clock.drop 1 } :=
  Returns.iff rfl

@[simp]
theorem not_fails_tick {raised : Raised} : ¬ tick.Fails before raised after :=
  fun failed => nomatch failed

/-- The world after a call that was answered. -/
def called (runner : Runner) (command : Call) (before : World) : World :=
  { before with
    files := (runner before.calls command before.files).2
    calls := before.calls ++ [command] }

theorem outcome_call (runner : Runner) (command : Call) (before : World) :
    (call runner command).outcome before =
      (match (runner before.calls command before.files).1 with
        | .finished process => .ok (.ok process)
        | .notStarted refusal => .ok (.error refusal)
        | .broken failure => .error ⟨failure, []⟩, called runner command before) := by
  have entered : (call runner command).outcome before =
      (match (runner before.calls command before.files).1 with
        | .finished process => (pure (.ok process) : Action (Except Refusal Finished))
        | .notStarted refusal => pure (.error refusal)
        | .broken failure => fail failure).outcome (called runner command before) := rfl
  rw [entered]
  cases (runner before.calls command before.files).1 <;> rfl

theorem returns_call {runner : Runner} {command : Call} {answer : Except Refusal Finished} :
    (call runner command).Returns before answer after ↔
      (runner before.calls command before.files).1 = .answered answer ∧
        after = called runner command before := by
  unfold Returns Reply.answered
  rw [outcome_call]
  cases (runner before.calls command before.files).1 <;> cases answer <;> simp [eq_comm]

theorem fails_call {runner : Runner} {command : Call} {raised : Raised} :
    (call runner command).Fails before raised after ↔
      (∃ failure, (runner before.calls command before.files).1 = .broken failure ∧
        raised = ⟨failure, []⟩) ∧ after = called runner command before := by
  unfold Fails
  rw [outcome_call]
  cases (runner before.calls command before.files).1 <;> simp [eq_comm]

theorem returns_counting {action : Counting α} {outcome : Except Failure α} :
    (counting action).Returns before outcome after ↔
      outcome = (action.run.run before.knowledge.lineCounts).1 ∧
        after = { before with knowledge :=
          { before.knowledge with
            lineCounts := (action.run.run before.knowledge.lineCounts).2 } } :=
  Returns.iff rfl

@[simp]
theorem not_fails_counting {action : Counting α} {raised : Raised} :
    ¬ (counting action).Fails before raised after :=
  fun failed => nomatch failed

/-! ## Runs that can be evaluated -/

/-- Does an action return something that passes a check? -/
def returnsSome (action : Action α) (before : World) (check : α → Bool) : Bool :=
  match action.outcome before with
  | (.ok a, _) => check a
  | (.error _, _) => false

theorem exists_of_returnsSome {action : Action α} {check : α → Bool}
    (evaluated : action.returnsSome before check = true) :
    ∃ a after, action.Returns before a after ∧ check a = true := by
  unfold returnsSome at evaluated
  split at evaluated
  · exact ⟨_, _, ‹_›, evaluated⟩
  · cases evaluated

/-- Does an action fail in a certain way? -/
def failsAs (action : Action α) (before : World) (raised : Raised) : Bool :=
  match action.outcome before with
  | (.ok _, _) => false
  | (.error other, _) => other = raised

theorem exists_of_failsAs {action : Action α} {raised : Raised}
    (evaluated : action.failsAs before raised = true) :
    ∃ after, action.Fails before raised after := by
  unfold failsAs at evaluated
  split at evaluated
  · cases evaluated
  · obtain rfl := of_decide_eq_true evaluated
    exact ⟨_, ‹_›⟩

end Action

end TestImpact
