import TestImpact.Proofs.Engine.Course
import TestImpact.Proofs.Execution.Session
import TestImpact.Proofs.SmallProject

/-!
# Runs in a session

A run in a session calls its programs in a fixed order, whatever goes wrong on the way: the
first command of the session, then the jobs one at a time in the order of the plan, as far as
they come, and the last command of the session at the very end (`calls_in_session`). Jobs see
the variables of the session and the two commands do not.
-/

namespace TestImpact

/-! ## Variables -/

theorem lookup_cons_eq_ite {α : Type} (name : String) (value : α) (rest : List (String × α))
    (asked : String) :
    ((name, value) :: rest).lookup asked = if asked = name then some value else rest.lookup asked := by
  rw [List.lookup_cons]
  by_cases same : asked = name
  · simp [same]
  · have differs : (asked == name) = false := by simpa using same
    simp [same, differs]

theorem lookup_withEntry {α : Type} (name : String) (value : α) (entries : List (String × α))
    (asked : String) :
    (withEntry name value entries).lookup asked =
      if asked = name then some value else entries.lookup asked := by
  induction entries with
  | nil => exact lookup_cons_eq_ite name value [] asked
  | cons entry rest ih =>
    obtain ⟨key, old⟩ := entry
    unfold withEntry
    by_cases here : key = name
    · subst here
      rw [if_pos rfl, lookup_cons_eq_ite, lookup_cons_eq_ite]
      by_cases same : asked = key <;> simp [same]
    · rw [if_neg here, lookup_cons_eq_ite, lookup_cons_eq_ite, ih]
      by_cases same : asked = key
      · simp [same, here]
      · simp [same]

/-- Of several values of a variable the last one counts. -/
theorem ProcessOptions.lookup_overlaid (bindings : Option (List (String × String)))
    (more : List (String × String)) (asked : String) :
    (overlaid bindings more).lookup asked =
      (more.reverse.lookup asked).or ((bindings.getD []).lookup asked) := by
  unfold overlaid
  generalize bindings.getD [] = start
  induction more generalizing start with
  | nil => rfl
  | cons entry rest ih =>
    rw [List.foldl_cons, ih, lookup_withEntry, List.reverse_cons, List.lookup_append,
      lookup_cons_eq_ite, List.lookup_nil]
    cases rest.reverse.lookup asked with
    | some value => rfl
    | none => by_cases same : asked = entry.1 <;> simp [same]

namespace Engine

variable {engine : Engine}

/-- The surroundings of the two commands of a session. -/
def surroundings (engine : Engine) : Session.Surroundings :=
  ⟨engine.runner, some engine.stepOptions, engine.emoji⟩

/-- The call of the first command of a session. -/
def setupCall (engine : Engine) : Call :=
  engine.surroundings.callOf (engine.builder.sessionCommand engine.config.session.setup)

/-- The call of the last command of a session. -/
def teardownCall (engine : Engine) : Call :=
  engine.surroundings.callOf (engine.builder.sessionCommand engine.config.session.teardown)

theorem inSession_eq_around (session : engine.config.session.enabled = true) {α : Type}
    (body : Action α) :
    engine.inSession body = Session.around engine.surroundings
      (engine.builder.sessionCommand engine.config.session.setup)
      (engine.builder.sessionCommand engine.config.session.teardown) body :=
  if_pos session

/-- Jobs in a session are run one at a time. -/
theorem isSerial_of_session (session : engine.config.session.enabled = true) (jobs : List Job) :
    engine.executor.isSerial jobs = true := by
  have one : engine.executor.jobs = 1 := if_pos session
  simp [Executor.isSerial, one]

/-- To collect what a job left is to call no program, unless a listener does. -/
theorem silent_collect (silent : ∀ result, (engine.onResult result).Silent)
    (completion : Completion) : (engine.collect completion).Silent := by
  refine Action.keeps_bind Action.keeps_get fun world => ?_
  refine Action.keeps_bind (Action.keeps_counting fun _ _ => rfl) fun read => ?_
  split
  · exact Action.keeps_bind (Action.composes_keeps.forM silent _) fun _ => Action.keeps_pure _
  · exact Action.keeps_bind (Action.keeps_report fun _ _ => rfl) fun _ => Action.keeps_pure _
  · exact Action.keeps_fail _

theorem bindings_callOf (session : engine.config.session.enabled = true) (job : Job) :
    ∃ options bindings, (engine.executor.callOf job).options = some options ∧
      options.bindings = some bindings ∧
      ∀ name, bindings.lookup name = engine.config.session.testEnv.reverse.lookup name := by
  refine ⟨engine.testOptions, ProcessOptions.overlaid none engine.config.session.testEnv, rfl, ?_,
    fun name => ?_⟩
  · rw [testOptions, if_pos session]
  · rw [ProcessOptions.lookup_overlaid]
    exact Option.or_none

theorem outcome_inSession (session : engine.config.session.enabled = true)
    (answers : Session.Answers engine.runner engine.teardownCall) {α : Type} (body : Action α)
    (before : World) :
    ∃ opened reached finished after,
      opened.calls = before.calls ++ [engine.setupCall] ∧
      (match Session.stepOutcome .setup
          (engine.runner before.calls engine.setupCall before.files).1 with
        | .error failed => reached = .error failed ∧ finished = opened
        | .ok () => body.outcome opened = (reached, finished)) ∧
      (engine.inSession body).outcome before =
        (Session.ending reached (Session.stepOutcome .teardown
          (engine.runner finished.calls engine.teardownCall finished.files).1), after) ∧
      after.calls = finished.calls ++ [engine.teardownCall] := by
  rw [inSession_eq_around session]
  exact Session.outcome_around answers before

theorem bindings_of_sessionCall {call : Call} {options : ProcessOptions}
    (mem : call ∈ [engine.setupCall, engine.teardownCall])
    (given : call.options = some options) : options.bindings = none := by
  have same : call.options = some engine.stepOptions := by
    simp only [List.mem_cons, List.not_mem_nil, or_false] at mem
    rcases mem with rfl | rfl <;> rfl
  rw [same] at given
  cases given
  rfl

/-- A run comes to what its jobs come to, in their session. -/
theorem outcome_run {paths : List String} {everything : Bool} {before planned after : World}
    {stale : List String} {jobs : List Job} {reached : Except Raised (List Collected)}
    (prepared : (engine.prepare paths everything).Returns before (stale, jobs) planned)
    (ended : (engine.inSession (engine.collectAll jobs)).outcome planned = (reached, after)) :
    (engine.run paths everything).outcome before =
      (RunReport.ofCollected stale <$> reached, after) := by
  rw [run, Action.outcome_bind, prepared]
  simp only
  rw [Action.outcome_bind, ended]
  cases reached <;> rfl

/-- A run in a session calls the first command of the session, then the programs of its jobs in the
order of the plan, as far as they come, and the last command of the session. No job is called if the
first command fails, and otherwise all are, unless one stops the run: its call is broken off, or what
it left cannot be collected. The run comes to what the first command and the jobs come to, or else to
what the last command does, whose failure is noted with an earlier one. -/
theorem calls_in_session (session : engine.config.session.enabled = true)
    (answers : Session.Answers engine.runner engine.teardownCall)
    (silent : ∀ result, (engine.onResult result).Silent) {paths : List String}
    {everything : Bool} {before planned : World} {stale : List String} {jobs : List Job}
    (prepared : (engine.prepare paths everything).Returns before (stale, jobs) planned) :
    ∃ (ran : List Job) (opened finished after : World) (reached : Except Raised (List Collected)),
      (engine.run paths everything).outcome before =
        (RunReport.ofCollected stale <$> Session.ending reached (Session.stepOutcome .teardown
          (engine.runner finished.calls engine.teardownCall finished.files).1), after) ∧
      ran <+: jobs ∧
      opened.calls = planned.calls ++ [engine.setupCall] ∧
      finished.calls = opened.calls ++ ran.map engine.executor.callOf ∧
      after.calls = finished.calls ++ [engine.teardownCall] ∧
      (match Session.stepOutcome .setup
          (engine.runner planned.calls engine.setupCall planned.files).1 with
        | .error failed => ran = [] ∧ reached = .error failed
        | .ok () => ran ≠ [] ∧ (engine.collectAll jobs).outcome opened = (reached, finished) ∧
          ((∃ collected, reached = .ok collected ∧ ran = jobs) ∨
            ∃ raised, reached = .error raised ∧
              Executor.StopsAt engine.executor engine.runner engine.collect opened ran raised)) ∧
      (∀ job, ∃ options bindings, (engine.executor.callOf job).options = some options ∧
        options.bindings = some bindings ∧
        ∀ name, bindings.lookup name = engine.config.session.testEnv.reverse.lookup name) ∧
      ∀ call ∈ [engine.setupCall, engine.teardownCall], ∀ options, call.options = some options →
        options.bindings = none := by
  have environment : ∀ call ∈ [engine.setupCall, engine.teardownCall], ∀ options,
      call.options = some options → options.bindings = none :=
    fun _ mem _ given => bindings_of_sessionCall mem given
  obtain ⟨start, affected, plans⟩ := returns_prepare prepared
  have planned_any : jobs ≠ [] := (Executor.returns_plan plans).1
  obtain ⟨opened, reached, finished, after, called, inside, ended, last⟩ :=
    outcome_inSession session answers (engine.collectAll jobs) planned
  have whole := outcome_run prepared ended
  cases setup : Session.stepOutcome .setup
      (engine.runner planned.calls engine.setupCall planned.files).1 with
  | error failed =>
    rw [setup] at inside
    obtain ⟨rfl, rfl⟩ := inside
    exact ⟨[], finished, finished, after, .error failed, whole, List.nil_prefix, called,
      (List.append_nil _).symm, last, ⟨rfl, rfl⟩, bindings_callOf session, environment⟩
  | ok done =>
    rw [setup] at inside
    have serial : engine.collectAll jobs =
        engine.executor.runEach engine.runner engine.collect jobs :=
      if_pos (isSerial_of_session session jobs)
    obtain ⟨ran, outcome, _, went, below, calls, stopped⟩ :=
      engine.executor.outcome_runEach engine.runner (silent_collect silent) jobs opened
    rw [← serial, inside] at went
    obtain ⟨rfl, rfl⟩ := Prod.mk.inj went
    have some_ran : ran ≠ [] := by
      rcases stopped with ⟨_, -, rfl⟩ | ⟨_, -, earlier, job, _, rfl, -⟩
      · exact planned_any
      · exact List.append_ne_nil_of_right_ne_nil earlier (List.cons_ne_nil job [])
    exact ⟨ran, opened, finished, after, reached, whole, below, called, calls, last,
      ⟨some_ran, inside, stopped⟩, bindings_callOf session, environment⟩

/-- The small project in a session, in which every job is interrupted. -/
def interrupted : Engine :=
  { SmallProject.engine "" with
    config := { coverage := some false, session := { enabled := true } }
    runner := fun _ command files =>
      match command.options.bind ProcessOptions.bindings with
      | none => (.finished {}, files)
      | some _ => (.broken (.foreign "KeyboardInterrupt" ""), files) }

/-- An interrupted run calls the last command of its session, too. -/
theorem calls_interrupted :
    ∃ jobs planned ran, (interrupted.prepare ["test/ATest.php"] false).Returns SmallProject.world
        ([], jobs) planned ∧ ran <+: jobs ∧ ran ≠ [] ∧
      ((interrupted.run ["test/ATest.php"]).outcome SmallProject.world).2.calls =
        planned.calls ++ [interrupted.setupCall] ++ ran.map interrupted.executor.callOf ++
          [interrupted.teardownCall] := by
  have evaluated : (interrupted.prepare ["test/ATest.php"] false).returnsSome SmallProject.world
      (fun prepared => prepared.1.isEmpty) = true := by
    decide +kernel
  obtain ⟨⟨stale, jobs⟩, planned, prepared, none_stale⟩ := Action.exists_of_returnsSome evaluated
  obtain rfl := List.isEmpty_iff.1 none_stale
  have answers : Session.Answers interrupted.runner interrupted.teardownCall :=
    fun _ _ _ same => nomatch same
  have session : interrupted.config.session.enabled = true := rfl
  obtain ⟨ran, opened, finished, after, reached, ended, below, opens, calls, last,
    ⟨some_ran, -, -⟩, -, -⟩ :=
      calls_in_session session answers (fun _ => Action.silent_pure ()) prepared
  refine ⟨jobs, planned, ran, prepared, below, some_ran, ?_⟩
  rw [ended, last, calls, opens]

end Engine

end TestImpact
