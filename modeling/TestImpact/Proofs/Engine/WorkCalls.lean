import TestImpact.Proofs.Engine.Sessions
import TestImpact.Proofs.Engine.Untouched

/-!
# What a run calls when it is ready

Once a run is ready it calls the programs of its session and of its jobs and no others, in whatever
turns and however it ends, unless a listener calls some. Nothing that it does changes what is known
about the coverage engine (`Engine.issues_work`). `Action.Issues` says so of an action; it goes
through sequences, handlers and turns.
-/

namespace TestImpact

/-- The programs that were called, and what is known about the coverage engine. -/
def World.gated (world : World) : List Call × Option EngineState :=
  (world.calls, world.knowledge.engine)

/-- From one world to the other only such programs were called, and what is known about the coverage
engine is the same. -/
structure Issued (allowed : Call → Prop) (before after : World) : Prop where
  calls : ∃ made, after.calls = before.calls ++ made ∧ ∀ call ∈ made, allowed call
  known : after.knowledge.engine = before.knowledge.engine

namespace Issued

variable {allowed : Call → Prop} {before between after : World}

theorem of_gated (same : after.gated = before.gated) : Issued allowed before after := by
  obtain ⟨calls, known⟩ := Prod.mk.inj same
  refine ⟨⟨[], ?_, nofun⟩, known⟩
  rw [calls, List.append_nil]

theorem trans (first : Issued allowed before between) (later : Issued allowed between after) :
    Issued allowed before after := by
  obtain ⟨made, calls, fits⟩ := first.calls
  obtain ⟨more, calls', fits'⟩ := later.calls
  refine ⟨⟨made ++ more, ?_, fun call mem => ?_⟩, later.known.trans first.known⟩
  · rw [calls', calls, List.append_assoc]
  · exact (List.mem_append.1 mem).elim (fits call) (fits' call)

end Issued

namespace Action

variable {α β : Type} {allowed : Call → Prop} {action : Action α}

/-- Whatever comes of the action, it calls such programs only and leaves what is known about the
coverage engine. -/
def Issues (allowed : Call → Prop) (action : Action α) : Prop :=
  ∀ before, Issued allowed before (action.outcome before).2

theorem issues_of_keeps (kept : action.Keeps World.gated) : action.Issues allowed :=
  fun before => .of_gated (kept before)

theorem issues_bind {next : α → Action β} (first : action.Issues allowed)
    (later : ∀ a before after, action.Returns before a after → (next a).Issues allowed) :
    (action >>= next).Issues allowed :=
  fun before => after_bind Issued.trans (first before) fun a between returned _ =>
    later a before between returned between

theorem Issues.mono {wider : Call → Prop} (issues : action.Issues allowed)
    (implied : ∀ call, allowed call → wider call) : action.Issues wider := by
  intro before
  obtain ⟨⟨made, calls, fits⟩, known⟩ := issues before
  exact ⟨⟨made, calls, fun call mem => implied call (fits call mem)⟩, known⟩

theorem composes_issues : Composes fun _ => Issues allowed :=
  ⟨fun a => issues_of_keeps (keeps_pure a), issues_bind⟩

theorem issues_tryCatch {handler : Raised → Action α} (first : action.Issues allowed)
    (handled : ∀ raised, (handler raised).Issues allowed) :
    (tryCatch action handler : Action α).Issues allowed := by
  intro before
  have begun := first before
  rw [outcome_tryCatch]
  rcases found : action.outcome before with ⟨raised | a, between⟩
  · rw [found] at begun
    exact begun.trans (handled raised between)
  · rw [found] at begun
    exact begun

theorem issues_attempt (first : action.Issues allowed) : (attempt action).Issues allowed := by
  apply issues_tryCatch
  · rw [map_eq_pure_bind]
    exact issues_bind first fun a _ _ _ => issues_of_keeps (keeps_pure _)
  · exact fun raised => issues_of_keeps (keeps_pure _)

theorem issues_call {runner : Runner} {command : Call} (fits : allowed command) :
    (call runner command).Issues allowed := by
  intro before
  rw [outcome_call]
  refine ⟨⟨[command], rfl, ?_⟩, rfl⟩
  intro other mem
  rw [List.mem_singleton.1 mem]
  exact fits

theorem keeps_tick : tick.Keeps World.gated :=
  fun _ => rfl

theorem keeps_throw (raised : Raised) : (throw raised : Action α).Keeps World.gated :=
  fun _ => rfl

theorem keeps_release (outcome : Except Raised α) : (release outcome).Keeps World.gated := by
  cases outcome with
  | ok a => exact keeps_pure a
  | error raised => exact keeps_throw raised

theorem issues_report (level : Level) (message : String) (emoji : Bool) :
    (report level message emoji).Issues allowed :=
  issues_of_keeps (keeps_report fun _ _ => rfl)

end Action

open TestImpact.Action (issues_of_keeps issues_bind)

/-! ## Sessions -/

namespace Session

variable {allowed : Call → Prop} {here : Surroundings} {command : List String}

theorem issues_runStep (fits : allowed (here.callOf command)) (step : SessionStep) :
    (runStep here step command).Issues allowed := by
  apply runStep_of_parts Action.composes_issues
  · exact issues_of_keeps Action.keeps_tick
  · exact Action.issues_call fits
  · exact fun _ _ => issues_of_keeps (Action.keeps_fail _)
  · exact fun _ => Action.issues_report _ _ _

theorem issues_tearDown (fits : allowed (here.callOf command)) :
    (tearDown here command).Issues allowed :=
  issues_bind (Action.issues_report _ _ _) fun _ _ _ _ => issues_runStep fits .teardown

theorem issues_tearDownAfter (fits : allowed (here.callOf command)) (failed : Raised) :
    (tearDownAfter here command failed).Issues allowed := by
  apply Action.issues_tryCatch
  · exact issues_bind (issues_tearDown fits) fun _ _ _ _ => issues_of_keeps (Action.keeps_pure _)
  · intro second
    split
    · exact issues_bind (Action.issues_report _ _ _) fun _ _ _ _ =>
        issues_of_keeps (Action.keeps_pure _)
    · exact issues_of_keeps (Action.keeps_throw _)

/-- A session calls its two commands and what its body calls. -/
theorem issues_around {α : Type} {setup teardown : List String} {body : Action α}
    (opens : allowed (here.callOf setup)) (closes : allowed (here.callOf teardown))
    (inside : body.Issues allowed) : (around here setup teardown body).Issues allowed := by
  refine issues_bind (Action.issues_report _ _ _) fun _ _ _ _ => ?_
  have opened : (runStep here .setup setup >>= fun _ => body).Issues allowed :=
    issues_bind (issues_runStep opens .setup) fun _ _ _ _ => inside
  refine issues_bind (Action.issues_attempt opened) fun reached _ _ _ => ?_
  cases reached with
  | ok a =>
    exact issues_bind (issues_tearDown closes) fun _ _ _ _ => issues_of_keeps (Action.keeps_pure a)
  | error failed =>
    exact issues_bind (issues_tearDownAfter closes failed) fun raised _ _ _ =>
      issues_of_keeps (Action.keeps_throw raised)

end Session

/-! ## Jobs -/

namespace Executor

variable {α σ : Type} {view : World → σ} {allowed : Call → Prop} {executor : Executor}
  {runner : Runner} {hand : Completion → Action α}

/-- To plan jobs changes files and nothing else. -/
theorem keeps_plan (filed : ∀ world files, view { world with files } = view world)
    (executor : Executor) (affected : Affected) : (executor.plan affected).Keeps view := by
  apply Action.composes_keeps.plan
  · exact fun test => Action.keeps_ask _
  · have changed := Action.keeps_change filed
    exact fun test => ⟨fun _ _ => changed _, fun _ _ => changed _, fun _ _ => changed _⟩
  · exact Action.keeps_fail _

theorem issues_runJob {job : Job} (fits : allowed (executor.callOf job)) :
    (executor.runJob runner job).Issues allowed := by
  refine issues_bind (issues_of_keeps Action.keeps_tick) fun started _ _ _ => ?_
  refine issues_bind (Action.issues_call fits) fun reply _ _ _ => ?_
  refine issues_bind (issues_of_keeps Action.keeps_tick) fun ended _ _ _ => ?_
  exact issues_of_keeps (Action.keeps_pure _)

/-- Turns call the programs of the jobs whose processes end in them. -/
theorem issues_runTurns {turns : List Turn}
    (fits : ∀ job ∈ endedIn turns, allowed (executor.callOf job))
    (handed : ∀ completion, (hand completion).Issues allowed) (waiting : Waiting) :
    (executor.runTurns runner hand waiting turns).Issues allowed := by
  induction turns generalizing waiting with
  | nil => exact issues_of_keeps (Action.keeps_pure _)
  | cons turn rest ih =>
    cases turn with
    | ends job =>
      rw [endedIn_ends] at fits
      have later := ih fun other mem => fits other (List.mem_cons_of_mem _ mem)
      exact issues_bind (Action.issues_attempt (issues_runJob (fits job List.mem_cons_self)))
        fun outcome _ _ _ => later _
    | handed job =>
      rw [endedIn_handed] at fits
      unfold runTurns
      split
      · exact ih fits waiting
      · refine issues_bind (issues_of_keeps (Action.keeps_release _)) fun completion _ _ _ => ?_
        refine issues_bind (handed completion) fun first _ _ _ => ?_
        exact issues_bind (ih fits _) fun others _ _ _ => issues_of_keeps (Action.keeps_pure _)

/-- A run of jobs calls their programs. -/
theorem issues_execute {jobs : List Job} (fits : ∀ job ∈ jobs, allowed (executor.callOf job))
    (handed : ∀ completion, (hand completion).Issues allowed) :
    (executor.execute runner jobs hand).Issues allowed := by
  rw [execute_eq_runTurns]
  refine issues_runTurns (fun job mem => fits job ?_) handed []
  exact (executor.endedIn_turns jobs).mem_iff.1 mem

end Executor

/-! ## Runs -/

namespace Engine

variable {engine : Engine} {allowed : Call → Prop}

/-- The calls that belong to the work of a run: the two of its session, and those of jobs. -/
def IsWork (engine : Engine) (call : Call) : Prop :=
  call ∈ [engine.setupCall, engine.teardownCall] ∨
    ∃ job, engine.executor.IsJobOf job ∧ call = engine.executor.callOf job

theorem keeps_plan (engine : Engine) (paths : List String) :
    (engine.plan paths).Keeps World.gated := by
  refine Action.keeps_bind Action.keeps_get fun world => ?_
  refine Action.keeps_bind (Action.keeps_resolving (fun _ _ => rfl) _) fun affected => ?_
  refine Action.keeps_bind (keeps_requireAvailable _) fun _ => ?_
  refine Action.keeps_bind (Action.keeps_ofExcept _) fun _ => ?_
  exact Executor.keeps_plan (fun _ _ => rfl) engine.executor affected

theorem isJobOf_of_plan {paths : List String} {jobs : List Job} {before after : World}
    (returned : (engine.plan paths).Returns before jobs after) :
    ∀ job ∈ jobs, engine.executor.IsJobOf job := by
  simp only [plan, Action.returns_bind] at returned
  obtain ⟨_, _, -, _, _, -, _, _, -, _, _, -, planned⟩ := returned
  exact Executor.plan_jobs planned

/-- To collect what a job left calls what its listeners call. -/
theorem issues_collect (listening : ∀ result, (engine.onResult result).Issues allowed)
    (completion : Completion) : (engine.collect completion).Issues allowed := by
  refine issues_bind (issues_of_keeps Action.keeps_get) fun world _ _ _ => ?_
  refine issues_bind (issues_of_keeps (Action.keeps_counting fun _ _ => rfl)) fun read _ _ _ => ?_
  split
  · exact issues_bind (Action.composes_issues.forM listening _) fun _ _ _ _ =>
      issues_of_keeps (Action.keeps_pure _)
  · exact issues_bind (Action.issues_report _ _ _) fun _ _ _ _ =>
      issues_of_keeps (Action.keeps_pure _)
  · exact issues_of_keeps (Action.keeps_fail _)

theorem issues_inSession {α : Type} {body : Action α} (opens : allowed engine.setupCall)
    (closes : allowed engine.teardownCall) (inside : body.Issues allowed) :
    (engine.inSession body).Issues allowed := by
  unfold inSession
  simp only
  split
  · exact Session.issues_around opens closes inside
  · exact inside

/-- What a run does when it is ready. -/
def work (engine : Engine) (paths : List String) (everything : Bool) : Action RunReport := do
  let stale ← engine.staleDependencies
  let jobs ← engine.plan (← engine.startingPaths paths everything)
  let collected ← engine.inSession (engine.collectAll jobs)
  pure (RunReport.ofCollected stale collected)

theorem run_eq (engine : Engine) (paths : List String) (everything : Bool) :
    engine.run paths everything =
      engine.checkPreconditions >>= fun _ => engine.work paths everything := by
  simp only [run, prepare, work, bind_assoc, pure_bind]

/-- The work of a run calls the programs of its session and of its jobs and those that listeners
call, and leaves what is known about the coverage engine. -/
theorem issues_work {heard : Call → Prop}
    (listening : ∀ result, (engine.onResult result).Issues heard)
    (paths : List String) (everything : Bool) :
    (engine.work paths everything).Issues fun call => engine.IsWork call ∨ heard call := by
  refine issues_bind (issues_of_keeps (keeps_staleDependencies (fun _ _ => rfl) engine))
    fun stale _ _ _ => ?_
  refine issues_bind (issues_of_keeps (keeps_startingPaths engine paths everything))
    fun starting _ _ _ => ?_
  refine issues_bind (issues_of_keeps (keeps_plan engine starting)) fun jobs _ _ planned => ?_
  have session : ∀ call ∈ [engine.setupCall, engine.teardownCall],
      engine.IsWork call ∨ heard call := fun call mem => Or.inl (Or.inl mem)
  have executed : (engine.collectAll jobs).Issues fun call => engine.IsWork call ∨ heard call := by
    apply Executor.issues_execute
    · intro job mem
      exact Or.inl (Or.inr ⟨job, isJobOf_of_plan planned job mem, rfl⟩)
    · exact fun completion => (issues_collect listening completion).mono fun _ => Or.inr
  exact issues_bind (issues_inSession (session _ (by simp)) (session _ (by simp)) executed)
    fun _ _ _ _ => issues_of_keeps (Action.keeps_pure _)

end Engine

end TestImpact
