import TestImpact.Proofs.Engine.WorkCalls

/-!
# The gate in front of coverage

An engine that is to measure coverage asks the interpreter once, at its first request, and the answer
decides about that request and all later ones (`Engine.decided_by_first_probe`). The answer says that
the extension is loaded (`CoverageEngine.Loaded`) and which modes are on (`CoverageEngine.Active`). A
request that does not pass has called no program of its own, and says what is wrong.
-/

namespace TestImpact

theorem CommandBuilder.length_build (builder : CommandBuilder) (testPath : String)
    (outputs : Outputs) : 5 ≤ (builder.build testPath outputs).length := by
  have led : 1 ≤ (builder.leading outputs).length := by
    unfold leading
    split
    · exact Nat.le_refl 1
    · rw [List.length_append, List.length_append]
      simp only [List.length_cons]
      omega
  unfold build runnerArguments
  simp only [List.length_append, List.length_cons, List.length_nil]
  omega

/-! ## What an answer says -/

namespace CoverageEngine

variable {answer : Except Refusal Finished} {mode interpreter : String} {required : List String}

/-- The interpreter ended with status zero, and this is the line with that number of its output,
counted from zero. -/
def Says (answer : Except Refusal Finished) (number : Nat) (line : String) : Prop :=
  ∃ process, answer = .ok process ∧ process.status = 0 ∧
    ((Text.splitLines (process.out.getD "").toList).map String.ofList)[number]? = some line

/-- The first line says that the extension is loaded. -/
def Loaded (answer : Except Refusal Finished) : Prop :=
  ∃ line, Says answer 0 line ∧ Text.trim line = "1"

/-- The mode is an item of the second line. -/
def Active (answer : Except Refusal Finished) (mode : String) : Prop :=
  ∃ line, Says answer 1 line ∧
    ∃ piece ∈ Text.pieces ',' line.toList, mode = Text.trim (String.ofList piece) ∧ mode ≠ ""

/-- The extension is loaded and all required modes are on. -/
def Passes (answer : Except Refusal Finished) (required : List String) : Prop :=
  Loaded answer ∧ ∀ mode ∈ required, Active answer mode

/-- What is learned from an answer. An interpreter that was not run has no extension. -/
def stateOf : Except Refusal Finished → EngineState
  | .ok process => ofProcess process
  | .error _ => { loaded := false }

theorem loaded_stateOf : (stateOf answer).loaded = true ↔ Loaded answer := by
  unfold Loaded Says
  cases answer with
  | error refusal => simp [stateOf]
  | ok process =>
    by_cases fine : process.status = 0
    · simp only [stateOf, ofProcess, if_pos fine, ofAnswer, decide_eq_true_eq,
        Option.map_eq_some_iff, List.head?_eq_getElem?]
      constructor
      · rintro ⟨line, first, one⟩
        exact ⟨line, ⟨process, rfl, fine, first⟩, one⟩
      · rintro ⟨line, ⟨_, same, -, first⟩, one⟩
        cases same
        exact ⟨line, first, one⟩
    · simp [stateOf, ofProcess, fine]

theorem mem_modes_iff {list : String} : mode ∈ modes list ↔
    ∃ piece ∈ Text.pieces ',' list.toList, mode = Text.trim (String.ofList piece) ∧ mode ≠ "" := by
  unfold modes
  rw [List.mem_filter, List.mem_map]
  constructor
  · rintro ⟨⟨piece, listed, rfl⟩, some_char⟩
    exact ⟨piece, listed, rfl, of_decide_eq_true some_char⟩
  · rintro ⟨piece, listed, rfl, some_char⟩
    exact ⟨⟨piece, listed, rfl⟩, decide_eq_true some_char⟩

theorem mem_modes_stateOf : mode ∈ (stateOf answer).modes ↔ Active answer mode := by
  unfold Active Says
  simp only [← mem_modes_iff]
  cases answer with
  | error refusal => simp [stateOf]
  | ok process =>
    by_cases fine : process.status = 0
    · simp only [stateOf, ofProcess, if_pos fine, ofAnswer]
      constructor
      · intro mem
        cases second : ((Text.splitLines (process.out.getD "").toList).map String.ofList)[1]? with
        | none =>
          rw [second] at mem
          cases mem
        | some line =>
          rw [second] at mem
          exact ⟨line, ⟨process, rfl, fine, second⟩, mem⟩
      · rintro ⟨line, ⟨_, same, -, second⟩, mem⟩
        cases same
        rw [second]
        exact mem
    · simp [stateOf, ofProcess, fine]

theorem missing_eq (state : EngineState) (required : List String) :
    missing state required = required.filter (· ∉ state.modes) := by
  unfold missing
  apply List.filter_congr
  intro mode _
  simp

theorem missing_eq_nil_iff : missing (stateOf answer) required = [] ↔
    ∀ mode ∈ required, Active answer mode := by
  rw [missing_eq, List.filter_eq_nil_iff]
  simp only [decide_eq_true_eq, not_not, mem_modes_stateOf]

/-! ## What it is answered with -/

/-- What the gate comes to by an answer. -/
def verdict (answer : Except Refusal Finished) (required : List String) (interpreter : String) :
    Except Raised Unit :=
  (require (stateOf answer) required interpreter).mapError fun failure => ⟨failure, []⟩

theorem verdict_of_not_loaded (missing : ¬ Loaded answer) :
    verdict answer required interpreter = .error ⟨.usage (.engineMissing interpreter), []⟩ := by
  rw [← loaded_stateOf, Bool.not_eq_true] at missing
  rw [verdict, require, missing]
  rfl

theorem verdict_of_not_active (loaded : Loaded answer)
    (absent : ¬ ∀ mode ∈ required, Active answer mode) :
    ∃ modes, (∀ mode, mode ∈ modes ↔ Active answer mode) ∧
      verdict answer required interpreter =
        .error ⟨.usage (.engineMisconfigured (required.filter (· ∉ modes)) required modes), []⟩ := by
  refine ⟨(stateOf answer).modes, fun mode => mem_modes_stateOf, ?_⟩
  rw [← loaded_stateOf] at loaded
  rw [← missing_eq_nil_iff] at absent
  rw [verdict, require, loaded, ← missing_eq]
  cases left : missing (stateOf answer) required with
  | nil => exact absurd left absent
  | cons mode more => rfl

theorem verdict_of_passes (passes : Passes answer required) :
    verdict answer required interpreter = .ok () := by
  have loaded := loaded_stateOf.2 passes.1
  rw [verdict, require, loaded, missing_eq_nil_iff.2 passes.2]
  rfl

theorem verdict_eq_ok_iff :
    verdict answer required interpreter = .ok () ↔ Passes answer required := by
  constructor
  · intro fine
    by_contra fails
    by_cases loaded : Loaded answer
    · obtain ⟨modes, -, refused⟩ := @verdict_of_not_active _ interpreter _ loaded
        fun active => fails ⟨loaded, active⟩
      rw [refused] at fine
      cases fine
    · rw [verdict_of_not_loaded loaded] at fine
      cases fine
  · exact verdict_of_passes

end CoverageEngine

open CoverageEngine (Loaded Active Passes stateOf verdict)

/-! ## Requests -/

/-- What an engine is asked for. -/
inductive Request where
  | check
  | run (paths : List String) (everything : Bool)

/-- A request that was served: the worlds before and after it, and what came of it. -/
structure Served where
  request : Request
  before : World
  outcome : Except Raised (Option RunReport)
  after : World

namespace Engine

variable {engine : Engine} {answer : Except Refusal Finished} {before ready world : World}
  {asking : List Call} {served first : Served} {later : List Served} {heard : Call → Prop}

/-- Serves a request. Only a run gives a report. -/
def serve (engine : Engine) : Request → Action (Option RunReport)
  | .check => do
    engine.checkPreconditions
    pure none
  | .run paths everything => some <$> engine.run paths everything

/-- What is left of a request behind the gate. -/
def behindGate (engine : Engine) : Request → Action (Option RunReport)
  | .check => pure none
  | .run paths everything => some <$> engine.work paths everything

theorem serve_eq (engine : Engine) (request : Request) :
    engine.serve request = engine.checkPreconditions >>= fun _ => engine.behindGate request := by
  cases request with
  | check => rfl
  | run paths everything =>
    rw [serve, run_eq, behindGate, map_bind]

theorem issues_behindGate (listening : ∀ result, (engine.onResult result).Issues heard)
    (request : Request) :
    (engine.behindGate request).Issues fun call => engine.IsWork call ∨ heard call := by
  cases request with
  | check => exact Action.issues_of_keeps (Action.keeps_pure none)
  | run paths everything =>
    rw [behindGate, map_eq_pure_bind]
    exact Action.issues_bind (issues_work listening paths everything) fun report _ _ _ =>
      Action.issues_of_keeps (Action.keeps_pure _)

/-- Requests that are served one after the other. In between anything may happen, but what is known
about the coverage engine stays. -/
inductive Serves (engine : Engine) : World → List Served → Prop
  | done {world : World} : Serves engine world []
  | next {world : World} {served : Served} {later : List Served} :
      served.before.knowledge.engine = world.knowledge.engine →
      (engine.serve served.request).outcome served.before = (served.outcome, served.after) →
      Serves engine served.after later → Serves engine world (served :: later)

/-- Serves requests one after the other, each in the world that the one before it left. -/
def serveAll (engine : Engine) : World → List Request → List Served
  | _, [] => []
  | world, request :: rest =>
    let came := (engine.serve request).outcome world
    ⟨request, world, came.1, came.2⟩ :: engine.serveAll came.2 rest

theorem serves_serveAll (engine : Engine) (world : World) (requests : List Request) :
    engine.Serves world (engine.serveAll world requests) := by
  induction requests generalizing world with
  | nil => exact .done
  | cons request rest ih => exact .next rfl rfl (ih _)

/-! ## The gate -/

theorem outcome_engineState_of_known {state : EngineState}
    (known : before.knowledge.engine = some state) :
    engine.engineState.outcome before = (.ok state, before) := by
  rw [engineState, Action.outcome_get_bind, known]
  rfl

/-- The world in which the interpreter answered. -/
def asked (engine : Engine) (answer : Except Refusal Finished) (before : World) : World :=
  let called := Action.called engine.runner engine.probe before
  { called with knowledge := { called.knowledge with engine := some (stateOf answer) } }

theorem outcome_engineState_of_unasked (unasked : before.knowledge.engine = none)
    (answered : (engine.runner before.calls engine.probe before.files).1 = .answered answer) :
    engine.engineState.outcome before = (.ok (stateOf answer), engine.asked answer before) := by
  have called : (Action.call engine.runner engine.probe).outcome before =
      (.ok answer, Action.called engine.runner engine.probe before) :=
    Action.returns_call.2 ⟨answered, rfl⟩
  have probed : (CoverageEngine.probe engine.runner engine.config.interpreter
      (some { directory := some engine.layout.root })).outcome before =
        (.ok (stateOf answer), Action.called engine.runner engine.probe before) := by
    unfold probe at called
    rw [CoverageEngine.probe, Action.outcome_bind, called]
    cases answer <;> rfl
  rw [engineState, Action.outcome_get_bind, unasked]
  simp only
  rw [Action.outcome_bind, probed]
  rfl

theorem outcome_checkPreconditions (wanted : engine.config.coverageEnabled = true)
    (learned : engine.engineState.outcome before = (.ok (stateOf answer), ready)) :
    engine.checkPreconditions.outcome before =
      (verdict answer engine.config.requiredModes engine.config.interpreter, ready) := by
  rw [checkPreconditions, if_pos wanted, Action.outcome_bind, learned]
  simp only
  unfold verdict
  cases CoverageEngine.require (stateOf answer) engine.config.requiredModes
    engine.config.interpreter <;> rfl

/-- A request comes to what an answer decides: it passes the gate exactly if the answer says so, and
goes on then; otherwise it fails with what is wrong and calls nothing but what it was asking with. -/
structure Decided (engine : Engine) (heard : Call → Prop) (answer : Except Refusal Finished)
    (asking : List Call) (served : Served) : Prop where
  gate : (∃ ready, engine.checkPreconditions.Returns served.before () ready) ↔
    Passes answer engine.config.requiredModes
  passed : ∀ ready, engine.checkPreconditions.Returns served.before () ready →
    (engine.behindGate served.request).outcome ready = (served.outcome, served.after)
  unloaded : ¬ Loaded answer →
    served.outcome = .error ⟨.usage (.engineMissing engine.config.interpreter), []⟩
  misconfigured : Loaded answer → (¬ ∀ mode ∈ engine.config.requiredModes, Active answer mode) →
    ∃ modes, (∀ mode, mode ∈ modes ↔ Active answer mode) ∧
      served.outcome = .error ⟨.usage (.engineMisconfigured
        (engine.config.requiredModes.filter (· ∉ modes)) engine.config.requiredModes modes), []⟩
  calls : ∃ work, served.after.calls = served.before.calls ++ asking ++ work ∧
    (∀ call ∈ work, engine.IsWork call ∨ heard call) ∧
    (¬ Passes answer engine.config.requiredModes → work = [])

theorem Decided.calls_of_not_passes (decided : engine.Decided heard answer asking served)
    (fails : ¬ Passes answer engine.config.requiredModes) :
    served.after.calls = served.before.calls ++ asking := by
  obtain ⟨work, calls, -, none_made⟩ := decided.calls
  rw [calls, none_made fails, List.append_nil]

/-- A request whose gate comes to a verdict is decided by it, and leaves the answer known. -/
theorem decided_of_checked
    (came : (engine.serve served.request).outcome served.before = (served.outcome, served.after))
    (listening : ∀ result, (engine.onResult result).Issues heard)
    (checked : engine.checkPreconditions.outcome served.before =
      (verdict answer engine.config.requiredModes engine.config.interpreter, ready))
    (calls : ready.calls = served.before.calls ++ asking)
    (known : ready.knowledge.engine = some (stateOf answer)) :
    engine.Decided heard answer asking served ∧
      served.after.knowledge.engine = some (stateOf answer) := by
  rw [serve_eq, Action.outcome_bind, checked] at came
  cases decided : verdict answer engine.config.requiredModes engine.config.interpreter with
  | ok done =>
    have passes := CoverageEngine.verdict_eq_ok_iff.1 decided
    rw [decided] at came checked
    simp only at came
    have issued := issues_behindGate listening served.request ready
    rw [came] at issued
    obtain ⟨work, made, fits⟩ := issued.calls
    refine ⟨⟨iff_of_true ⟨ready, checked⟩ passes, ?_, fun unloaded => absurd passes.1 unloaded,
      fun _ absent => absurd passes.2 absent, work, ?_, fits, fun fails => absurd passes fails⟩,
      issued.known.trans known⟩
    · intro other returned
      obtain ⟨-, rfl⟩ := Action.Returns.unique returned checked
      exact came
    · rw [made, calls]
  | error raised =>
    have fails : ¬ Passes answer engine.config.requiredModes := by
      intro passes
      rw [CoverageEngine.verdict_of_passes passes] at decided
      cases decided
    rw [decided] at came checked
    obtain ⟨failed, rfl⟩ := Prod.mk.inj came
    have never : ∀ other, ¬ engine.checkPreconditions.Returns served.before () other :=
      fun other returned => returned.not_fails checked
    refine ⟨⟨iff_of_false (fun ⟨other, returned⟩ => never other returned) fails,
      fun other returned => absurd returned (never other), ?_, ?_, [], ?_, nofun, fun _ => rfl⟩,
      known⟩
    · intro unloaded
      rw [CoverageEngine.verdict_of_not_loaded unloaded] at decided
      rw [← failed, ← Except.error.inj decided]
    · intro loaded absent
      obtain ⟨modes, active, refused⟩ :=
        CoverageEngine.verdict_of_not_active loaded absent
      rw [refused] at decided
      refine ⟨modes, active, ?_⟩
      rw [← failed, ← Except.error.inj decided]
    · rw [List.append_nil, calls]

/-- Once an answer is known it decides about every request. -/
theorem decided_of_known (wanted : engine.config.coverageEnabled = true)
    (listening : ∀ result, (engine.onResult result).Issues heard)
    (known : world.knowledge.engine = some (stateOf answer)) (serves : engine.Serves world later) :
    ∀ served ∈ later, engine.Decided heard answer [] served := by
  induction serves with
  | done =>
    intro served mem
    cases mem
  | @next world served later same came _ ih =>
    have learned : engine.engineState.outcome served.before =
        (.ok (stateOf answer), served.before) :=
      outcome_engineState_of_known (same.trans known)
    have checked := outcome_checkPreconditions wanted learned
    obtain ⟨decided, known⟩ := decided_of_checked came listening checked (List.append_nil _).symm
      (same.trans known)
    intro served mem
    rcases List.mem_cons.1 mem with rfl | after
    · exact decided
    · exact ih known served after

/-- The command of a job is longer than the question to the interpreter. -/
theorem mem_session_of_probe {call : Call} (work : engine.IsWork call) (same : call = engine.probe) :
    call ∈ [engine.setupCall, engine.teardownCall] := by
  rcases work with session | ⟨job, made, rfl⟩
  · exact session
  · have lengths := congrArg (fun call => call.arguments.length) same
    have long := engine.builder.length_build job.testPath job.outputs
    have short : engine.probe.arguments.length = 3 := rfl
    have built : (engine.executor.callOf job).arguments =
        engine.builder.build job.testPath job.outputs := made.2
    simp only [short, built] at lengths
    omega

/-- For every engine that is to measure coverage and whose interpreter was not asked yet, and every
sequence of requests: the first one asks the interpreter, and if that answers at all, its answer
decides about the first request and, without another question, about all later ones. A request passes
the gate exactly if the interpreter ended with status zero, its first line is `1` and all required
modes are items of its second line. It fails otherwise: the extension is missing, or it has not all
modes on, of which those that are off are named in their order. Then it calls nothing more, and a
request that passes calls the programs of its session and of its jobs, and what listeners call. The
question is none of those, unless a session has it for a command. -/
theorem decided_by_first_probe (wanted : engine.config.coverageEnabled = true)
    (listening : ∀ result, (engine.onResult result).Issues heard)
    (unasked : world.knowledge.engine = none) (serves : engine.Serves world (first :: later))
    (answered : (engine.runner first.before.calls engine.probe first.before.files).1 =
      .answered answer) :
    engine.Decided heard answer [engine.probe] first ∧
      (∀ served ∈ later, engine.Decided heard answer [] served) ∧
      ∀ call, engine.IsWork call → call = engine.probe →
        call ∈ [engine.setupCall, engine.teardownCall] := by
  cases serves with
  | next same came rest =>
    have learned := outcome_engineState_of_unasked (same.trans unasked) answered
    obtain ⟨decided, known⟩ := decided_of_checked came listening
      (outcome_checkPreconditions wanted learned) rfl rfl
    exact ⟨decided, decided_of_known wanted listening known rest, fun _ => mem_session_of_probe⟩

/-- The small project with coverage, in which every process ends with the same output. -/
def answering (process : Finished) : Engine :=
  { SmallProject.engine "" with
    config := { coverage := some true }
    runner := fun _ _ files => (.finished process, files) }

/-- The extension without one of its modes. -/
def halfOn : Finished :=
  { out := some "1\ncoverage\n" }

/-- The extension with both modes, and with blanks around them. -/
def allOn : Finished :=
  { out := some " 1 \r\n debug ,, coverage" }

/-- A request of each kind. -/
def bothKinds : List Request :=
  [.check, .run ["test/ATest.php"] false]

/-- An interpreter that lacks a mode is asked once, and every request is refused. With both modes
every request passes. -/
theorem decided_for_answers :
    (∀ served ∈ (answering halfOn).serveAll SmallProject.world bothKinds,
      (∃ modes, served.outcome = .error ⟨.usage (.engineMisconfigured ["debug"]
        ["coverage", "debug"] modes), []⟩) ∧
      served.after.calls = [(answering halfOn).probe]) ∧
    ∀ served ∈ (answering allOn).serveAll SmallProject.world bothKinds,
      ∃ ready, (answering allOn).checkPreconditions.Returns served.before () ready := by
  have listening : ∀ process result, ((answering process).onResult result).Issues fun _ => False :=
    fun _ _ => Action.issues_of_keeps (Action.keeps_pure ())
  constructor
  · have loaded : Loaded (.ok halfOn) := CoverageEngine.loaded_stateOf.1 (by decide)
    have off : ¬ Active (.ok halfOn) "debug" := by
      rw [← CoverageEngine.mem_modes_stateOf]
      decide
    have on : Active (.ok halfOn) "coverage" :=
      CoverageEngine.mem_modes_stateOf.1 (by decide)
    have absent : ¬ ∀ mode ∈ (answering halfOn).config.requiredModes, Active (.ok halfOn) mode :=
      fun all => off (all "debug" (List.mem_cons_of_mem _ List.mem_cons_self))
    have refused : ∀ asking served, (answering halfOn).Decided (fun _ => False) (.ok halfOn) asking served →
        ∃ modes, served.outcome = .error ⟨.usage (.engineMisconfigured ["debug"]
          ["coverage", "debug"] modes), []⟩ := by
      intro asking served decided
      obtain ⟨modes, active, outcome⟩ := decided.misconfigured loaded absent
      have left : ["coverage", "debug"].filter (· ∉ modes) = ["debug"] := by
        simp [active, on, off]
      have required : (answering halfOn).config.requiredModes = ["coverage", "debug"] := rfl
      rw [required, left] at outcome
      exact ⟨modes, outcome⟩
    obtain ⟨first, later, -⟩ := @decided_by_first_probe (answering halfOn) (.ok halfOn)
      SmallProject.world _ _ _ rfl (listening halfOn) rfl
      (serves_serveAll (answering halfOn) SmallProject.world bothKinds) rfl
    have asked := first.calls_of_not_passes fun passes => absent passes.2
    intro served mem
    rcases List.mem_cons.1 mem with rfl | mem
    · exact ⟨refused _ _ first, asked⟩
    · have again := later served mem
      refine ⟨refused _ _ again, ?_⟩
      rw [again.calls_of_not_passes fun passes => absent passes.2, List.append_nil,
        List.mem_singleton.1 mem]
      exact asked
  · have passes : Passes (.ok allOn) (answering allOn).config.requiredModes :=
      ⟨CoverageEngine.loaded_stateOf.1 (by decide),
        CoverageEngine.missing_eq_nil_iff.1 (by decide)⟩
    obtain ⟨first, later, -⟩ := @decided_by_first_probe (answering allOn) (.ok allOn)
      SmallProject.world _ _ _ rfl (listening allOn) rfl
      (serves_serveAll (answering allOn) SmallProject.world bothKinds) rfl
    intro served mem
    rcases List.mem_cons.1 mem with rfl | mem
    · exact first.gate.2 passes
    · exact (later served mem).gate.2 passes

end Engine

end TestImpact
