import TestImpact.Engine
import TestImpact.Proofs.Discovery.Anywhere
import TestImpact.Proofs.Execution.Plan
import TestImpact.Proofs.Layout
import TestImpact.Proofs.SmallProject
import TestImpact.Proofs.Twins

/-!
# Plans from another working directory

An action is `Action.Homeless` if it comes to the same from every working directory and leaves the
same world but for that. Such actions put together are such an action (`homeless_bind`), and
planning is one where the tests and their reports are named from the root (`homeless_plan`), as they
are in every layout that a configuration has (`Layout.absolute_of_ofConfig`). Main statement:
`planned_from_anywhere`.
-/

namespace TestImpact

/-- The same world, seen from another working directory. -/
def World.seenFrom (world : World) (home : Location) : World :=
  { world with files := world.files.seenFrom home }

/-! ## Actions that the working directory does not matter to -/

namespace Action

variable {α β : Type} {action : Action α}

/-- The action comes to the same from every working directory, and leaves the same but for it. -/
def Homeless (action : Action α) : Prop :=
  ∀ before home, action.outcome (before.seenFrom home) =
    ((action.outcome before).1, (action.outcome before).2.seenFrom home)

theorem Blind.homeless (blind : action.Blind) : action.Homeless := by
  intro before home
  rw [World.seenFrom, blind before, World.seenFrom, blind.files_eq]

theorem homeless_pure (a : α) : (pure a : Action α).Homeless :=
  (blind_pure a).homeless

/-- A sequence is homeless if its first part is, and so is what follows on what that returns. -/
theorem homeless_bind {next : α → Action β} (first : action.Homeless)
    (later : ∀ a before after, action.Returns before a after → (next a).Homeless) :
    (action >>= next).Homeless := by
  intro before home
  rw [outcome_bind, outcome_bind, first before home]
  cases same : action.outcome before with
  | mk outcome between =>
    cases outcome with
    | error raised => rfl
    | ok a => exact later a before between same between home

theorem composes_homeless : Composes fun _ => Homeless :=
  ⟨homeless_pure, homeless_bind⟩

theorem homeless_ask {question : FileSystem → Except Fault α}
    (same : ∀ files home, question (files.seenFrom home) = question files) :
    (ask question).Homeless := by
  intro before home
  have asked : question (before.seenFrom home).files = question before.files := same _ home
  rw [outcome_ask, outcome_ask, asked]

theorem homeless_change {operation : FileSystem → Except Fault FileSystem}
    (same : ∀ files home,
      operation (files.seenFrom home) = (operation files).map (·.seenFrom home)) :
    (change operation).Homeless := by
  intro before home
  have changed : operation (before.seenFrom home).files =
      (operation before.files).map (·.seenFrom home) := same _ home
  unfold change
  rw [outcome_bind, outcome_bind, outcome_ask, outcome_ask, changed]
  cases operation before.files <;> rfl

end Action

/-! ## Planning -/

namespace ReportPlace

variable {place : ReportPlace}

/-- The reports of a test file are named from the root if the directory of reports is. -/
theorem isAbsolute_of_mem_paths (absolute : place.directory.isAbsolute = true) {testPath : String}
    {path : Path} (mem : path ∈ (place.outputs testPath).paths) : path.isAbsolute = true := by
  rcases mem_paths mem with rfl | ⟨-, rfl⟩
  · exact Path.isAbsolute_div absolute (Path.ofString "junit")
  · exact Path.isAbsolute_div absolute (Path.ofString "clover")

theorem homeless_changes (absolute : place.directory.isAbsolute = true) (testPath : String) :
    Action.HoldsOfChanges (fun _ => Action.Homeless) place testPath where
  makes directory mem := by
    apply Action.homeless_change
    intro _ _
    rcases List.mem_pair.1 mem with rfl | rfl
    · exact FileSystem.makeDirectories_seenFrom (Path.isAbsolute_div absolute _)
    · exact FileSystem.makeDirectories_seenFrom (Path.isAbsolute_div absolute _)
  removes _ mem := Action.homeless_change fun _ _ =>
    FileSystem.remove_seenFrom (isAbsolute_of_mem_paths absolute mem)
  touches _ mem := Action.homeless_change fun _ _ =>
    FileSystem.touch_seenFrom (isAbsolute_of_mem_paths absolute mem)

end ReportPlace

namespace Executor

variable {executor : Executor}

/-- The base directory and the directory of reports of an executor are named from the root. -/
structure Rooted (executor : Executor) : Prop where
  based : ∃ base, executor.base = some base ∧ base.isAbsolute = true
  reports : executor.place.directory.isAbsolute = true

theorem homeless_plan (rooted : executor.Rooted) (affected : Affected) :
    (executor.plan affected).Homeless := by
  apply Action.composes_homeless.plan
  · intro test
    obtain ⟨base, based, absolute⟩ := rooted.based
    have named : (located executor.base test).isAbsolute = true := by
      rw [based]
      exact Path.isAbsolute_div absolute _
    exact Action.homeless_ask fun _ _ => FileSystem.isFile_seenFrom named
  · exact ReportPlace.homeless_changes rooted.reports
  · exact (Action.blind_throw _).homeless

end Executor

/-! ## Layouts -/

namespace Layout

variable {fs : FileSystem} {config : Config} {root : Path} {checked : Bool} {layout : Layout}
  {r : Resolver} {executor : Executor}

/-- A resolver and an executor that look for tests and put reports where a layout says. -/
structure Places (layout : Layout) (r : Resolver) (executor : Executor) : Prop where
  base : r.base = some layout.root
  source : r.sourceRoot = layout.sourceRoot
  test : r.testRoot = layout.testRoot
  base' : executor.base = some layout.root
  reports : executor.place.directory = layout.reportsDirectory

theorem places_engine (engine : Engine) : engine.layout.Places engine.resolver engine.executor :=
  ⟨rfl, rfl, rfl, rfl, rfl⟩

theorem Places.rooted (places : layout.Places r executor)
    (made : ofConfig fs config root checked = .ok layout) : r.Rooted ∧ executor.Rooted := by
  obtain ⟨absolute, source, test, reports⟩ := absolute_of_ofConfig made
  exact ⟨⟨⟨_, places.base, absolute⟩, places.source ▸ source, places.test ▸ test⟩,
    ⟨⟨_, places.base', absolute⟩, places.reports ▸ reports⟩⟩

/-- Finds the tests that changed paths affect, and plans their jobs. -/
def planFor (r : Resolver) (executor : Executor) (paths : List String) : Action (List Job) := do
  let files := (← get).files
  executor.plan (← Action.resolving (r.resolve files paths))

/-- Whatever layout a configuration has, and whichever way tests are found in it: from every working
directory the same tests are found for the same changed paths, or the search fails with the same,
and the same is remembered. Whatever tests are affected, the same jobs are planned then, or planning
fails with the same, and the worlds that are left differ in the working directory alone. So it is
with the search and the planning together. -/
theorem planned_from_anywhere (made : ofConfig fs config root checked = .ok layout)
    (places : layout.Places r executor) :
    (∀ (files : FileSystem) (home : Location) (paths : List String),
      r.resolve (files.seenFrom home) paths = r.resolve files paths) ∧
    (∀ affected, (executor.plan affected).Homeless) ∧
    ∀ paths, (planFor r executor paths).Homeless := by
  obtain ⟨rooted, rooted'⟩ := places.rooted made
  have resolved : ∀ (files : FileSystem) (home : Location) (paths : List String),
      r.resolve (files.seenFrom home) paths = r.resolve files paths :=
    fun files home paths => Resolver.resolve_seenFrom rooted paths
  have planned : ∀ affected, (executor.plan affected).Homeless :=
    Executor.homeless_plan rooted'
  refine ⟨resolved, planned, fun paths before home => ?_⟩
  unfold planFor
  rw [Action.outcome_get_bind, Action.outcome_get_bind]
  simp only
  have found : r.resolve (before.seenFrom home).files paths = r.resolve before.files paths :=
    resolved before.files home paths
  rw [found]
  exact Action.homeless_bind (Action.blind_resolving _).homeless
    (fun affected _ _ _ => planned affected) before home

/-- The small project with the layout that its configuration has. -/
def laidOut : Engine :=
  { SmallProject.engine "" with layout := below {} "/p" (Path.ofString "/p") }

/-- From a place outside the small project, its source file has the job of its test. -/
theorem planned_from_outside : ∃ jobs after,
    (planFor laidOut.resolver laidOut.executor ["src/A.php"]).Returns
        (SmallProject.world.seenFrom ["srv"]) jobs after ∧
      jobs.map Job.testPath = ["/p/test/ATest.php"] := by
  have made : ofConfig SmallProject.files {} (Path.ofString "/p") true =
      .ok laidOut.layout := by
    decide +kernel
  obtain ⟨-, -, homeless⟩ := planned_from_anywhere made (places_engine laidOut)
  have evaluated : (planFor laidOut.resolver laidOut.executor ["src/A.php"]).returnsSome
      SmallProject.world (fun jobs => jobs.map Job.testPath = ["/p/test/ATest.php"]) = true := by
    decide +kernel
  obtain ⟨jobs, after, returned, found⟩ := Action.exists_of_returnsSome evaluated
  refine ⟨jobs, after.seenFrom ["srv"], ?_, of_decide_eq_true found⟩
  rw [Action.Returns] at returned ⊢
  rw [homeless ["src/A.php"] SmallProject.world ["srv"], returned]

end Layout

end TestImpact
