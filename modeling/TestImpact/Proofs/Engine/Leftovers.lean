import Mathlib.Data.List.Find
import TestImpact.Proofs.Discovery.Inputs
import TestImpact.Proofs.Engine.Advice
import TestImpact.Proofs.Engine.Independence
import TestImpact.Proofs.Engine.Sessions
import TestImpact.Proofs.Execution.Room
import TestImpact.Proofs.FileSystem.Writing
import TestImpact.Proofs.SmallProject

/-!
# Reports of earlier runs

What lies in the directories of reports before a run is no part of it. Two runs that begin with
different files there, and with the same everywhere else, come to the same, if programs behave and
write the same in both and nothing else that a run reads lies there
(`Engine.leftovers_unseen`). The point is that planning removes the reports that have the names of
this run before the first process starts, so that what a process left out is missing and not old.

Programs that look at no file behave and write the same, whatever they write and wherever
(`Runner.unaware_scripted`).
-/

namespace TestImpact

open FileSystem

/-! ## Files that differ in leftovers -/

/-- Two file systems differ at most in which files with which contents stand directly inside the
directories of reports, and the reports of some tests lead to the same in both. -/
structure ReportPlace.Agrees (place : ReportPlace) (tests : Set String)
    (left right : FileSystem) : Prop where
  alike : Alike (place.shelf left) left right
  reports : ∀ test ∈ tests, ∀ path ∈ (place.outputs test).paths, Shared left right path

theorem ReportPlace.Agrees.mono {place : ReportPlace} {tests fewer : Set String}
    {left right : FileSystem} (agrees : place.Agrees tests left right)
    (less : ∀ test ∈ fewer, test ∈ tests) : place.Agrees fewer left right :=
  ⟨agrees.alike, fun test mem => agrees.reports test (less test mem)⟩

/-- Programs behave and write the same, whatever an earlier run left in the directories of reports:
in two file systems that differ in leftovers only, but not in the reports of some tests, every call
has the same reply, and leaves file systems that differ in leftovers only, but not in the reports of
these tests. -/
def Runner.Unaware (runner : Runner) (place : ReportPlace) : Prop :=
  ∀ tests earlier command left right, place.Agrees tests left right →
    (runner earlier command left).1 = (runner earlier command right).1 ∧
      place.Agrees tests (runner earlier command left).2 (runner earlier command right).2

/-- A runner that looks at no file: what a call is answered, and which files with which contents it
writes, depends on the calls only. A file that cannot be written is left out. -/
def Runner.scripted (reply : List Call → Call → Reply)
    (writes : List Call → Call → List (Path × List UInt8)) : Runner := fun earlier command files =>
  (reply earlier command, (writes earlier command).foldl (fun now (path, content) =>
    now.written path content) files)

theorem ReportPlace.Agrees.written {place : ReportPlace} {tests : Set String}
    {left right : FileSystem} (agrees : place.Agrees tests left right) (path : Path)
    (content : List UInt8) :
    place.Agrees tests (left.written path content) (right.written path content) := by
  have beside := agrees.alike.written path content
  refine ⟨?_, fun test mem report among => beside.shared _ (agrees.reports test mem report among)⟩
  rw [ReportPlace.shelf_congr (beside.ways _) (beside.ways _)]
  exact beside.alike

/-- A runner that looks at no file is unaware of leftovers, wherever it writes. -/
theorem Runner.unaware_scripted (reply : List Call → Call → Reply)
    (writes : List Call → Call → List (Path × List UInt8)) (place : ReportPlace) :
    (Runner.scripted reply writes).Unaware place := by
  intro tests earlier command left right agrees
  refine ⟨rfl, ?_⟩
  unfold Runner.scripted
  simp only
  induction writes earlier command generalizing left right with
  | nil => exact agrees
  | cons first rest ih => exact ih _ _ (agrees.written first.1 first.2)

namespace Engine

variable {engine : Engine} {tests : Set String} {left right : World}

/-- Two worlds that differ in leftovers only, but not in the reports of some tests. -/
abbrev Twins (engine : Engine) (tests : Set String) : World → World → Prop :=
  World.Twins (engine.executor.place.Agrees tests)

/-- The paths that are resolved at first. -/
def starting (engine : Engine) (paths : List String) (everything : Bool) : List String :=
  if everything then [engine.layout.testRoot] else paths

/-- A path that is followed before the first process of a job: to a manifest, to the program that
runs containers, to a source file or a test that may declare its class, to an affected test, or to a
directory of reports. -/
inductive Opens (engine : Engine) (paths : List String) (start : World) : Path → Prop
  | lock : Opens engine paths start engine.lockPath
  | installed : Opens engine paths start engine.installedPath
  | program {directory : String} : engine.config.docker.enabled = true →
      directory ∈ Search.directories ((start.environment.lookup "PATH").getD "") →
      Opens engine paths start (Path.ofString (Search.inDirectory directory "docker"))
  | resolved {path : Path} : engine.resolver.Opens start.files paths path →
      Opens engine paths start path
  | affected {affected : Affected} {test : String} :
      ((engine.resolver.resolve start.files paths).run start.knowledge.index).1 = .ok affected →
      test ∈ Executor.uniqueTests engine.executor.base affected →
      Opens engine paths start (Executor.located engine.executor.base test)
  | junit : Opens engine paths start engine.executor.place.junitDirectory
  | clover : Opens engine paths start engine.executor.place.cloverDirectory

/-- What a run reads lies apart from the reports: no path that it follows before its jobs leads
through a file there, no directory that it lists contains one, and no source file that a coverage
report names while the jobs are run lies there. The directory of reports is named from the root, as
it is in every layout that a configuration has (`Layout.anchored_ofConfig`), and listeners neither
look at files nor change them, and call nothing. -/
structure Apart (engine : Engine) (paths : List String) (everything : Bool) (before : World) :
    Prop where
  anchored : engine.executor.place.Anchored
  listens : ∀ result, (engine.onResult result).Blind ∧ (engine.onResult result).Silent
  opens : ∀ start, engine.checkPreconditions.Returns before () start →
    ∀ path, engine.Opens (engine.starting paths everything) start path →
      Clear (engine.executor.place.shelf start.files) start.files path
  lists : ∀ start, engine.checkPreconditions.Returns before () start →
    ∀ path, engine.resolver.Lists start.files (engine.starting paths everything) path →
      start.files.Without (engine.executor.place.shelf start.files) path
  sources : ∀ {stale jobs planned opened earlier now},
    (engine.prepare paths everything).Returns before (stale, jobs) planned →
    engine.opening.Returns planned () opened →
    During engine.runner engine.executor.callOf jobs opened.calls opened.files earlier now →
    ∀ job ∈ jobs, ∀ junit clover, job.outputs.texts now = .ok (junit, some clover) →
      ∀ source ∈ Clover.named now.cwd engine.layout.root clover,
        Clear (engine.executor.place.shelf now) now (engine.layout.root / Path.ofString source)

/-! ## Before the jobs -/

section

variable (unaware : engine.runner.Unaware engine.executor.place)

include unaware

/-- A call goes abreast with itself. -/
theorem abreast_call (twins : engine.Twins tests left right) (command : Call) :
    Action.Abreast (Action.call engine.runner command) (Action.call engine.runner command)
      left right (fun _ => engine.Twins tests) (engine.Twins tests) :=
  have same := unaware tests left.calls command left.files right.files twins.files
  Action.abreast_call twins same.1 same.2

theorem abreast_checkPreconditions (twins : engine.Twins tests left right) :
    Action.Abreast engine.checkPreconditions engine.checkPreconditions left right
      (fun _ => engine.Twins tests) (engine.Twins tests) := by
  unfold checkPreconditions
  split
  · have known : right.knowledge = left.knowledge := by rw [twins.same]
    have asked : Action.Abreast engine.engineState engine.engineState left right
        (fun _ => engine.Twins tests) (engine.Twins tests) := by
      unfold engineState
      refine Action.abreast_get_bind ?_
      rw [known]
      split
      · exact Action.abreast_pure twins
      · have probed : Action.Abreast
            (CoverageEngine.probe engine.runner engine.config.interpreter
              (some { directory := some engine.layout.root }))
            (CoverageEngine.probe engine.runner engine.config.interpreter
              (some { directory := some engine.layout.root })) left right
            (fun _ => engine.Twins tests) (engine.Twins tests) := by
          refine Action.abreast_bind (abreast_call unaware twins _) ?_
          intro answer left' right' _ _ twins'
          split <;> exact Action.abreast_pure twins'
        refine Action.abreast_bind probed fun state left' right' _ _ twins' => ?_
        have noted : (modify fun world : World => { world with knowledge :=
            { world.knowledge with engine := some state } } : Action PUnit).Blind := fun _ _ => rfl
        exact (Action.blind_bind noted fun _ => Action.blind_pure state).abreast twins'
    refine Action.abreast_bind asked fun state left' right' _ _ twins' => ?_
    exact (Action.blind_ofExcept _).abreast twins'
  · exact Action.abreast_pure twins

end

theorem blind_warnAbout (engine : Engine) (stale : List Value) :
    (engine.warnAbout stale).Blind := by
  refine Action.blind_bind (Action.blind_ofExcept _) fun names => ?_
  simp only
  split
  · exact Action.blind_bind (Action.blind_report _ _ _ _) fun _ => Action.blind_pure names
  · exact Action.blind_pure names

theorem check_congr {files others : FileSystem} {lock installed : Path}
    (home : files.workingDirectory = others.workingDirectory) (first : Shared files others lock)
    (second : Shared files others installed) :
    Dependency.check files lock installed = Dependency.check others lock installed := by
  unfold Dependency.check Dependency.readManifest
  have begun := start_congr home lock
  have begun' := start_congr home installed
  rw [first.isFile_eq begun, second.isFile_eq begun', first.readText?_eq begun,
    second.readText?_eq begun']

theorem abreast_staleDependencies {related : FileSystem → FileSystem → Prop}
    (twins : World.Twins related left right)
    (home : left.files.workingDirectory = right.files.workingDirectory)
    (lock : Shared left.files right.files engine.lockPath)
    (installed : Shared left.files right.files engine.installedPath) :
    Action.Abreast engine.staleDependencies engine.staleDependencies left right
      (fun _ => World.Twins related) (World.Twins related) := by
  have same := check_congr home lock installed
  unfold lockPath installedPath at same
  unfold staleDependencies
  refine Action.abreast_get_bind ?_
  simp only
  rw [← same]
  split
  · exact (blind_warnAbout engine _).abreast twins
  · exact (Action.blind_bind (Action.blind_report _ _ _ _) fun _ => Action.blind_pure []).abreast
      twins
  · exact Action.abreast_throw twins

theorem returns_startingPaths {paths starting : List String} {everything : Bool}
    {before after : World}
    (returned : (engine.startingPaths paths everything).Returns before starting after) :
    starting = engine.starting paths everything ∧ after = before := by
  unfold startingPaths at returned
  unfold Engine.starting
  split at returned
  next all =>
    rw [if_pos all]
    split at returned
    · exact Action.returns_pure.1 returned
    · exact absurd returned Action.not_returns_fail
  next some_paths =>
    rw [if_neg some_paths]
    exact Action.returns_pure.1 returned

theorem blind_startingPaths (engine : Engine) (paths : List String) (everything : Bool) :
    (engine.startingPaths paths everything).Blind := by
  unfold startingPaths
  split
  · split
    · exact Action.blind_pure _
    · exact Action.blind_throw _
  · exact Action.blind_pure paths

/-- The program that runs containers is found in both worlds or in neither. -/
theorem abreast_requireAvailable {related : FileSystem → FileSystem → Prop}
    (twins : World.Twins related left right)
    (home : left.files.workingDirectory = right.files.workingDirectory)
    (shared : engine.config.docker.enabled = true →
      ∀ directory ∈ Search.directories ((left.environment.lookup "PATH").getD ""),
        Shared left.files right.files (Path.ofString (Search.inDirectory directory "docker"))) :
    Action.Abreast engine.builder.requireAvailable engine.builder.requireAvailable left right
      (fun _ => World.Twins related) (World.Twins related) := by
  unfold CommandBuilder.requireAvailable
  split
  next docker =>
    have enabled : engine.config.docker.enabled = true := by
      unfold builder CommandBuilder.usesDocker at docker
      simp only at docker
      split at docker
      · assumption
      · cases docker
    have found : Search.find? left.files ((left.environment.lookup "PATH").getD "") "docker" =
        Search.find? right.files ((left.environment.lookup "PATH").getD "") "docker" := by
      unfold Search.find?
      rw [if_neg (by decide), if_neg (by decide)]
      refine List.find?_congr fun name mem => ?_
      obtain ⟨directory, searched, rfl⟩ := List.mem_map.1 mem
      unfold Search.isProgram
      rw [(shared enabled directory searched).stat_eq (start_congr home _)]
    have same_path : right.environment = left.environment := by rw [twins.same]
    unfold Action.findProgram
    rw [bind_assoc]
    refine Action.abreast_get_bind ?_
    rw [same_path, ← found, pure_bind]
    split
    · exact Action.abreast_throw twins
    · exact Action.abreast_pure twins
  next => exact Action.abreast_pure twins

theorem returns_resolving {α : Type} {action : Resolving α} {a : α} {before after : World}
    (returned : (Action.resolving action).Returns before a after) :
    (action.run before.knowledge.index).1 = .ok a ∧
      ∃ knowledge, after = { before with knowledge } := by
  have entered : (Action.ofExcept (action.run before.knowledge.index).1).Returns
      { before with knowledge :=
        { before.knowledge with index := (action.run before.knowledge.index).2 } } a after :=
    returned
  obtain ⟨found, rfl⟩ := Action.returns_ofExcept.1 entered
  exact ⟨found, _, rfl⟩

/-- The tests of some jobs. -/
def testsOf (jobs : List Job) : Set String :=
  { test | ∃ job ∈ jobs, job.testPath = test }

/-- The same jobs are planned in both worlds, and then their reports lead to the same in both. -/
theorem abreast_plan {paths : List String} (anchored : engine.executor.place.Anchored)
    (twins : engine.Twins ∅ left right)
    (opens : ∀ path, engine.Opens paths left path →
      Clear (engine.executor.place.shelf left.files) left.files path)
    (lists : ∀ path, engine.resolver.Lists left.files paths path →
      left.files.Without (engine.executor.place.shelf left.files) path) :
    Action.Abreast (engine.plan paths) (engine.plan paths) left right
      (fun jobs => engine.Twins (testsOf jobs)) (engine.Twins ∅) := by
  have alike := twins.files.alike
  have settled := fun path opened => (opens path opened).settled alike
  have resolved := Resolver.resolve_congr alike
    (fun path opened => (settled path (.resolved opened)).shared) lists
  -- Up to the plan of the executor the files stay as they are.
  unfold plan
  refine Action.abreast_get_bind ?_
  simp only
  rw [← resolved]
  refine Action.abreast_bind (((Action.blind_resolving _).abreast twins.still).imp_broken
    fun _ _ => twins.of_still) ?_
  intro affected left₁ right₁ returned _ twins₁
  obtain ⟨found, knowledge, rfl⟩ := returns_resolving returned
  refine Action.abreast_bind ((abreast_requireAvailable twins₁ ?_ ?_).imp_broken
    fun _ _ => twins.of_still) ?_
  · rw [twins₁.files.2]
    exact alike.home
  · intro enabled directory searched
    rw [twins₁.files.2]
    exact (settled _ (.program enabled searched)).shared
  intro _ left₂ right₂ _ _ twins₂
  refine Action.abreast_bind (((Action.blind_ofExcept _).abreast twins₂).imp_broken
    fun _ _ => twins.of_still) ?_
  intro _ left₃ right₃ _ _ twins₃
  obtain ⟨same₃, here, there⟩ := twins₃
  have shelved : engine.executor.place.Shelved (engine.executor.place.shelf left.files)
      left₃.files right₃.files := by
    rw [here, there]
    exact ⟨alike, settled _ .junit, settled _ .clover, fun _ mem => mem⟩
  have planned := Executor.goesOnward_plan anchored same₃ shelved fun test mem => by
    rw [here, there]
    exact settled _ (.affected found mem)
  have shelf_same : ∀ {files others}, Onward (engine.executor.place.shelf left.files) left₃.files
      right₃.files files others →
        Alike (engine.executor.place.shelf files) files others := fun onward => by
    rw [(shelved.onward onward).2, here]
    exact onward.alike
  refine planned.imp ?_ fun _ _ failed => failed.imp fun onward => ⟨shelf_same onward, nofun⟩
  intro jobs left₄ right₄ returned twins₄
  refine twins₄.imp fun ⟨onward, fine⟩ => ⟨shelf_same onward, ?_⟩
  rintro _ ⟨job, mem, rfl⟩ path written
  rw [← (Executor.plan_jobs returned job mem).1] at written
  exact (fine job mem path written).shared

/-- What was said before does not matter for what is followed. -/
theorem Opens.of_output {paths : List String} {start : World} {output : String} {path : Path}
    (opened : engine.Opens paths { start with output } path) : engine.Opens paths start path := by
  cases opened with
  | lock => exact .lock
  | installed => exact .installed
  | program enabled searched => exact .program enabled searched
  | resolved opened => exact .resolved opened
  | affected found mem => exact .affected found mem
  | junit => exact .junit
  | clover => exact .clover

/-- What comes before the jobs is the same in both worlds. -/
theorem abreast_prepare {paths : List String} {everything : Bool}
    (unaware : engine.runner.Unaware engine.executor.place)
    (apart : engine.Apart paths everything left) (twins : engine.Twins ∅ left right) :
    Action.Abreast (engine.prepare paths everything) (engine.prepare paths everything) left right
      (fun prepared => engine.Twins (testsOf prepared.2)) (engine.Twins ∅) := by
  unfold prepare
  refine Action.abreast_bind (abreast_checkPreconditions unaware twins) ?_
  intro _ left₁ right₁ checked _ twins₁
  have alike := twins₁.files.alike
  have shared := fun path opened => ((apart.opens left₁ checked path opened).settled alike).shared
  refine Action.abreast_bind (abreast_staleDependencies twins₁ alike.home (shared _ .lock)
    (shared _ .installed)) ?_
  intro stale left₂ right₂ compared _ twins₂
  obtain ⟨⟨output, rfl⟩, -⟩ := returns_staleDependencies compared
  refine Action.abreast_bind ((blind_startingPaths engine paths everything).abreast twins₂) ?_
  intro starting left₃ right₃ chosen _ twins₃
  obtain ⟨rfl, rfl⟩ := returns_startingPaths chosen
  refine Action.abreast_bind (abreast_plan apart.anchored twins₃
    (fun path opened => apart.opens left₁ checked path opened.of_output)
    (apart.lists left₁ checked)) ?_
  intro jobs left₄ right₄ _ _ twins₄
  exact Action.abreast_pure twins₄

/-! ## The jobs -/

/-- What a job left is read alike in two file systems that differ in leftovers only. -/
theorem reading_congr {files others : FileSystem} {completion : Completion}
    (agrees : engine.executor.place.Agrees tests files others)
    (among : completion.job.testPath ∈ tests)
    (made : completion.job.outputs = engine.executor.place.outputs completion.job.testPath)
    (apart : ∀ junit clover, completion.job.outputs.texts files = .ok (junit, some clover) →
      ∀ source ∈ Clover.named files.cwd engine.layout.root clover,
        Clear (engine.executor.place.shelf files) files
          (engine.layout.root / Path.ofString source)) :
    engine.reading files completion = engine.reading others completion := by
  have home := agrees.alike.home
  have texts : completion.job.outputs.texts files = completion.job.outputs.texts others := by
    refine Outputs.texts_congr fun path written => ?_
    rw [made] at written
    exact (agrees.reports _ among path written).readText_eq (start_congr home _)
  refine funext fun counts => ?_
  show (engine.reading files completion).run.run counts =
    (engine.reading others completion).run.run counts
  rw [run_reading, run_reading, ← texts]
  rcases read : completion.job.outputs.texts files with failure | ⟨junit, clover⟩
  · rfl
  have counted : ∀ source ∈ clover.toList.flatMap (Clover.named files.cwd engine.layout.root),
      LineCounts.count files engine.layout.root source =
        LineCounts.count others engine.layout.root source := by
    intro source asked
    obtain ⟨xml, report, named⟩ := List.mem_flatMap.1 asked
    rw [Option.mem_toList] at report
    have shared := ((apart junit xml (report ▸ read) source named).settled agrees.alike).shared
    unfold LineCounts.count LineCounts.read
    rw [shared.readText_eq (start_congr home _)]
  simp only [Reading.results]
  rw [← agrees.alike.cwd_eq, Reading.resultsBy_congr counted]

/-- What a job left is collected alike in two worlds that differ in leftovers only. -/
theorem abreast_collect {completion : Completion}
    (listens : ∀ result, (engine.onResult result).Blind ∧ (engine.onResult result).Silent)
    (twins : engine.Twins tests left right) (among : completion.job.testPath ∈ tests)
    (made : completion.job.outputs = engine.executor.place.outputs completion.job.testPath)
    (apart : ∀ junit clover,
      completion.job.outputs.texts left.files = .ok (junit, some clover) →
      ∀ source ∈ Clover.named left.files.cwd engine.layout.root clover,
        Clear (engine.executor.place.shelf left.files) left.files
          (engine.layout.root / Path.ofString source)) :
    Action.Abreast (engine.collect completion) (engine.collect completion) left right
      (fun _ left' right' => engine.Twins tests left' right' ∧ left'.files = left.files ∧
        left'.calls = left.calls) (engine.Twins tests) := by
  have silent := silent_collect (fun result => (listens result).2) completion left
  unfold collect at silent ⊢
  refine Action.abreast_get_bind ?_
  simp only
  rw [← reading_congr twins.files among made apart]
  rw [Action.outcome_get_bind] at silent
  refine (Action.Blind.abreast ?_ twins.still).imp ?_ fun _ _ => twins.of_still
  · refine Action.blind_bind (Action.blind_counting _) fun read => ?_
    split
    · exact Action.blind_bind (Action.composes_blind.forM (fun result => (listens result).1) _) fun _ =>
        Action.blind_pure _
    · exact Action.blind_bind (Action.blind_report _ _ _ _) fun _ => Action.blind_pure _
    · exact Action.blind_throw _
  · intro collected left' right' returned twins'
    rw [returned] at silent
    exact ⟨twins.of_still twins', twins'.files.1, silent⟩

/-- The process of a job calls its program once, whether it is broken off or not. -/
theorem called_of_attempt {job : Job} {before after : World} {outcome : Except Raised Completion}
    (returned : (Action.attempt (engine.executor.runJob engine.runner job)).Returns before outcome
      after) :
    after.calls = before.calls ++ [engine.executor.callOf job] ∧
      after.files = (engine.runner before.calls (engine.executor.callOf job) before.files).2 := by
  rw [Action.returns_attempt] at returned
  cases outcome with
  | ok completion =>
    obtain ⟨_, _, -, -, -, rfl⟩ := Executor.returns_runJob.1 returned
    exact ⟨rfl, rfl⟩
  | error raised =>
    simp only [Executor.runJob, Action.fails_bind, Action.not_fails_tick, Action.returns_tick,
      Action.fails_call, Action.not_fails_pure, false_or, and_false, exists_false,
      or_false] at returned
    obtain ⟨_, _, ⟨rfl, rfl⟩, -, rfl⟩ := returned
    exact ⟨rfl, rfl⟩

theorem abreast_runJob (unaware : engine.runner.Unaware engine.executor.place)
    (twins : engine.Twins tests left right) (job : Job) :
    Action.Abreast (engine.executor.runJob engine.runner job)
      (engine.executor.runJob engine.runner job) left right
      (fun _ => engine.Twins tests) (engine.Twins tests) := by
  unfold Executor.runJob
  refine Action.abreast_bind (Action.blind_tick.abreast twins) ?_
  intro started left₁ right₁ _ _ twins₁
  refine Action.abreast_bind (abreast_call unaware twins₁ _) ?_
  intro reply left₂ right₂ _ _ twins₂
  exact (Action.blind_bind Action.blind_tick fun _ => Action.blind_pure _).abreast twins₂

/-- Turns are taken alike in two worlds that differ in leftovers only. The invariant is that the
reports of all planned jobs lead to the same in both worlds. -/
theorem abreast_runTurns {jobs : List Job} {calls : List Call} {files : FileSystem}
    (unaware : engine.runner.Unaware engine.executor.place)
    (listens : ∀ result, (engine.onResult result).Blind ∧ (engine.onResult result).Silent)
    (planned : ∀ job ∈ jobs, engine.executor.IsJobOf job)
    (sources : ∀ {earlier now},
      During engine.runner engine.executor.callOf jobs calls files earlier now →
      ∀ job ∈ jobs, ∀ junit clover, job.outputs.texts now = .ok (junit, some clover) →
        ∀ source ∈ Clover.named now.cwd engine.layout.root clover,
          Clear (engine.executor.place.shelf now) now (engine.layout.root / Path.ofString source))
    {waiting : Executor.Waiting} {turns : List Turn}
    (twins : engine.Twins (testsOf jobs) left right)
    (during : During engine.runner engine.executor.callOf jobs calls files left.calls left.files)
    (waits : ∀ {job completion}, (job, .ok completion) ∈ waiting → completion.job ∈ jobs)
    (ended : ∀ job ∈ endedIn turns, job ∈ jobs) :
    Action.Abreast (engine.executor.runTurns engine.runner engine.collect waiting turns)
      (engine.executor.runTurns engine.runner engine.collect waiting turns) left right
      (fun _ => engine.Twins (testsOf jobs)) (engine.Twins (testsOf jobs)) := by
  induction turns generalizing waiting left right with
  | nil => exact Action.abreast_pure twins
  | cons turn rest ih =>
    cases turn with
    | ends job =>
      rw [endedIn_ends] at ended
      have mem := ended job List.mem_cons_self
      have ended' := fun job mem => ended job (List.mem_cons_of_mem _ mem)
      refine Action.abreast_bind (Action.abreast_attempt (abreast_runJob unaware twins job)) ?_
      intro outcome left₁ right₁ ran _ twins₁
      obtain ⟨called, wrote⟩ := called_of_attempt ran
      have during₁ : During engine.runner engine.executor.callOf jobs calls files left₁.calls
          left₁.files := by
        rw [called, wrote]
        exact .step mem during
      refine ih ?_ during₁ ?_ ended'
      · cases outcome <;> exact twins₁
      · intro other completion waiting'
        rcases List.mem_append.1 waiting' with old | new
        · exact waits old
        · cases List.mem_singleton.1 new
          rw [Executor.job_of_returns_runJob (Action.returns_attempt.1 ran)]
          exact mem
    | handed job =>
      rw [endedIn_handed] at ended
      unfold Executor.runTurns
      cases found : waiting.lookup job with
      | none => exact ih twins during waits ended
      | some outcome =>
        cases outcome with
        | error raised => exact Action.abreast_throw twins
        | ok completion =>
          have mem : completion.job ∈ jobs := by
            obtain ⟨passed, others, rfl, -⟩ := List.lookup_eq_some_iff.1 found
            exact waits (List.mem_append_right _ List.mem_cons_self)
          have collected := abreast_collect listens twins ⟨_, mem, rfl⟩ (planned _ mem).1
            (sources during _ mem)
          simp only [Action.release, pure_bind]
          refine Action.abreast_bind collected ?_
          rintro first left₁ right₁ - - ⟨twins₁, same_files, same_calls⟩
          have during₁ : During engine.runner engine.executor.callOf jobs calls files left₁.calls
              left₁.files := by
            rw [same_files, same_calls]
            exact during
          refine Action.abreast_bind (ih twins₁ during₁
            (fun waiting' => waits (List.mem_of_mem_eraseP waiting')) ended) ?_
          intro others left₂ right₂ _ _ twins₂
          exact Action.abreast_pure twins₂

/-! ## Around the jobs -/

section

variable (unaware : engine.runner.Unaware engine.executor.place)
  (twins : engine.Twins tests left right)

include unaware twins

theorem abreast_runStep (step : SessionStep) (command : List String)
    (options : Option ProcessOptions) :
    Action.Abreast (Session.runStep ⟨engine.runner, options, engine.emoji⟩ step command)
      (Session.runStep ⟨engine.runner, options, engine.emoji⟩ step command) left right
      (fun _ => engine.Twins tests) (engine.Twins tests) := by
  unfold Session.runStep
  refine Action.abreast_bind (Action.blind_tick.abreast twins) ?_
  intro started left₁ right₁ _ _ twins₁
  refine Action.abreast_bind (abreast_call unaware twins₁ _) ?_
  intro reply left₂ right₂ _ _ twins₂
  refine Action.Blind.abreast ?_ twins₂
  split
  · exact Action.blind_throw _
  · simp only
    split
    · exact Action.blind_bind (Action.blind_throw _) fun _ => Action.blind_bind Action.blind_tick
        fun _ => Action.blind_report _ _ _ _
    · exact Action.blind_bind Action.blind_tick fun _ => Action.blind_report _ _ _ _

theorem abreast_tearDown (command : List String) (options : Option ProcessOptions) :
    Action.Abreast (Session.tearDown ⟨engine.runner, options, engine.emoji⟩ command)
      (Session.tearDown ⟨engine.runner, options, engine.emoji⟩ command) left right
      (fun _ => engine.Twins tests) (engine.Twins tests) := by
  unfold Session.tearDown
  refine Action.abreast_bind ((Action.blind_report _ _ _ _).abreast twins) ?_
  intro _ left₁ right₁ _ _ twins₁
  exact abreast_runStep unaware twins₁ .teardown command options

theorem abreast_tearDownAfter (command : List String) (options : Option ProcessOptions)
    (failed : Raised) :
    Action.Abreast (Session.tearDownAfter ⟨engine.runner, options, engine.emoji⟩ command failed)
      (Session.tearDownAfter ⟨engine.runner, options, engine.emoji⟩ command failed) left right
      (fun _ => engine.Twins tests) (engine.Twins tests) := by
  unfold Session.tearDownAfter
  have torn : Action.Abreast
      (Session.tearDown ⟨engine.runner, options, engine.emoji⟩ command >>= fun _ => pure failed)
      (Session.tearDown ⟨engine.runner, options, engine.emoji⟩ command >>= fun _ => pure failed)
      left right (fun _ => engine.Twins tests) (engine.Twins tests) := by
    refine Action.abreast_bind (abreast_tearDown unaware twins command options) ?_
    intro _ left₁ right₁ _ _ twins₁
    exact Action.abreast_pure twins₁
  refine Action.abreast_tryCatch torn ?_
  intro second left₁ right₁ twins₁
  refine Action.Blind.abreast ?_ twins₁
  split
  · exact Action.blind_bind (Action.blind_report _ _ _ _) fun _ => Action.blind_pure _
  · exact Action.blind_throw _

/-- A session goes abreast with itself if its body does wherever it begins. -/
theorem abreast_inSession {α : Type} {body : Action α}
    (inside : ∀ opened opened', engine.opening.Returns left () opened →
      engine.Twins tests opened opened' →
        Action.Abreast body body opened opened' (fun _ => engine.Twins tests)
          (engine.Twins tests)) :
    Action.Abreast (engine.inSession body) (engine.inSession body) left right
      (fun _ => engine.Twins tests) (engine.Twins tests) := by
  unfold inSession
  unfold opening at inside
  by_cases session : engine.config.session.enabled = true
  · simp only [session, if_true] at inside ⊢
    unfold Session.around
    refine Action.abreast_bind ((Action.blind_report _ _ _ _).abreast twins) ?_
    intro _ left₁ right₁ said _ twins₁
    have set_up := abreast_runStep unaware twins₁ .setup
      (engine.builder.sessionCommand engine.config.session.setup) (some engine.stepOptions)
    refine Action.abreast_bind (Action.abreast_attempt (Action.abreast_bind set_up
      fun _ left₂ right₂ opened _ twins₂ =>
        inside left₂ right₂ (Action.returns_bind.2 ⟨_, left₁, said, opened⟩) twins₂)) ?_
    intro outcome left₂ right₂ _ _ twins₂
    cases outcome with
    | ok a =>
      refine Action.abreast_bind (abreast_tearDown unaware twins₂ _ _) ?_
      intro _ left₃ right₃ _ _ twins₃
      exact Action.abreast_pure twins₃
    | error failed =>
      refine Action.abreast_bind (abreast_tearDownAfter unaware twins₂ _ _ failed) ?_
      intro raised left₃ right₃ _ _ twins₃
      exact Action.abreast_throw twins₃
  · simp only [session, Bool.false_eq_true, if_false] at inside ⊢
    exact inside left right (Action.returns_pure.2 ⟨rfl, rfl⟩) twins

end

/-- Two worlds that differ at most in which files with which contents lie directly inside the
directories of reports. No matter what that is, and which jobs end without a report of their own,
the run of an engine returns the same report in both, or fails with the same, and leaves two worlds
of this kind, if programs behave and write the same in both and what the run reads lies apart from
the reports. -/
theorem leftovers_unseen (engine : Engine) (paths : List String) (everything : Bool)
    {left right : World} (unaware : engine.runner.Unaware engine.executor.place)
    (apart : engine.Apart paths everything left) (twins : engine.Twins ∅ left right) :
    ((engine.run paths everything).outcome left).1 =
        ((engine.run paths everything).outcome right).1 ∧
      engine.Twins ∅ ((engine.run paths everything).outcome left).2
        ((engine.run paths everything).outcome right).2 := by
  have forget : ∀ {tests} {left right : World}, engine.Twins tests left right →
      engine.Twins ∅ left right := fun twins => twins.imp fun agrees => agrees.mono nofun
  have run : Action.Abreast (engine.run paths everything) (engine.run paths everything) left right
      (fun _ => engine.Twins ∅) (engine.Twins ∅) := by
    unfold Engine.run
    refine Action.abreast_bind (abreast_prepare unaware apart twins) ?_
    rintro ⟨stale, jobs⟩ planned planned' prepared - twins₁
    obtain ⟨start, affected, made⟩ := returns_prepare prepared
    have collects : ∀ opened opened', engine.opening.Returns planned () opened →
        engine.Twins (testsOf jobs) opened opened' →
        Action.Abreast (engine.collectAll jobs) (engine.collectAll jobs) opened opened'
          (fun _ => engine.Twins (testsOf jobs)) (engine.Twins (testsOf jobs)) := by
      intro opened opened' opens twins₂
      unfold collectAll
      rw [Executor.execute_eq_runTurns]
      exact abreast_runTurns unaware apart.listens (Executor.plan_jobs made)
        (fun during => apart.sources prepared opens during) twins₂ .start nofun
        fun job mem => (engine.executor.endedIn_turns jobs).mem_iff.1 mem
    have session := abreast_inSession unaware twins₁ collects
    refine Action.abreast_bind (session.imp (fun _ _ _ _ => forget) fun _ _ => forget) ?_
    intro collected left₂ right₂ _ _ twins₂
    exact Action.abreast_pure twins₂
  exact run.outcomes

end Engine

/-! ## A leftover of the small project -/

/-- A path that passes nothing directly inside the directories of reports keeps clear of what lies
there. -/
theorem ReportPlace.clear_of_dropLast {place : ReportPlace} {files : FileSystem} {path : Path}
    (outside : ∀ location ∈ files.wayTo path,
      location.dropLast ≠ files.aim place.junitDirectory ∧
        location.dropLast ≠ files.aim place.cloverDirectory) :
    Clear (place.shelf files) files path := by
  rintro location passed ⟨name, rfl | rfl⟩
  · exact absurd List.dropLast_concat (outside _ passed).1
  · exact absurd List.dropLast_concat (outside _ passed).2

/-- A single file is a leftover. -/
theorem ReportPlace.agrees_place {place : ReportPlace} {files : FileSystem} {name : String}
    {content : List UInt8} (home : files.node? (files.aim place.junitDirectory) = some .directory)
    (named : isName name = true)
    (vacant : files.node? (files.aim place.junitDirectory ++ [name]) = none) :
    place.Agrees ∅ files
      (files.place (files.aim place.junitDirectory) name (.file content false)) := by
  have becomes : Becomes files
      (files.place (files.aim place.junitDirectory) name (.file content false))
      (files.aim place.junitDirectory ++ [name]) (some (.file content false)) :=
    becomes_place home named (by rw [vacant]; exact nofun)
  refine ⟨⟨becomes.home.symm, fun location => ?_⟩, nofun⟩
  by_cases same : location = files.aim place.junitDirectory ++ [name]
  · refine Or.inr ⟨⟨name, Or.inl same⟩, ?_, ?_⟩
    · rw [same, vacant]
      trivial
    · rw [same, becomes.there]
      trivial
  · exact Or.inl (becomes.elsewhere location same).symm

namespace SmallProject

/-- The small project with an empty directory for JUnit reports. -/
def cleared : FileSystem :=
  .ofListing
    (files.entries ++ [(["p", "reports"], .directory), (["p", "reports", "junit"], .directory)])
    ["p"] (by decide +kernel)

/-- The same project after an earlier run in which the test passed. -/
def littered : FileSystem :=
  cleared.place ["p", "reports", "junit"] (ReportPlace.fileName "/p/test/ATest.php")
    (.file (Utf8.encode "<testsuite name=\"ATest\"><testcase name=\"testA\"/></testsuite>") false)

/-- Runs without coverage in which no process writes anything. -/
def idle : Engine :=
  { engine "" with
    runner := .scripted (fun _ _ => .finished ⟨0, some "", some ""⟩) fun _ _ => [] }

theorem junitDirectory_idle :
    cleared.aim idle.executor.place.junitDirectory = ["p", "reports", "junit"] := by
  decide

theorem twins_littered : idle.Twins ∅ { files := cleared } { files := littered } := by
  have empty : cleared.node? ["p", "reports", "junit"] = some .directory ∧
      isName (ReportPlace.fileName "/p/test/ATest.php") = true ∧
      cleared.node? ["p", "reports", "junit", ReportPlace.fileName "/p/test/ATest.php"] = none := by
    decide +kernel
  refine World.twins_of_files ?_
  unfold littered
  rw [← junitDirectory_idle] at empty ⊢
  exact ReportPlace.agrees_place empty.1 empty.2.1 empty.2.2

/-- What a run of the small project for its source file follows before its job. -/
theorem mem_of_opens_idle {path : Path}
    (opened : idle.Opens ["src/A.php"] { files := cleared } path) :
    path ∈ [idle.lockPath, idle.installedPath, Path.ofString "/p/test/ATest.php",
      idle.executor.place.junitDirectory, idle.executor.place.cloverDirectory] := by
  cases opened with
  | lock => simp
  | installed => simp
  | program enabled => cases enabled
  | resolved opened => cases opened with
    | source declared => cases declared
    | test declared => cases declared
  | affected found mem =>
    have only : ((idle.resolver.resolve cleared ["src/A.php"]).run none).1 =
        .ok [("src/A.php", ["/p/test/ATest.php"])] := by
      decide +kernel
    cases only.symm.trans found
    have named : Executor.uniqueTests idle.executor.base [("src/A.php", ["/p/test/ATest.php"])] =
        ["/p/test/ATest.php"] := by
      decide +kernel
    rw [named] at mem
    rw [List.mem_singleton.1 mem]
    exact .tail _ (.tail _ (.head _))
  | junit => simp
  | clover => simp

/-- The only directory that is listed for the source file would be named as it is. -/
theorem eq_of_lists_idle {path : Path}
    (listed : idle.resolver.Lists cleared ["src/A.php"] path) :
    path = Path.ofString "/p/test/A.php" := by
  cases listed with
  | tests mem inside =>
    rw [List.mem_singleton.1 mem] at inside
    have outside : Lexical.within cleared.cwd (idle.resolver.onDisk "src/A.php").toString
        idle.resolver.testRoot = false := by
      decide +kernel
    exact nomatch outside.symm.trans inside
  | mirrored mem moved =>
    rw [List.mem_singleton.1 mem] at moved
    have there : Lexical.transplant? cleared.cwd (idle.resolver.onDisk "src/A.php").toString
        idle.resolver.sourceRoot idle.resolver.testRoot = some "/p/test/A.php" := by
      decide +kernel
    cases there.symm.trans moved
    rfl
  | all declared => cases declared

/-- Runs of the small project for its source file read nothing among the reports. -/
theorem apart_idle : idle.Apart ["src/A.php"] false { files := cleared } where
  anchored := ⟨rfl, Path.proper_ofString "/p/reports"⟩
  listens _ := ⟨Action.blind_pure _, Action.silent_pure _⟩
  opens start checked path opened := by
    obtain ⟨-, rfl⟩ : () = () ∧ start = _ := Action.returns_pure.1 checked
    have outside : ∀ path ∈ [idle.lockPath, idle.installedPath, Path.ofString "/p/test/ATest.php",
        idle.executor.place.junitDirectory, idle.executor.place.cloverDirectory],
        ∀ location ∈ cleared.wayTo path,
          location.dropLast ≠ cleared.aim idle.executor.place.junitDirectory ∧
            location.dropLast ≠ cleared.aim idle.executor.place.cloverDirectory := by
      decide +kernel
    exact ReportPlace.clear_of_dropLast (outside path (mem_of_opens_idle opened))
  lists start checked path listed := by
    obtain ⟨-, rfl⟩ : () = () ∧ start = _ := Action.returns_pure.1 checked
    intro location found
    have vacant : cleared.locate true (Path.ofString "/p/test/A.php") =
        .ok (.vacant ["p", "test"] "A.php") := by
      decide +kernel
    rw [eq_of_lists_idle listed, vacant] at found
    cases found
  sources prepared _ _ job mem junit clover read := by
    obtain ⟨start, affected, made⟩ := Engine.returns_prepare prepared
    have unwritten : job.outputs.clover = none := by
      rw [(Executor.plan_jobs made job mem).1]
      rfl
    cases Outputs.clover_of_texts unwritten read

end SmallProject

/-- A test whose process writes nothing is broken, though an earlier run left a report in which it
passed. -/
theorem Engine.broken_despite_leftover :
    ((SmallProject.idle.run ["src/A.php"]).outcome { files := SmallProject.cleared }).1 =
        ((SmallProject.idle.run ["src/A.php"]).outcome { files := SmallProject.littered }).1 ∧
      ∃ report after,
        (SmallProject.idle.run ["src/A.php"]).Returns { files := SmallProject.littered } report
          after ∧
        report.results.map TestResult.outcome = [.broken] := by
  have unseen := Engine.leftovers_unseen SmallProject.idle ["src/A.php"] false
    (Runner.unaware_scripted _ _ _) SmallProject.apart_idle SmallProject.twins_littered
  have evaluated : (SmallProject.idle.run ["src/A.php"]).returnsSome
      { files := SmallProject.littered }
        (fun report => report.results.map TestResult.outcome = [.broken]) = true := by
    decide +kernel
  obtain ⟨report, after, returned, broken⟩ := Action.exists_of_returnsSome evaluated
  exact ⟨unseen.1, report, after, returned, of_decide_eq_true broken⟩

end TestImpact
