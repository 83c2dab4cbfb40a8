import TestImpact.Execution.Job
import TestImpact.Proofs.Execution.Outputs
import TestImpact.Proofs.FileSystem.Together
import TestImpact.Proofs.Twins

/-!
# Room for reports

Planning makes the directories of the reports, removes the reports of an earlier run that have the
names of this one, and in front of a container makes them anew. If it is done in two worlds that
differ in what lies in these directories only, then the same happens in both, and the paths of all
planned reports lead to the same in both then (`Executor.goesOnward_planTests`). What else lies
there may still differ.
-/

namespace TestImpact

open FileSystem

variable {places : Set Location} {left right : World}

/-! ## Changes of files side by side -/

namespace Action

variable {α β : Type} {action : Action α} {good : α → FileSystem → FileSystem → Prop}

/-- The action, done in two worlds that differ in their files only, comes to the same, and takes the
files onward. -/
def GoesOnward (places : Set Location) (action : Action α) (left right : World)
    (good : α → FileSystem → FileSystem → Prop) : Prop :=
  Abreast action action left right
    (fun a => World.Twins fun files others =>
      Onward places left.files right.files files others ∧ good a files others)
    (World.Twins (Onward places left.files right.files))

theorem goesOnward_pure {a : α} (twins : World.Twins (Alike places) left right)
    (fine : good a left.files right.files) : GoesOnward places (pure a) left right good :=
  abreast_pure ⟨twins.same, .refl twins.files, fine⟩

theorem goesOnward_bind {next : α → Action β} {good' : β → FileSystem → FileSystem → Prop}
    (first : GoesOnward places action left right good)
    (later : ∀ a left' right', World.Twins (Alike places) left' right' →
      Onward places left.files right.files left'.files right'.files →
      good a left'.files right'.files → GoesOnward places (next a) left' right' good') :
    GoesOnward places (action >>= next) left right good' := by
  refine abreast_bind first fun a left' right' _ _ ⟨same, onward, fine⟩ => ?_
  refine (later a left' right' ⟨same, onward.alike⟩ onward fine).imp ?_ ?_
  · exact fun b _ _ _ twins => twins.imp fun ⟨further, fine⟩ => ⟨onward.trans further, fine⟩
  · exact fun _ _ twins => twins.imp onward.trans

theorem goesOnward_change {operation : FileSystem → Except Fault FileSystem}
    {then_ : FileSystem → FileSystem → Prop} (twins : World.Twins (Alike places) left right)
    (together : Together places left.files right.files then_ (operation left.files)
      (operation right.files)) :
    GoesOnward places (change operation) left right fun _ => then_ := by
  unfold GoesOnward Abreast change
  simp only [returns_bind, returns_ask, returns_modify, fails_bind, fails_ask, not_fails_modify]
  cases asked : operation left.files with
  | ok files =>
    cases asked' : operation right.files with
    | error fault =>
      rw [asked, asked'] at together
      exact together.elim
    | ok others =>
      rw [asked, asked'] at together
      refine Or.inl ⟨(), _, _, ⟨files, left, ⟨rfl, rfl⟩, rfl⟩, ⟨others, right, ⟨rfl, rfl⟩, rfl⟩,
        ?_, together⟩
      rw [twins.same]
  | error fault =>
    cases asked' : operation right.files with
    | ok others =>
      rw [asked, asked'] at together
      exact together.elim
    | error fault' =>
      rw [asked, asked'] at together
      obtain rfl : fault = fault' := together
      exact Or.inr ⟨_, left, right, Or.inl ⟨fault, rfl, rfl, rfl⟩, Or.inl ⟨fault, rfl, rfl, rfl⟩,
        twins.same, .refl twins.files⟩

end Action

namespace ReportPlace

variable {place : ReportPlace} {testPath : String} {path : Path}

/-- The directory of all reports is named from the root, by segments of a path. -/
structure Anchored (place : ReportPlace) : Prop where
  absolute : place.directory.isAbsolute = true
  proper : place.directory.Proper

namespace Anchored

theorem junit (anchored : place.Anchored) :
    place.junitDirectory.isAbsolute = true ∧ place.junitDirectory.Proper :=
  ⟨anchored.absolute, anchored.proper.div (Path.proper_ofString "junit")⟩

theorem clover (anchored : place.Anchored) :
    place.cloverDirectory.isAbsolute = true ∧ place.cloverDirectory.Proper :=
  ⟨anchored.absolute, anchored.proper.div (Path.proper_ofString "clover")⟩

theorem child {directory : Path} (absolute : directory.isAbsolute = true)
    (proper : directory.Proper) :
    (directory.child (fileName testPath)).isAbsolute = true ∧
      (directory.child (fileName testPath)).Proper := by
  refine ⟨absolute, fun part mem => ?_⟩
  rcases List.mem_append.1 mem with above | last
  · exact proper part above
  · rw [List.mem_singleton.1 last]
    exact (isFileName_fileName testPath).segment

theorem report (anchored : place.Anchored) (mem : path ∈ (place.outputs testPath).paths) :
    path.isAbsolute = true ∧ path.Proper := by
  rcases mem_paths mem with rfl | ⟨-, rfl⟩
  · exact child anchored.junit.1 anchored.junit.2
  · exact child anchored.clover.1 anchored.clover.2

end Anchored

/-- The locations directly inside the two directories of reports. -/
def shelf (place : ReportPlace) (files : FileSystem) : Set Location :=
  { location | ∃ name, location = files.aim place.junitDirectory ++ [name] ∨
    location = files.aim place.cloverDirectory ++ [name] }

/-- Two file systems differ at most in files at some places, everything directly inside the
directories of reports is among these places, and the directories themselves are the same. -/
structure Shelved (place : ReportPlace) (places : Set Location) (files others : FileSystem) :
    Prop where
  alike : Alike places files others
  junit : Settled places files others place.junitDirectory
  clover : Settled places files others place.cloverDirectory
  shelf : ∀ location ∈ place.shelf files, location ∈ places

variable {files others files' others' : FileSystem}

theorem shelf_congr (junit : files'.wayTo place.junitDirectory = files.wayTo place.junitDirectory)
    (clover : files'.wayTo place.cloverDirectory = files.wayTo place.cloverDirectory) :
    place.shelf files' = place.shelf files := by
  unfold ReportPlace.shelf aim
  rw [junit, clover]

/-- What goes onward stays shelved. -/
theorem Shelved.onward (shelved : place.Shelved places files others)
    (onward : Onward places files others files' others') :
    place.Shelved places files' others' ∧ place.shelf files' = place.shelf files := by
  obtain ⟨junit, junit_way⟩ := onward.settled _ shelved.junit
  obtain ⟨clover, clover_way⟩ := onward.settled _ shelved.clover
  have same := shelf_congr junit_way clover_way
  exact ⟨⟨onward.alike, junit, clover, same ▸ shelved.shelf⟩, same⟩

/-! ## Room for the reports of one test file -/

/-- To clear a report takes both worlds onward, and its path leads to the same in both then. -/
theorem goesOnward_clear {directory : Path} (twins : World.Twins (Alike places) left right)
    (absolute : directory.isAbsolute = true) (proper : directory.Proper)
    (settled : Settled places left.files right.files directory)
    (among : left.files.aim directory ++ [fileName testPath] ∈ places) :
    (clear directory (directory.child (fileName testPath))).GoesOnward places left right
      fun _ files others => Settled places files others (directory.child (fileName testPath)) := by
  refine Action.goesOnward_bind (Action.goesOnward_change twins
    (together_makeDirectories twins.files settled absolute proper)) ?_
  intro _ left' right' twins' onward made
  obtain ⟨settled', same⟩ := onward.settled _ settled
  refine Action.goesOnward_change twins' (together_remove twins'.files settled' absolute made
    (isFileName_fileName testPath).down ?_)
  unfold aim at among ⊢
  rw [same]
  exact among

/-- To make room for the reports of a test file takes both worlds onward, and their paths lead to
the same in both then. -/
theorem goesOnward_allocate (anchored : place.Anchored)
    (same : right = { left with files := right.files })
    (shelved : place.Shelved places left.files right.files) :
    (place.allocate testPath).GoesOnward places left right fun outputs files others =>
      outputs = place.outputs testPath ∧
        ∀ path ∈ outputs.paths, Settled places files others path := by
  have junit_path : (place.outputs testPath).junit =
      place.junitDirectory.child (fileName testPath) := by rw [outputs_eq, named]
  unfold allocate
  simp only
  rw [junit_path]
  refine Action.goesOnward_bind (goesOnward_clear ⟨same, shelved.alike⟩ anchored.junit.1
    anchored.junit.2 shelved.junit (shelved.shelf _ ⟨_, Or.inl rfl⟩)) ?_
  intro _ left' right' twins' onward junit
  obtain ⟨shelved', -⟩ := shelved.onward onward
  split
  next clover found =>
    obtain rfl := eq_of_clover found
    refine Action.goesOnward_bind (goesOnward_clear twins' anchored.clover.1
      anchored.clover.2 shelved'.clover (shelved'.shelf _ ⟨_, Or.inr rfl⟩)) ?_
    intro _ left'' right'' twins'' further settled
    refine Action.goesOnward_pure twins'' ⟨rfl, fun path mem => ?_⟩
    rcases mem_paths mem with rfl | ⟨-, rfl⟩
    · exact (further.settled _ junit).1
    · exact settled
  next missing =>
    refine Action.goesOnward_pure twins' ⟨rfl, fun path mem => ?_⟩
    rcases mem_paths mem with rfl | ⟨found, -⟩
    · exact junit
    · exact (missing path found).elim

end ReportPlace

/-! ## Room for the reports of all jobs -/

namespace Executor

variable {executor : Executor} {outputs : Outputs} {testPath : String}

theorem goesOnward_touchOutputs (twins : World.Twins (Alike places) left right)
    (named : ∀ path ∈ outputs.paths, path.isAbsolute = true ∧ path.Proper)
    (settled : ∀ path ∈ outputs.paths, Settled places left.files right.files path) :
    (touchOutputs outputs).GoesOnward places left right fun _ _ _ => True := by
  have touched : ∀ {left' right'} {path}, path ∈ outputs.paths →
      World.Twins (Alike places) left' right' →
      Onward places left.files right.files left'.files right'.files →
      (Action.change (·.touch path)).GoesOnward places left' right' fun _ _ _ => True :=
    fun mem twins' onward => Action.goesOnward_change twins'
      (together_touch twins'.files (onward.settled _ (settled _ mem)).1 (named _ mem).1
        (named _ mem).2)
  refine Action.goesOnward_bind (touched List.mem_cons_self twins (.refl twins.files)) ?_
  intro _ left' right' twins' onward _
  split
  next clover found =>
    exact touched (by rw [Outputs.paths, found]; simp) twins' onward
  next => exact Action.goesOnward_pure twins' trivial

/-- To make the job of a test file takes both worlds onward, and the paths of its reports lead to
the same in both then. -/
theorem goesOnward_jobOf (anchored : executor.place.Anchored)
    (same : right = { left with files := right.files })
    (shelved : executor.place.Shelved places left.files right.files) :
    (executor.jobOf testPath).GoesOnward places left right fun job files others =>
      ∀ path ∈ job.outputs.paths, Settled places files others path := by
  refine Action.goesOnward_bind (ReportPlace.goesOnward_allocate anchored same shelved) ?_
  rintro outputs left' right' twins' onward ⟨rfl, settled⟩
  have named : ∀ path ∈ (executor.place.outputs testPath).paths,
      path.isAbsolute = true ∧ path.Proper := by
    intro path mem
    exact anchored.report mem
  split
  · refine Action.goesOnward_bind (goesOnward_touchOutputs twins' named settled) ?_
    intro _ left'' right'' twins'' further _
    exact Action.goesOnward_pure twins'' fun path mem => (further.settled _ (settled path mem)).1
  · exact Action.goesOnward_pure twins' settled

/-- To plan jobs takes both worlds onward, and the paths of their reports lead to the same in both
then. -/
theorem goesOnward_planTests (anchored : executor.place.Anchored) {tests : List String}
    (same : right = { left with files := right.files })
    (shelved : executor.place.Shelved places left.files right.files)
    (settled : ∀ test ∈ tests,
      Settled places left.files right.files (located executor.base test)) :
    (executor.planTests tests).GoesOnward places left right fun jobs files others =>
      ∀ job ∈ jobs, ∀ path ∈ job.outputs.paths, Settled places files others path := by
  induction tests generalizing left right with
  | nil => exact Action.goesOnward_pure ⟨same, shelved.alike⟩ fun _ mem => nomatch mem
  | cons test rest ih =>
    have begun := start_congr shelved.alike.home (located executor.base test)
    have asked : (Action.ask (·.isFile (located executor.base test))).GoesOnward places left right
        fun _ _ _ => True :=
      Action.abreast_ask ((settled test List.mem_cons_self).shared.isFile_eq begun)
        (fun _ _ => ⟨same, .refl shelved.alike, trivial⟩) ⟨same, .refl shelved.alike⟩
    refine Action.goesOnward_bind asked ?_
    intro there left₁ right₁ twins₁ onward₁ _
    have settled₁ : ∀ test ∈ rest,
        Settled places left₁.files right₁.files (located executor.base test) := fun test mem =>
      (onward₁.settled _ (settled test (List.mem_cons_of_mem _ mem))).1
    split
    · refine Action.goesOnward_bind (goesOnward_jobOf anchored twins₁.same
        (shelved.onward onward₁).1) ?_
      intro job left₂ right₂ twins₂ onward₂ job_settled
      refine Action.goesOnward_bind (ih twins₂.same
        ((shelved.onward onward₁).1.onward onward₂).1 fun test mem =>
          (onward₂.settled _ (settled₁ test mem)).1) ?_
      intro jobs left₃ right₃ twins₃ onward₃ jobs_settled
      refine Action.goesOnward_pure twins₃ fun other mem path written => ?_
      rcases List.mem_cons.1 mem with rfl | later
      · exact (onward₃.settled _ (job_settled path written)).1
      · exact jobs_settled other later path written
    · exact ih twins₁.same (shelved.onward onward₁).1 settled₁

/-- To plan the jobs of the affected test files, of which there must be one, takes both worlds
onward. -/
theorem goesOnward_plan (anchored : executor.place.Anchored) {affected : Affected}
    (same : right = { left with files := right.files })
    (shelved : executor.place.Shelved places left.files right.files)
    (settled : ∀ test ∈ uniqueTests executor.base affected,
      Settled places left.files right.files (located executor.base test)) :
    (executor.plan affected).GoesOnward places left right fun jobs files others =>
      ∀ job ∈ jobs, ∀ path ∈ job.outputs.paths, Settled places files others path := by
  refine Action.goesOnward_bind (goesOnward_planTests anchored same shelved settled) ?_
  intro jobs left' right' twins' onward settled'
  split
  · exact Action.abreast_throw ⟨twins'.same, .refl twins'.files⟩
  · exact Action.goesOnward_pure twins' settled'

end Executor

end TestImpact
