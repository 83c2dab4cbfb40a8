import TestImpact.Proofs.FileSystem.Change
import TestImpact.Proofs.Outcome

/-!
# What is made on the way

To make the directories of a path puts directories where nothing was and changes nothing else
(`madeBut_makeDirectories`). Without links a file is removed at the place that the names of its path
spell (`madeBut_remove`). `MadeBut` says so of a change: outside some places it only makes new
directories.
-/

namespace TestImpact.FileSystem

variable {fs before between after : FileSystem} {places : Set Location} {location above : Location}
  {name : String} {path : Path}

/-- Outside the places a change makes directories where nothing was, and nothing else. No link is
made anywhere. -/
structure MadeBut (places : Set Location) (before after : FileSystem) : Prop where
  linkless : before.Linkless → after.Linkless
  nodes : ∀ location, location ∉ places →
    after.node? location = before.node? location ∨
      before.node? location = none ∧ after.node? location = some .directory

namespace MadeBut

theorem refl (places : Set Location) (fs : FileSystem) : MadeBut places fs fs :=
  ⟨id, fun _ _ => Or.inl rfl⟩

theorem trans (first : MadeBut places before between) (later : MadeBut places between after) :
    MadeBut places before after := by
  refine ⟨fun linkless => later.linkless (first.linkless linkless), fun location outside => ?_⟩
  rcases first.nodes location outside with same | ⟨vacant, made⟩
  · rw [← same]
    exact later.nodes location outside
  · -- A directory that was made before is there already, so it is not made again.
    rcases later.nodes location outside with same | ⟨missing, -⟩
    · exact Or.inr ⟨vacant, same.trans made⟩
    · rw [made] at missing
      cases missing

end MadeBut

/-! ## Making directories -/

theorem Becomes.linkless {node : Option Node} (changed : Becomes before after location node)
    (plain : ∀ target, node ≠ some (.link target)) (linkless : before.Linkless) :
    after.Linkless := by
  intro other target
  by_cases same : other = location
  · rw [same, changed.there]
    exact plain target
  · rw [changed.elsewhere other same]
    exact linkless other target

theorem madeBut_place (places : Set Location) (vacant : fs.node? (above ++ [name]) = none) :
    MadeBut places fs (fs.place above name .directory) := by
  by_cases home : fs.node? above = some .directory ∧ isName name = true
  · have made : Becomes fs (fs.place above name .directory) (above ++ [name]) (some .directory) :=
      becomes_place home.1 home.2 (by simp [vacant])
    refine ⟨made.linkless (by simp), fun location _ => ?_⟩
    by_cases same : location = above ++ [name]
    · rw [same]
      exact Or.inr ⟨vacant, made.there⟩
    · exact Or.inl (made.elsewhere location same)
  · rw [place_of_homeless home]
    exact .refl places fs

theorem madeBut_makeDirectory (made : fs.makeDirectory path = .ok after) :
    MadeBut places fs after := by
  obtain ⟨target, led, made⟩ := of_bind_ok made
  cases target with
  | entry location node => cases made
  | vacant above name =>
    cases made
    exact madeBut_place places (node?_of_vacant (leads_of_locate led))

theorem of_settle {outcome : Except Fault FileSystem}
    (settled : makeDirectoriesFrom.settle fs path outcome = .ok after) :
    outcome = .ok after ∨ after = fs := by
  unfold makeDirectoriesFrom.settle at settled
  split at settled
  · exact Or.inl settled
  · cases settled
  · split at settled <;> cases settled
    exact Or.inr rfl

theorem madeBut_settle (settled : makeDirectoriesFrom.settle fs path (fs.makeDirectory path) =
    .ok after) : MadeBut places fs after := by
  rcases of_settle settled with made | rfl
  · exact madeBut_makeDirectory made
  · exact .refl places after

theorem madeBut_makeDirectoriesFrom {anchor : Anchor} {reversed : List String}
    (made : fs.makeDirectoriesFrom anchor reversed = .ok after) : MadeBut places fs after := by
  induction reversed generalizing after with
  | nil => exact madeBut_settle made
  | cons name above ih =>
    rw [makeDirectoriesFrom] at made
    split at made
    next =>
      cases begun : fs.makeDirectoriesFrom anchor above with
      | error fault =>
        rw [begun] at made
        cases made
      | ok between =>
        rw [begun] at made
        exact (ih begun).trans (madeBut_settle made)
    next => exact madeBut_settle made

/-- To make directories makes new ones and changes nothing else. -/
theorem madeBut_makeDirectories (made : fs.makeDirectories path = .ok after) :
    MadeBut places fs after :=
  madeBut_makeDirectoriesFrom made

/-! ## Removing files -/

/-- To remove a file changes what stands at the place that its names spell. -/
theorem madeBut_remove (linkless : fs.Linkless) (absolute : path.isAbsolute = true)
    (removed : fs.remove path = .ok after) (among : Lexical.collapse true path.parts ∈ places) :
    MadeBut places fs after := by
  unfold remove at removed
  split at removed
  next => cases removed
  next location node differs led =>
    cases removed
    obtain ⟨spelled, found⟩ := entry_of_locate linkless absolute led
    have taken : Becomes fs (fs.prune location) location none := by
      apply becomes_prune
      rw [found]
      exact fun same => differs (Option.some.inj same)
    refine ⟨taken.linkless (by simp), fun other outside => Or.inl (taken.elsewhere other ?_)⟩
    rintro rfl
    exact outside (spelled ▸ among)
  next =>
    cases removed
    exact .refl places fs
  next =>
    cases removed
    exact .refl places fs
  next => cases removed

end TestImpact.FileSystem
