import TestImpact.Proofs.FileSystem.Alike

/-!
# File systems from another working directory

`FileSystem.seenFrom` is a file system in which another directory is the working directory. What is
named from the root is found in it where it was (`locate_seenFrom`), what lies below a directory is
the same (`filesBelow_seenFrom`), and a change under such a name is the same change
(`makeDirectories_seenFrom`, `remove_seenFrom`, `touch_seenFrom`).
-/

namespace TestImpact.FileSystem

variable {fs : FileSystem} {path : Path} {home location above : Location} {name : String}
  {node : Node} {followLast : Bool} {budget : Nat} {here : Location} {names : List String}

/-- The same entries, seen from another working directory. -/
def seenFrom (fs : FileSystem) (home : Location) : FileSystem :=
  { fs with workingDirectory := home }

/-- Every path passes the same in both. -/
theorem shared_seenFrom (fs : FileSystem) (home : Location) (path : Path) :
    Shared fs (fs.seenFrom home) path :=
  fun _ _ => rfl

/-! ## Looking -/

theorem walk_seenFrom :
    (fs.seenFrom home).walk followLast budget here names = fs.walk followLast budget here names :=
  walk_congr fun _ _ => rfl

theorem filesBelow_seenFrom (directory : Location) :
    (fs.seenFrom home).filesBelow directory = fs.filesBelow directory := by
  have leads : (fs.seenFrom home).leadsToDirectory = fs.leadsToDirectory := by
    funext location node
    unfold leadsToDirectory
    rw [walk_seenFrom]
  unfold filesBelow
  rw [leads]
  rfl

/-- A path that is named from the root starts there. -/
theorem start_seenFrom (absolute : path.isAbsolute = true) :
    fs.start path = (fs.seenFrom home).start path := by
  rw [start, start, if_pos absolute, if_pos absolute]

variable (absolute : path.isAbsolute = true)

include absolute

theorem locate_seenFrom :
    (fs.seenFrom home).locate followLast path = fs.locate followLast path :=
  ((shared_seenFrom fs home path).locate_eq (start_seenFrom absolute) followLast).symm

theorem isFile_seenFrom : (fs.seenFrom home).isFile path = fs.isFile path :=
  ((shared_seenFrom fs home path).isFile_eq (start_seenFrom absolute)).symm

theorem isDirectory_seenFrom : (fs.seenFrom home).isDirectory path = fs.isDirectory path := by
  unfold isDirectory ask
  rw [(shared_seenFrom fs home path).stat_eq (start_seenFrom absolute)]

/-! ## Changing -/

omit absolute

theorem place_seenFrom :
    (fs.seenFrom home).place above name node = (fs.place above name node).seenFrom home := by
  by_cases fits : isName name = true ∧ (above = [] ∨ (above, Node.directory) ∈ fs.entries)
  · have fits' : isName name = true ∧
        (above = [] ∨ (above, Node.directory) ∈ (fs.seenFrom home).entries) := fits
    rw [place, place, dif_pos fits, dif_pos fits']
    rfl
  · have unfit : ¬ (isName name = true ∧
        (above = [] ∨ (above, Node.directory) ∈ (fs.seenFrom home).entries)) := fits
    rw [place, place, dif_neg fits, dif_neg unfit]

include absolute

theorem remove_seenFrom :
    (fs.seenFrom home).remove path = (fs.remove path).map (·.seenFrom home) := by
  unfold remove
  rw [locate_seenFrom absolute]
  split <;> rfl

theorem touch_seenFrom :
    (fs.seenFrom home).touch path = (fs.touch path).map (·.seenFrom home) := by
  unfold touch
  rw [locate_seenFrom absolute]
  cases fs.locate true path with
  | error fault => rfl
  | ok target =>
    cases target with
    | entry location node => rfl
    | vacant above name => exact congrArg Except.ok place_seenFrom

theorem makeDirectory_seenFrom :
    (fs.seenFrom home).makeDirectory path = (fs.makeDirectory path).map (·.seenFrom home) := by
  unfold makeDirectory
  rw [locate_seenFrom absolute]
  cases fs.locate false path with
  | error fault => rfl
  | ok target =>
    cases target with
    | entry location node => rfl
    | vacant above name => exact congrArg Except.ok place_seenFrom

theorem settle_seenFrom (outcome : Except Fault FileSystem) :
    makeDirectoriesFrom.settle (fs.seenFrom home) path (outcome.map (·.seenFrom home)) =
      (makeDirectoriesFrom.settle fs path outcome).map (·.seenFrom home) := by
  cases outcome with
  | ok made => rfl
  | error fault =>
    cases fault
    case missing => rfl
    all_goals
      simp only [Except.map, makeDirectoriesFrom.settle]
      rw [isDirectory_seenFrom absolute]
      rcases fs.isDirectory path with fault | _ | _ <;> rfl

omit absolute

theorem makeDirectoriesFrom_seenFrom {anchor : Anchor} (anchored : anchor ≠ .relative)
    (reversed : List String) :
    (fs.seenFrom home).makeDirectoriesFrom anchor reversed =
      (fs.makeDirectoriesFrom anchor reversed).map (·.seenFrom home) := by
  have absolute : ∀ parts, (⟨anchor, parts⟩ : Path).isAbsolute = true :=
    fun _ => decide_eq_true anchored
  induction reversed with
  | nil =>
    rw [makeDirectoriesFrom, makeDirectoriesFrom, makeDirectory_seenFrom (absolute _),
      settle_seenFrom (absolute _)]
  | cons name above ih =>
    have settled := @settle_seenFrom fs ⟨anchor, (name :: above).reverse⟩ home (absolute _)
    rw [makeDirectoriesFrom, makeDirectoriesFrom, makeDirectory_seenFrom (absolute _)]
    cases made : fs.makeDirectory ⟨anchor, (name :: above).reverse⟩ with
    | ok after => exact settled (.ok after)
    | error fault =>
      cases fault
      case missing =>
        simp only [Except.map, ih]
        cases fs.makeDirectoriesFrom anchor above with
        | error fault => rfl
        | ok between =>
          simp only
          rw [makeDirectory_seenFrom (absolute _), settle_seenFrom (absolute _)]
          rfl
      all_goals exact settled (.error _)

theorem makeDirectories_seenFrom (absolute : path.isAbsolute = true) :
    (fs.seenFrom home).makeDirectories path = (fs.makeDirectories path).map (·.seenFrom home) :=
  makeDirectoriesFrom_seenFrom (of_decide_eq_true absolute) _

end TestImpact.FileSystem
