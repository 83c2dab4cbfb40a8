import Mathlib.Data.Set.Defs
import TestImpact.Proofs.FileSystem.Walk

/-!
# The ways of paths

The way of a path (`FileSystem.wayTo`) are the locations that are looked at when it is followed, as
if everything that is no link were a directory. It depends on links only (`way_congr`), and where a
path leads depends on what stands on its way only (`walk_congr`). A walk that is not refused has a
derivation (`Leads`), by which properties of its end are proved. The last location of the way is
where the path leads, if it leads to something (`aim_of_locate`).
-/

namespace TestImpact.FileSystem

variable {fs left right : FileSystem} {budget : Nat} {here location : Location} {node : Node}
  {target : Target} {name text : String} {names rest front back : List String} {path : Path}
  {followLast : Bool}

/-- The target of the link at a location, if a link is there. -/
def linkAt (fs : FileSystem) (location : Location) : Option String :=
  match fs.node? location with
  | some (.link target) => some target
  | _ => none

theorem linkAt_eq_some_iff : fs.linkAt location = some text ↔
    fs.node? location = some (.link text) := by
  unfold linkAt
  split <;> simp_all

theorem linkAt_congr (same : left.node? location = right.node? location) :
    left.linkAt location = right.linkAt location := by
  unfold linkAt
  rw [same]

/-- The locations that are passed when names are followed. `enter` goes on at a link. -/
def wayNames (fs : FileSystem) (enter : Location → List String → List Location) :
    Location → List String → List Location
  | here, [] => [here]
  | here, name :: rest =>
    here ::
      if name = ".." then wayNames fs enter here.dropLast rest
      else
        match fs.linkAt (here ++ [name]) with
        | some target =>
          let path := Path.ofString target
          (here ++ [name]) :: enter (if path.isAbsolute then [] else here) (path.parts ++ rest)
        | none => wayNames fs enter (here ++ [name]) rest

/-- The locations that are passed when names and as many links as the budget allows are
followed. -/
def way (fs : FileSystem) : (budget : Nat) → Location → List String → List Location
  | 0 => wayNames fs fun _ _ => []
  | budget + 1 => wayNames fs (way fs budget)

/-- The locations that are passed when a path is followed. -/
def wayTo (fs : FileSystem) (path : Path) : List Location :=
  fs.way linkLimit (fs.start path) path.parts

/-- The place that a path leads to, if everything on its way that is no link is a directory. -/
def aim (fs : FileSystem) (path : Path) : Location :=
  (fs.wayTo path).getLastD []

/-! ## One name at a time -/

/-- Names are followed one after the other, and the names behind a link with a smaller budget. -/
theorem walk_induction {motive : Nat → Location → List String → Prop}
    (last : ∀ budget here, motive budget here [])
    (up : ∀ budget here rest, motive budget here.dropLast rest → motive budget here (".." :: rest))
    (down : ∀ budget here name rest, name ≠ ".." → motive budget (here ++ [name]) rest →
      (∀ less, budget = less + 1 → ∀ there names, motive less there names) →
        motive budget here (name :: rest))
    (budget : Nat) (here : Location) (names : List String) : motive budget here names := by
  have through : ∀ budget,
      (∀ less, budget = less + 1 → ∀ there names, motive less there names) →
        ∀ names here, motive budget here names := by
    intro budget entered names
    induction names with
    | nil => exact last budget
    | cons name rest ih =>
      intro here
      by_cases parent : name = ".."
      · rw [parent]
        exact up budget here rest (ih _)
      · exact down budget here name rest parent (ih _) entered
  induction budget generalizing here names with
  | zero => exact through 0 (fun _ same => nomatch same) names here
  | succ budget ih =>
    refine through (budget + 1) (fun less same there names => ?_) names here
    cases same
    exact ih there names

/-- Goes on behind a link with a smaller budget. -/
def walkBehind (fs : FileSystem) (followLast : Bool) (budget : Nat) (here : Location)
    (target : String) (rest : List String) : Except Fault Target :=
  match budget with
  | 0 => .error .tooManyLinks
  | less + 1 =>
    fs.walk followLast less (if (Path.ofString target).isAbsolute then [] else here)
      ((Path.ofString target).parts ++ rest)

/-- The locations that are passed behind a link. -/
def wayBehind (fs : FileSystem) (budget : Nat) (here : Location) (target : String)
    (rest : List String) : List Location :=
  match budget with
  | 0 => []
  | less + 1 =>
    fs.way less (if (Path.ofString target).isAbsolute then [] else here)
      ((Path.ofString target).parts ++ rest)

theorem walk_nil : fs.walk followLast budget here [] =
    match fs.node? here with
    | some node => .ok (.entry here node)
    | none => .error .missing := by
  cases budget <;> rfl

theorem walk_up :
    fs.walk followLast budget here (".." :: rest) =
      fs.walk followLast budget here.dropLast rest := by
  cases budget <;> rfl

theorem walk_down (down : name ≠ "..") : fs.walk followLast budget here (name :: rest) =
    if nameLimit < byteLength name then .error .nameTooLong
    else
      match fs.node? (here ++ [name]) with
      | none => if rest.isEmpty then .ok (.vacant here name) else .error .missing
      | some .directory => fs.walk followLast budget (here ++ [name]) rest
      | some (.link target) =>
        if rest.isEmpty && !followLast then .ok (.entry (here ++ [name]) (.link target))
        else fs.walkBehind followLast budget here target rest
      | some node => if rest.isEmpty then .ok (.entry (here ++ [name]) node)
        else .error .notDirectory := by
  cases budget <;> · rw [walk, walkNames, if_neg down]; rfl

theorem way_nil : fs.way budget here [] = [here] := by
  cases budget <;> rfl

theorem way_up :
    fs.way budget here (".." :: rest) = here :: fs.way budget here.dropLast rest := by
  cases budget <;> rfl

theorem way_down (down : name ≠ "..") : fs.way budget here (name :: rest) =
    here ::
      match fs.linkAt (here ++ [name]) with
      | some target => (here ++ [name]) :: fs.wayBehind budget here target rest
      | none => fs.way budget (here ++ [name]) rest := by
  cases budget <;> · rw [way, wayNames, if_neg down]; rfl

/-- A way begins where it starts. -/
theorem mem_way_self : here ∈ fs.way budget here names := by
  cases names with
  | nil => rw [way_nil]; exact List.mem_cons_self
  | cons name rest =>
    by_cases up : name = ".."
    · rw [up, way_up]; exact List.mem_cons_self
    · rw [way_down up]; exact List.mem_cons_self

/-- Every name on a way is looked at. -/
theorem mem_way_down (down : name ≠ "..") :
    here ++ [name] ∈ fs.way budget here (name :: rest) := by
  rw [way_down down]
  refine List.mem_cons_of_mem _ ?_
  cases fs.linkAt (here ++ [name]) with
  | none => exact mem_way_self
  | some target => exact List.mem_cons_self

/-! ## Walks that are not refused -/

/-- Names lead somewhere, one after the other: through directories, and behind a link with a smaller
budget. -/
inductive Leads (fs : FileSystem) (followLast : Bool) :
    Nat → Location → List String → Target → Prop
  | here {budget : Nat} {here : Location} {node : Node} : fs.node? here = some node →
      Leads fs followLast budget here [] (.entry here node)
  | up {budget : Nat} {here : Location} {rest : List String} {target : Target} :
      Leads fs followLast budget here.dropLast rest target →
      Leads fs followLast budget here (".." :: rest) target
  | vacant {budget : Nat} {here : Location} {name : String} : name ≠ ".." →
      ¬ nameLimit < byteLength name → fs.node? (here ++ [name]) = none →
      Leads fs followLast budget here [name] (.vacant here name)
  | directory {budget : Nat} {here : Location} {name : String} {rest : List String}
      {target : Target} : name ≠ ".." → ¬ nameLimit < byteLength name →
      fs.node? (here ++ [name]) = some .directory →
      Leads fs followLast budget (here ++ [name]) rest target →
      Leads fs followLast budget here (name :: rest) target
  | file {budget : Nat} {here : Location} {name : String} {content : List UInt8}
      {executable : Bool} : name ≠ ".." → ¬ nameLimit < byteLength name →
      fs.node? (here ++ [name]) = some (.file content executable) →
      Leads fs followLast budget here [name] (.entry (here ++ [name]) (.file content executable))
  | link {budget : Nat} {here : Location} {name text : String} : name ≠ ".." →
      ¬ nameLimit < byteLength name → fs.node? (here ++ [name]) = some (.link text) →
      followLast = false →
      Leads fs followLast budget here [name] (.entry (here ++ [name]) (.link text))
  | behind {less : Nat} {here : Location} {name text : String} {rest : List String}
      {target : Target} : name ≠ ".." → ¬ nameLimit < byteLength name →
      fs.node? (here ++ [name]) = some (.link text) → (rest.isEmpty && !followLast) = false →
      Leads fs followLast less (if (Path.ofString text).isAbsolute then [] else here)
        ((Path.ofString text).parts ++ rest) target →
      Leads fs followLast (less + 1) here (name :: rest) target

/-- A walk that is not refused has a derivation. -/
theorem leads_of_walk (led : fs.walk followLast budget here names = .ok target) :
    fs.Leads followLast budget here names target := by
  induction budget, here, names using walk_induction with
  | last budget here =>
    rw [walk_nil] at led
    split at led <;> cases led
    exact .here ‹_›
  | up budget here rest ih =>
    rw [walk_up] at led
    exact .up (ih led)
  | down budget here name rest down ih entered =>
    rw [walk_down down] at led
    split at led
    · cases led
    next short =>
      split at led
      next found =>
        split at led <;> cases led
        next ended =>
          rw [List.isEmpty_iff.1 ended]
          exact .vacant down short found
      next found => exact .directory down short found (ih led)
      next text found =>
        split at led
        next ended =>
          cases led
          rw [Bool.and_eq_true, List.isEmpty_iff, Bool.not_eq_true'] at ended
          rw [ended.1]
          exact .link down short found ended.2
        next onward =>
          cases budget with
          | zero => cases led
          | succ less =>
            exact .behind down short found (Bool.eq_false_iff.2 onward) (entered less rfl _ _ led)
      next node differs unlinked found =>
        split at led <;> cases led
        next ended =>
          rw [List.isEmpty_iff.1 ended]
          cases node with
          | directory => exact absurd rfl differs
          | file content executable => exact .file down short found
          | link text => exact absurd rfl (unlinked text)

/-! ## What decides where a path leads -/

/-- The way of names depends on the links that stand on it. -/
theorem way_congr
    (same : ∀ location ∈ left.way budget here names, left.linkAt location = right.linkAt location) :
    right.way budget here names = left.way budget here names := by
  induction budget, here, names using walk_induction with
  | last => rw [way_nil, way_nil]
  | up budget here rest ih =>
    rw [way_up] at same
    rw [way_up, way_up, ih fun location mem => same location (List.mem_cons_of_mem _ mem)]
  | down budget here name rest down ih entered =>
    have first := same _ (mem_way_down down)
    rw [way_down down] at same
    rw [way_down down, way_down down, ← first]
    cases found : left.linkAt (here ++ [name]) with
    | none =>
      rw [found] at same
      simp only
      rw [ih fun location mem => same location (List.mem_cons_of_mem _ mem)]
    | some target =>
      rw [found] at same
      cases budget with
      | zero => rfl
      | succ less =>
        simp only [wayBehind]
        rw [entered less rfl _ _ fun location mem =>
          same location (List.mem_cons_of_mem _ (List.mem_cons_of_mem _ mem))]

/-- Where names lead depends on what stands on their way. -/
theorem walk_congr
    (same : ∀ location ∈ left.way budget here names, left.node? location = right.node? location) :
    right.walk followLast budget here names = left.walk followLast budget here names := by
  induction budget, here, names using walk_induction with
  | last budget here => rw [walk_nil, walk_nil, same here mem_way_self]
  | up budget here rest ih =>
    rw [way_up] at same
    rw [walk_up, walk_up, ih fun location mem => same location (List.mem_cons_of_mem _ mem)]
  | down budget here name rest down ih entered =>
    have first := same _ (mem_way_down down)
    rw [way_down down] at same
    rw [walk_down down, walk_down down, ← first]
    cases found : left.node? (here ++ [name]) with
    | none => rfl
    | some node =>
      rw [linkAt, found] at same
      cases node with
      | directory =>
        simp only
        rw [ih fun location mem => same location (List.mem_cons_of_mem _ mem)]
      | file content executable => rfl
      | link target =>
        cases budget with
        | zero => rfl
        | succ less =>
          simp only [walkBehind]
          rw [entered less rfl _ _ fun location mem =>
            same location (List.mem_cons_of_mem _ (List.mem_cons_of_mem _ mem))]

/-! ## Paths that begin alike -/

/-- A path passes what the path above it passes. -/
theorem mem_way_append (passed : location ∈ fs.way budget here front) :
    location ∈ fs.way budget here (front ++ back) := by
  induction budget, here, front using walk_induction with
  | last budget here =>
    rw [way_nil] at passed
    rw [List.mem_singleton.1 passed]
    exact mem_way_self
  | up budget here rest ih =>
    rw [way_up] at passed
    rw [List.cons_append, way_up]
    exact List.mem_cons.2 ((List.mem_cons.1 passed).imp_right ih)
  | down budget here name rest down ih entered =>
    rw [way_down down] at passed
    rw [List.cons_append, way_down down]
    refine List.mem_cons.2 ((List.mem_cons.1 passed).imp_right fun passed => ?_)
    cases found : fs.linkAt (here ++ [name]) with
    | none =>
      rw [found] at passed
      exact ih passed
    | some target =>
      rw [found] at passed
      refine List.mem_cons.2 ((List.mem_cons.1 passed).imp_right fun passed => ?_)
      cases budget with
      | zero => exact passed
      | succ less =>
        simp only [wayBehind, ← List.append_assoc] at passed ⊢
        exact entered less rfl _ _ passed

/-- A walk to a directory goes on from there. -/
theorem walk_append {there : Location} (followLast : Bool)
    (led : fs.Leads true budget here front (.entry there .directory)) (more : back ≠ []) :
    ∃ less, fs.walk followLast budget here (front ++ back) = fs.walk followLast less there back ∧
      ∀ location, location ∈ fs.way budget here (front ++ back) →
        location ∈ fs.way budget here front ∨ location ∈ fs.way less there back := by
  generalize ended : Target.entry there .directory = target at led
  induction led with
  | here =>
    cases ended
    exact ⟨_, rfl, fun _ => Or.inr⟩
  | up _ ih =>
    obtain ⟨less, same, passed⟩ := ih ended
    refine ⟨less, by rw [List.cons_append, walk_up, same], fun location mem => ?_⟩
    rw [List.cons_append, way_up] at mem
    rw [way_up]
    rcases List.mem_cons.1 mem with rfl | mem
    · exact Or.inl List.mem_cons_self
    · exact (passed location mem).imp_left (List.mem_cons_of_mem _)
  | vacant => cases ended
  | directory down short found _ ih =>
    obtain ⟨less, same, passed⟩ := ih ended
    refine ⟨less, by rw [List.cons_append, walk_down down, if_neg short, found]; exact same,
      fun location mem => ?_⟩
    rw [List.cons_append, way_down down, linkAt, found] at mem
    rw [way_down down, linkAt, found]
    rcases List.mem_cons.1 mem with rfl | mem
    · exact Or.inl List.mem_cons_self
    · exact (passed location mem).imp_left (List.mem_cons_of_mem _)
  | file => cases ended
  | link => cases ended
  | @behind less here name text rest target down short found _ _ ih =>
    obtain ⟨less, same, passed⟩ := ih ended
    have unfinished : (rest ++ back).isEmpty = false :=
      List.isEmpty_eq_false_iff.2 (List.append_ne_nil_of_right_ne_nil rest more)
    rw [List.append_assoc] at same passed
    refine ⟨less, ?_, fun location mem => ?_⟩
    · rw [List.cons_append, walk_down down, if_neg short, found]
      simp only [unfinished, Bool.false_and, Bool.false_eq_true, if_false]
      exact same
    · rw [List.cons_append, way_down down, linkAt, found] at mem
      rw [way_down down, linkAt, found]
      rcases List.mem_cons.1 mem with rfl | mem
      · exact Or.inl List.mem_cons_self
      rcases List.mem_cons.1 mem with rfl | mem
      · exact Or.inl (List.mem_cons_of_mem _ List.mem_cons_self)
      · exact (passed location mem).imp_left fun passed =>
          List.mem_cons_of_mem _ (List.mem_cons_of_mem _ passed)

/-- A walk ends at the last location of its way. -/
theorem getLast?_way (led : fs.Leads true budget here names (.entry location node)) :
    (fs.way budget here names).getLast? = some location := by
  have onward : ∀ {passed : Location} {later : List Location}, later.getLast? = some location →
      (passed :: later).getLast? = some location := by
    intro passed later ended
    rw [List.getLast?_cons, ended]
    rfl
  generalize ended : Target.entry location node = target at led
  induction led with
  | here =>
    cases ended
    rw [way_nil]
    rfl
  | up _ ih =>
    rw [way_up]
    exact onward (ih ended)
  | vacant => cases ended
  | directory down _ found _ ih =>
    rw [way_down down, linkAt, found]
    exact onward (ih ended)
  | file down _ found =>
    cases ended
    rw [way_down down, linkAt, found]
    simp only [way_nil]
    rfl
  | link _ _ _ followed => cases followed
  | behind down _ found _ _ ih =>
    rw [way_down down, linkAt, found]
    exact onward (onward (ih ended))

theorem leads_of_locate (found : fs.locate followLast path = .ok target) :
    fs.Leads followLast linkLimit (fs.start path) path.parts target := by
  unfold locate at found
  dsimp only at found
  split at found
  · cases found
  · split at found
    · cases found
    · exact leads_of_walk found

theorem aim_of_locate (led : fs.locate true path = .ok (.entry location node)) :
    fs.aim path = location := by
  unfold aim wayTo
  rw [List.getLastD_eq_getLast?, getLast?_way (leads_of_locate led)]
  rfl

/-- Paths start at the same place in file systems with one working directory. -/
theorem start_congr (home : left.workingDirectory = right.workingDirectory) (path : Path) :
    left.start path = right.start path := by
  rw [start, start, home]

/-- Where a path leads depends on where it starts and on what stands on its way. -/
theorem locate_congr (begun : left.start path = right.start path)
    (same : ∀ location ∈ left.wayTo path, left.node? location = right.node? location) :
    right.locate followLast path = left.locate followLast path := by
  unfold locate
  rw [← begun, walk_congr same]

theorem wayTo_congr (home : left.workingDirectory = right.workingDirectory)
    (same : ∀ location ∈ left.wayTo path, left.linkAt location = right.linkAt location) :
    right.wayTo path = left.wayTo path := by
  unfold wayTo
  rw [start, ← home]
  exact way_congr same

end TestImpact.FileSystem
