import TestImpact.Proofs.FileSystem.Ways

/-!
# One location changes

`Becomes` says that two file systems differ in what stands at one location. To take away something
that is no directory is such a change (`becomes_prune`), and so is to put something into a directory
(`becomes_place`). A directory that is made where a walk ended leads there (`walk_of_vacant`).
-/

namespace TestImpact.FileSystem

variable {fs after : FileSystem} {budget : Nat} {here above location other : Location}
  {node : Node} {name : String} {names : List String} {path : Path} {followLast : Bool}

/-- One file system comes to another one by a change of what stands at one location. -/
structure Becomes (before after : FileSystem) (location : Location) (node : Option Node) :
    Prop where
  home : after.workingDirectory = before.workingDirectory
  there : after.node? location = node
  elsewhere : ∀ other, other ≠ location → after.node? other = before.node? other

theorem node?_eq_some_iff : fs.node? location = some node ↔
    location = [] ∧ node = .directory ∨ (location, node) ∈ fs.entries := by
  rw [mem_entries_iff]
  by_cases top : location = []
  · rw [top]
    simp [node?, eq_comm]
  · simp [top]

/-- What stands somewhere stands in a directory. -/
theorem node?_above (found : fs.node? (above ++ [name]) = some node) :
    fs.node? above = some .directory := by
  have listed := (fs.mem_entries_iff.2 ⟨List.append_ne_nil_of_right_ne_nil _ (by simp), found⟩)
  obtain ⟨other, last, same, -, home⟩ := fs.placed _ listed
  obtain ⟨rfl, -⟩ := List.append_inj' same rfl
  exact node?_eq_some_iff.2 (home.imp (⟨·, rfl⟩) id)

/-- Nothing stands below what is no directory. -/
theorem none_below (closed : fs.node? location ≠ some .directory) (below : location <+: other)
    (differs : other ≠ location) : fs.node? other = none := by
  rw [Option.eq_none_iff_forall_ne_some]
  intro node found
  induction other using List.reverseRecOn generalizing node with
  | nil => exact differs (List.prefix_nil.1 below).symm
  | append_singleton above name ih =>
    have home := node?_above found
    rcases List.prefix_concat_iff.1 below with same | inside
    · exact differs same.symm
    · by_cases same : above = location
      · exact closed (same ▸ home)
      · exact ih inside same _ home

theorem node?_prune (inside : location ≠ []) :
    (fs.prune location).node? other = if location <+: other then none else fs.node? other := by
  by_cases below : location <+: other
  · rw [if_pos below, Option.eq_none_iff_forall_ne_some]
    intro node found
    rcases node?_eq_some_iff.1 found with ⟨rfl, -⟩ | listed
    · exact inside (List.prefix_nil.1 below)
    · have outside := (List.mem_filter.1 listed).2
      rw [List.isPrefixOf_iff_prefix.2 below] at outside
      cases outside
  · rw [if_neg below]
    apply Option.ext
    intro node
    rw [node?_eq_some_iff, node?_eq_some_iff]
    have kept : (!location.isPrefixOf other) = true := by
      rw [Bool.not_eq_true', Bool.eq_false_iff, ne_eq, List.isPrefixOf_iff_prefix]
      exact below
    exact or_congr_right ⟨fun listed => (List.mem_filter.1 listed).1,
      fun listed => List.mem_filter.2 ⟨listed, kept⟩⟩

/-- What is no directory can be taken away alone. -/
theorem becomes_prune (closed : fs.node? location ≠ some .directory) :
    Becomes fs (fs.prune location) location none := by
  have inside : location ≠ [] := by
    rintro rfl
    exact closed rfl
  refine ⟨rfl, ?_, fun other differs => ?_⟩
  · rw [node?_prune inside, if_pos List.prefix_rfl]
  · rw [node?_prune inside]
    split
    next below => exact (none_below closed below differs).symm
    next => rfl

/-- Something can be put into a directory. -/
theorem becomes_place (home : fs.node? above = some .directory) (named : isName name = true)
    (closed : fs.node? (above ++ [name]) ≠ some .directory) :
    Becomes fs (fs.place above name node) (above ++ [name]) (some node) := by
  have fits : isName name = true ∧ (above = [] ∨ (above, Node.directory) ∈ fs.entries) :=
    ⟨named, (node?_eq_some_iff.1 home).imp And.left id⟩
  have taken := becomes_prune closed
  have listed : ∀ {other node'}, (fs.place above name node).node? other = some node' ↔
      (fs.prune (above ++ [name])).node? other = some node' ∨
        other = above ++ [name] ∧ node' = node := by
    intro other node'
    rw [place, dif_pos fits, node?_eq_some_iff, node?_eq_some_iff, List.mem_append,
      List.mem_singleton, Prod.mk.injEq, or_assoc]
  refine ⟨?_, listed.2 (Or.inr ⟨rfl, rfl⟩), fun other differs => ?_⟩
  · rw [place, dif_pos fits]
    rfl
  · rw [← taken.elsewhere other differs]
    apply Option.ext
    intro node'
    rw [listed, or_iff_left fun ⟨same, _⟩ => differs same]

/-- What has no name, or no directory to lie in, changes nothing. -/
theorem place_of_homeless (homeless : ¬ (fs.node? above = some .directory ∧ isName name = true)) :
    fs.place above name node = fs := by
  unfold place
  refine dif_neg fun ⟨named, home⟩ => homeless ⟨?_, named⟩
  exact node?_eq_some_iff.2 (home.imp (⟨·, rfl⟩) id)

theorem Becomes.wayTo_eq {new : Option Node} (path : Path) (changed : Becomes fs after location new)
    (unlinked : fs.linkAt location = none) (plain : ∀ target, new ≠ some (.link target)) :
    after.wayTo path = fs.wayTo path := by
  refine wayTo_congr changed.home.symm fun other _ => ?_
  by_cases same : other = location
  · rw [same, unlinked, eq_comm, Option.eq_none_iff_forall_ne_some]
    intro target linked
    exact plain target (changed.there.symm.trans (linkAt_eq_some_iff.1 linked))
  · exact linkAt_congr (changed.elsewhere other same).symm

/-! ## Where a walk ends -/

/-- What a walk ends at stands there. -/
theorem node?_of_entry (led : fs.Leads followLast budget here names (.entry location node)) :
    fs.node? location = some node := by
  generalize ended : Target.entry location node = target at led
  induction led with
  | here found =>
    cases ended
    exact found
  | up _ ih => exact ih ended
  | vacant => cases ended
  | directory _ _ _ _ ih => exact ih ended
  | file _ _ found =>
    cases ended
    exact found
  | link _ _ found =>
    cases ended
    exact found
  | behind _ _ _ _ _ ih => exact ih ended

theorem node?_of_vacant (led : fs.Leads followLast budget here names (.vacant above name)) :
    fs.node? (above ++ [name]) = none := by
  generalize ended : Target.vacant above name = target at led
  induction led with
  | here => cases ended
  | up _ ih => exact ih ended
  | vacant _ _ found =>
    cases ended
    exact found
  | directory _ _ _ _ ih => exact ih ended
  | file => cases ended
  | link => cases ended
  | behind _ _ _ _ _ ih => exact ih ended

/-- A walk that begins in a directory ends in one that may hold what is missing. -/
theorem home_of_vacant (home : fs.node? here = some .directory)
    (proper : ∀ part ∈ names, Path.IsSegment part)
    (led : fs.Leads followLast budget here names (.vacant above name)) :
    fs.node? above = some .directory ∧ isName name = true := by
  generalize ended : Target.vacant above name = target at led
  induction led with
  | here => cases ended
  | up _ ih =>
    exact ih (node?_dropLast home) (fun part mem => proper part (List.mem_cons_of_mem _ mem)) ended
  | vacant down =>
    cases ended
    obtain ⟨nonempty, plain, free⟩ := proper name List.mem_cons_self
    exact ⟨home, by simp [isName, nonempty, plain, down, free]⟩
  | directory _ _ found _ ih =>
    exact ih found (fun part mem => proper part (List.mem_cons_of_mem _ mem)) ended
  | file => cases ended
  | link => cases ended
  | @behind _ _ _ text _ _ _ _ _ _ _ ih =>
    refine ih ?_ (fun part mem => ?_) ended
    · split
      · rfl
      · exact home
    · exact (List.mem_append.1 mem).elim (Path.proper_ofString text part)
        fun later => proper part (List.mem_cons_of_mem _ later)

/-- A directory that is made where nothing was is where the path leads then. -/
theorem walk_of_vacant (made : Becomes fs after (above ++ [name]) (some .directory))
    (led : fs.Leads followLast budget here names (.vacant above name)) :
    after.walk true budget here names = .ok (.entry (above ++ [name]) .directory) := by
  -- What is found on the way was there before, so it is not what was made.
  have passed : ∀ {other found}, fs.node? other = some found → after.node? other = some found := by
    intro other found there
    refine (made.elsewhere other ?_).trans there
    rintro rfl
    rw [node?_of_vacant led] at there
    cases there
  generalize ended : Target.vacant above name = target at led
  induction led with
  | here => cases ended
  | up _ ih =>
    rw [walk_up]
    exact ih ended
  | vacant down short =>
    cases ended
    rw [walk_down down, if_neg short, made.there]
    simp only
    rw [walk_nil, made.there]
  | directory down short found _ ih =>
    rw [walk_down down, if_neg short, passed found]
    exact ih ended
  | file => cases ended
  | link => cases ended
  | behind down short found _ _ ih =>
    rw [walk_down down, if_neg short, passed found]
    simp only [Bool.not_true, Bool.and_false, Bool.false_eq_true, if_false]
    exact ih ended

end TestImpact.FileSystem
