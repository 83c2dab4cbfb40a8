import TestImpact.FileSystem.Content
import TestImpact.Proofs.FileSystem.Ways

/-!
# File systems that differ in some files

Two file systems are `Alike` but for some places if everywhere else the same stands in both, and
at these places the same, or a file in one and another file or nothing in the other. Paths have
the same ways in both, and lead to directories in both or in neither (`Alike.isDirectory_eq`). The
files below a directory are the same if none of the places lies there (`Alike.filesBelow_eq`), and
a path that passes nothing in which the two differ leads to the same in both (`Shared`).
-/

namespace TestImpact.FileSystem

variable {fs left right : FileSystem} {places : Set Location} {budget : Nat}
  {here location : Location} {names : List String} {path : Path} {followLast : Bool}

/-- Nothing or a file. -/
def Bare : Option Node → Prop
  | none | some (.file _ _) => True
  | some .directory | some (.link _) => False

theorem Bare.ne_directory {node : Option Node} (bare : Bare node) : node ≠ some .directory := by
  rintro rfl
  exact bare

theorem Bare.ne_link {node : Option Node} (bare : Bare node) (target : String) :
    node ≠ some (.link target) := by
  rintro rfl
  exact bare

theorem Bare.linkAt_eq (bare : Bare (fs.node? location)) : fs.linkAt location = none := by
  rw [Option.eq_none_iff_forall_ne_some]
  exact fun target linked => bare.ne_link target (linkAt_eq_some_iff.1 linked)

/-- Two file systems differ at most in which files with which contents stand at some places. -/
structure Alike (places : Set Location) (left right : FileSystem) : Prop where
  home : left.workingDirectory = right.workingDirectory
  nodes : ∀ location, left.node? location = right.node? location ∨
    location ∈ places ∧ Bare (left.node? location) ∧ Bare (right.node? location)

namespace Alike

theorem linkAt_eq (alike : Alike places left right) (location : Location) :
    left.linkAt location = right.linkAt location := by
  rcases alike.nodes location with same | ⟨-, bare, bare'⟩
  · exact linkAt_congr same
  · exact bare.linkAt_eq.trans bare'.linkAt_eq.symm

theorem directory_iff (alike : Alike places left right) (location : Location) :
    left.node? location = some .directory ↔ right.node? location = some .directory := by
  rcases alike.nodes location with same | ⟨-, bare, bare'⟩
  · rw [same]
  · exact ⟨fun found => (bare.ne_directory found).elim,
      fun found => (bare'.ne_directory found).elim⟩

end Alike

/-! ## Questions about directories -/

/-- What comes of a walk that meets a file or nothing at a place: it leads there, or breaks off. -/
def Fruitless (place : Location) : Except Fault Target → Prop
  | .ok (.entry location node) => location = place ∧ Bare (some node)
  | .ok (.vacant above name) => above ++ [name] = place
  | .error fault => fault = .missing ∨ fault = .notDirectory

variable {followLast : Bool} {budget : Nat} {here place : Location} {name : String}
  {rest : List String}

theorem Fruitless.cases {outcome : Except Fault Target} (fruitless : Fruitless place outcome) :
    outcome = .error .missing ∨ outcome = .error .notDirectory ∨
      (∃ above name, outcome = .ok (.vacant above name) ∧ above ++ [name] = place) ∨
      ∃ content executable, outcome = .ok (.entry place (.file content executable)) := by
  match outcome, fruitless with
  | .error _, .inl rfl => exact Or.inl rfl
  | .error _, .inr rfl => exact Or.inr (Or.inl rfl)
  | .ok (.vacant above name), same => exact Or.inr (Or.inr (Or.inl ⟨above, name, rfl, same⟩))
  | .ok (.entry _ (.file content executable)), ⟨rfl, _⟩ =>
    exact Or.inr (Or.inr (Or.inr ⟨content, executable, rfl⟩))

theorem fruitless_walk_nil (bare : Bare (fs.node? here)) :
    Fruitless here (fs.walk followLast budget here []) := by
  rw [walk_nil]
  cases found : fs.node? here with
  | none => exact Or.inl rfl
  | some node =>
    rw [found] at bare
    cases node with
    | file content executable => exact ⟨rfl, bare⟩
    | directory | link target => cases bare

theorem fruitless_walk_down (down : name ≠ "..") (short : ¬ nameLimit < byteLength name)
    (bare : Bare (fs.node? (here ++ [name]))) :
    Fruitless (here ++ [name]) (fs.walk followLast budget here (name :: rest)) := by
  rw [walk_down down, if_neg short]
  cases found : fs.node? (here ++ [name]) with
  | none =>
    simp only
    split
    · exact rfl
    · exact Or.inl rfl
  | some node =>
    rw [found] at bare
    cases node with
    | file content executable =>
      simp only
      split
      · exact ⟨rfl, bare⟩
      · exact Or.inr rfl
    | directory | link target => cases bare

/-- Names lead to the same in both file systems, or the walks end at a place where these differ. -/
theorem Alike.walk_eq (alike : Alike places left right) (followLast : Bool) (budget : Nat)
    (here : Location) (names : List String) :
    left.walk followLast budget here names = right.walk followLast budget here names ∨
      ∃ place ∈ places, left.node? place ≠ right.node? place ∧
        Fruitless place (left.walk followLast budget here names) ∧
        Fruitless place (right.walk followLast budget here names) := by
  induction budget, here, names using walk_induction with
  | last budget here =>
    by_cases same : left.node? here = right.node? here
    · rw [walk_nil, walk_nil, same]
      exact Or.inl rfl
    · obtain ⟨among, bare, bare'⟩ := (alike.nodes here).resolve_left same
      exact Or.inr ⟨here, among, same, fruitless_walk_nil bare, fruitless_walk_nil bare'⟩
  | up budget here rest ih =>
    rw [walk_up, walk_up]
    exact ih
  | down budget here name rest down ih entered =>
    by_cases long : nameLimit < byteLength name
    · rw [walk_down down, walk_down down, if_pos long, if_pos long]
      exact Or.inl rfl
    by_cases same : left.node? (here ++ [name]) = right.node? (here ++ [name])
    · rw [walk_down down, walk_down down, if_neg long, if_neg long, ← same]
      cases left.node? (here ++ [name]) with
      | none => exact Or.inl rfl
      | some node =>
        cases node with
        | directory => exact ih
        | file content executable => exact Or.inl rfl
        | link target =>
          simp only
          split
          · exact Or.inl rfl
          · cases budget with
            | zero => exact Or.inl rfl
            | succ less => exact entered less rfl _ _
    · obtain ⟨among, bare, bare'⟩ := (alike.nodes _).resolve_left same
      exact Or.inr ⟨_, among, same, fruitless_walk_down down long bare,
        fruitless_walk_down down long bare'⟩

theorem Alike.locate_eq (alike : Alike places left right) (followLast : Bool) (path : Path) :
    left.locate followLast path = right.locate followLast path ∨
      ∃ place ∈ places, left.node? place ≠ right.node? place ∧
        Fruitless place (left.locate followLast path) ∧
        Fruitless place (right.locate followLast path) := by
  unfold locate
  have start : left.start path = right.start path := by rw [start, start, alike.home]
  rw [start]
  simp only
  split
  · exact Or.inl rfl
  · split
    · exact Or.inl rfl
    · exact alike.walk_eq _ _ _ _

theorem isDirectory_of_fruitless
    (fruitless : Fruitless place (fs.locate true path)) : fs.isDirectory path = .ok false := by
  unfold isDirectory ask stat
  rcases fruitless.cases with led | led | ⟨_, _, led, -⟩ | ⟨_, _, led⟩ <;>
  · rw [led]
    rfl

theorem leadsToDirectory_of_fruitless {location : Location} {target : String}
    (fruitless : Fruitless place (fs.walk true linkLimit [] location)) :
    fs.leadsToDirectory location (.link target) = false := by
  unfold leadsToDirectory
  rcases fruitless.cases with led | led | ⟨_, _, led, -⟩ | ⟨_, _, led⟩ <;>
  · rw [led]

/-- A path leads to a directory in both file systems or in neither. -/
theorem Alike.isDirectory_eq (alike : Alike places left right) (path : Path) :
    left.isDirectory path = right.isDirectory path := by
  rcases alike.locate_eq true path with
    same | ⟨place, -, -, closed, closed'⟩
  · unfold isDirectory ask stat
    rw [same]
  · rw [isDirectory_of_fruitless closed, isDirectory_of_fruitless closed']

theorem Alike.leadsToDirectory_eq (alike : Alike places left right) (location : Location)
    (node : Node) : left.leadsToDirectory location node = right.leadsToDirectory location node := by
  cases node with
  | directory => rfl
  | file content executable => rfl
  | link target =>
    rcases alike.walk_eq true linkLimit [] location with same | ⟨place, -, -, closed, closed'⟩
    · unfold leadsToDirectory
      rw [same]
    · rw [leadsToDirectory_of_fruitless closed, leadsToDirectory_of_fruitless closed']

/-! ## Files below a directory -/

theorem walkOrder_cons {a b : String} {as bs : Location} :
    walkOrder (a :: as) (b :: bs) = true ↔
      as = [] ∧ bs = [] ∧ a ≤ b ∨ as = [] ∧ bs ≠ [] ∨
        as ≠ [] ∧ bs ≠ [] ∧ (a < b ∨ a = b ∧ walkOrder as bs = true) := by
  match as, bs with
  | [], [] => simp [walkOrder]
  | [], _ :: _ => simp [walkOrder]
  | _ :: _, [] => simp [walkOrder]
  | c :: cs, d :: ds =>
    have stays : walkOrder (a :: c :: cs) (b :: d :: ds) = true ↔
        a < b ∨ a = b ∧ walkOrder (c :: cs) (d :: ds) = true := by
      show (if a = b then walkOrder (c :: cs) (d :: ds) else decide (a < b)) = true ↔ _
      by_cases same : a = b
      · rw [if_pos same, same]
        exact ⟨fun below => Or.inr ⟨rfl, below⟩, fun below =>
          below.elim (fun less => absurd less (String.lt_irrefl b)) And.right⟩
      · rw [if_neg same, decide_eq_true_iff]
        exact ⟨Or.inl, fun below => below.resolve_right fun ⟨eq, _⟩ => same eq⟩
    rw [stays]
    simp only [reduceCtorEq, false_and, ne_eq, not_false_eq_true, true_and, false_or]

theorem walkOrder_trans : ∀ (first second third : Location), walkOrder first second = true →
    walkOrder second third = true → walkOrder first third = true
  | [], _, _, _, _ => by unfold walkOrder; rfl
  | _ :: _, [], _, below, _ => by cases below
  | _ :: _, _ :: _, [], _, below => by cases below
  | a :: as, b :: bs, c :: cs, below, below' => by
    have later := walkOrder_trans as bs cs
    rw [walkOrder_cons] at below below' ⊢
    grind [String.le_trans, String.lt_trans]

theorem walkOrder_total (first second : Location) :
    (walkOrder first second || walkOrder second first) = true := by
  induction first generalizing second with
  | nil => rfl
  | cons a as ih =>
    cases second with
    | nil => rfl
    | cons b bs =>
      have later := ih bs
      have heads := String.le_total a b
      rw [Bool.or_eq_true] at later ⊢
      rw [walkOrder_cons, walkOrder_cons]
      grind [String.not_lt]

theorem walkOrder_antisymm (first second : Location) (below : walkOrder first second = true)
    (above : walkOrder second first = true) : first = second := by
  induction first generalizing second with
  | nil =>
    cases second with
    | nil => rfl
    | cons b bs => cases above
  | cons a as ih =>
    cases second with
    | nil => cases below
    | cons b bs =>
      have later := ih bs
      rw [walkOrder_cons] at below above
      grind [String.le_antisymm, String.lt_trans, String.lt_irrefl]

theorem nodup_filesBelow (fs : FileSystem) (directory : Location) :
    (fs.filesBelow directory).Nodup := by
  unfold filesBelow
  rw [(List.mergeSort_perm _ _).nodup_iff]
  refine List.Pairwise.filterMap _ ?_ (List.pairwise_map.1 fs.nodup)
  rintro ⟨first, node⟩ ⟨second, node'⟩ differ rest given rest' given' rfl
  dsimp only at given given'
  split at given
  next below =>
    split at given'
    next below' =>
      split at given <;> cases given
      split at given' <;> cases given'
      exact differ ((below?_eq_some_iff.1 below).trans (below?_eq_some_iff.1 below').symm)
    next => cases given'
  next => cases given

/-- The files below a directory are given in an order of their own. -/
theorem filesBelow_congr {directory : Location}
    (same : ∀ names, names ∈ left.filesBelow directory ↔ names ∈ right.filesBelow directory) :
    left.filesBelow directory = right.filesBelow directory := by
  refine List.Perm.eq_of_pairwise (fun first second _ _ => walkOrder_antisymm first second)
    (List.pairwise_mergeSort walkOrder_trans walkOrder_total _)
    (List.pairwise_mergeSort walkOrder_trans walkOrder_total _) ?_
  exact (List.perm_ext_iff_of_nodup (nodup_filesBelow left _) (nodup_filesBelow right _)).2 same

/-- The files below a directory are the same in both file systems if none of the places is there. -/
theorem Alike.filesBelow_eq (alike : Alike places left right) {directory : Location}
    (outside : ∀ place ∈ places, ¬ directory <+: place) :
    left.filesBelow directory = right.filesBelow directory := by
  apply filesBelow_congr
  intro names
  have same : left.node? (directory ++ names) = right.node? (directory ++ names) :=
    (alike.nodes _).resolve_right fun ⟨among, _⟩ => outside _ among (List.prefix_append _ _)
  simp only [mem_filesBelow_iff, mem_entries_iff, same, alike.leadsToDirectory_eq]

/-! ## Paths that lead to the same -/

/-- The path passes nothing in which two file systems differ. -/
def Shared (left right : FileSystem) (path : Path) : Prop :=
  ∀ location ∈ left.wayTo path, left.node? location = right.node? location

namespace Shared

variable (shared : Shared left right path) (begun : left.start path = right.start path)

include shared begun

theorem locate_eq (followLast : Bool) :
    left.locate followLast path = right.locate followLast path :=
  (locate_congr begun shared).symm

theorem stat_eq : left.stat path = right.stat path := by
  unfold stat
  rw [shared.locate_eq begun]

theorem isFile_eq : left.isFile path = right.isFile path := by
  unfold isFile ask
  rw [shared.stat_eq begun]

theorem read_eq : left.read path = right.read path := by
  unfold read
  rw [shared.stat_eq begun]

theorem readText_eq : left.readText path = right.readText path := by
  unfold readText
  rw [shared.read_eq begun]

theorem readText?_eq : left.readText? path = right.readText? path := by
  unfold readText?
  rw [shared.read_eq begun]

end Shared

/-- The path passes nothing in which two file systems differ, and no link at one of some places. -/
def Settled (places : Set Location) (left right : FileSystem) (path : Path) : Prop :=
  ∀ location ∈ left.wayTo path, left.node? location = right.node? location ∧
    (location ∈ places → left.linkAt location = none)

theorem Settled.shared (settled : Settled places left right path) : Shared left right path :=
  fun location passed => (settled location passed).1

/-- The path passes some places only where a directory stands. -/
def Clear (places : Set Location) (fs : FileSystem) (path : Path) : Prop :=
  ∀ location ∈ fs.wayTo path, location ∈ places → fs.node? location = some .directory

/-- A path that keeps clear of the places is settled. -/
theorem Clear.settled (clear : Clear places left path) (alike : Alike places left right) :
    Settled places left right path := by
  intro location passed
  rcases alike.nodes location with same | ⟨among, bare, -⟩
  · refine ⟨same, fun among => ?_⟩
    unfold linkAt
    rw [clear location passed among]
  · exact (bare.ne_directory (clear location passed among)).elim

end TestImpact.FileSystem
