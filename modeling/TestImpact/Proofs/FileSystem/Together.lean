import TestImpact.Proofs.FileSystem.Alike
import TestImpact.Proofs.FileSystem.Change

/-!
# The same changes in two file systems

Two file systems that are alike but for some places go `Onward` if they stay alike and every path
that led to the same in both still does. To make directories on such a path takes them onward
(`together_makeDirectories`), and so does to touch a file there (`together_touch`). To remove a file
directly inside such a directory makes its path one that leads to the same (`together_remove`).
-/

namespace TestImpact.FileSystem

variable {fs after left right left' right' : FileSystem} {places : Set Location} {budget : Nat}
  {here location : Location} {node : Option Node} {name : String} {names : List String}
  {path directory : Path} {followLast : Bool}

/-- Two file systems stay alike, and paths that lead to the same in both keep doing so, on the
way they had. -/
structure Onward (places : Set Location) (left right left' right' : FileSystem) : Prop where
  alike : Alike places left' right'
  settled : ∀ path, Settled places left right path →
    Settled places left' right' path ∧ left'.wayTo path = left.wayTo path

namespace Onward

theorem refl (alike : Alike places left right) : Onward places left right left right :=
  ⟨alike, fun _ settled => ⟨settled, rfl⟩⟩

theorem trans {left'' right'' : FileSystem} (first : Onward places left right left' right')
    (later : Onward places left' right' left'' right'') :
    Onward places left right left'' right'' := by
  refine ⟨later.alike, fun path settled => ?_⟩
  obtain ⟨settled', same⟩ := first.settled path settled
  obtain ⟨settled'', same'⟩ := later.settled path settled'
  exact ⟨settled'', same'.trans same⟩

end Onward

/-- Two file systems in which the same comes to stand at one location, where there was no link
unless it is one of the places, go onward. -/
theorem Alike.onward (alike : Alike places left right) (there : Becomes left left' location node)
    (there' : Becomes right right' location node) (plain : ∀ target, node ≠ some (.link target))
    (unlinked : ∀ target, left.linkAt location = some target → location ∈ places) :
    Onward places left right left' right' := by
  refine ⟨⟨?_, fun other => ?_⟩, fun path settled => ?_⟩
  · rw [there.home, there'.home, alike.home]
  · by_cases same : other = location
    · rw [same, there.there, there'.there]
      exact Or.inl rfl
    · rw [there.elsewhere other same, there'.elsewhere other same]
      exact alike.nodes other
  · have new_link : left'.linkAt location = none := by
      rw [Option.eq_none_iff_forall_ne_some]
      intro target linked
      exact plain target (there.there.symm.trans (linkAt_eq_some_iff.1 linked))
    have old_link : location ∈ left.wayTo path → left.linkAt location = none := by
      intro passed
      rw [Option.eq_none_iff_forall_ne_some]
      intro target linked
      have none_there := (settled location passed).2 (unlinked target linked)
      rw [none_there] at linked
      cases linked
    have same_way : left'.wayTo path = left.wayTo path := by
      refine wayTo_congr there.home.symm fun other passed => ?_
      by_cases same : other = location
      · rw [same, new_link, old_link (same ▸ passed)]
      · exact linkAt_congr (there.elsewhere other same).symm
    refine ⟨fun other passed => ?_, same_way⟩
    rw [same_way] at passed
    by_cases same : other = location
    · rw [same, there.there, there'.there]
      exact ⟨rfl, fun _ => new_link⟩
    · rw [there.elsewhere other same, there'.elsewhere other same,
        linkAt_congr (there.elsewhere other same)]
      exact settled other passed

/-- An operation on two file systems is refused with the same fault, or takes both onward. -/
def Together (places : Set Location) (left right : FileSystem)
    (then_ : FileSystem → FileSystem → Prop) : Except Fault FileSystem → Except Fault FileSystem →
      Prop
  | .ok left', .ok right' => Onward places left right left' right' ∧ then_ left' right'
  | .error fault, .error fault' => fault = fault'
  | _, _ => False

theorem Together.of_onward {then_ : FileSystem → FileSystem → Prop}
    {outcome outcome' : Except Fault FileSystem} (first : Onward places left right left' right')
    (later : Together places left' right' then_ outcome outcome') :
    Together places left right then_ outcome outcome' := by
  cases outcome with
  | ok left'' =>
    cases outcome' with
    | ok right'' => exact ⟨first.trans later.1, later.2⟩
    | error fault => exact later.elim
  | error fault =>
    cases outcome' with
    | ok right'' => exact later.elim
    | error fault' => exact later

/-! ## Making directories -/

theorem locate_of_vacant {above : Location}
    (made : Becomes fs after (above ++ [name]) (some .directory))
    (led : fs.locate followLast path = .ok (.vacant above name)) :
    after.locate true path = .ok (.entry (above ++ [name]) .directory) := by
  have started : after.start path = fs.start path := by rw [start, start, made.home]
  have walked := walk_of_vacant made (leads_of_locate led)
  unfold locate at led ⊢
  simp only at led ⊢
  split at led
  · cases led
  next readable =>
    split at led
    · cases led
    next short => rw [if_neg readable, if_neg short, started, walked]

theorem vacant_of_locate {above : Location} (absolute : path.isAbsolute = true)
    (proper : path.Proper) (led : fs.locate followLast path = .ok (.vacant above name)) :
    fs.node? above = some .directory ∧ isName name = true ∧ fs.node? (above ++ [name]) = none := by
  have begins : fs.node? (fs.start path) = some .directory := by
    rw [start, if_pos absolute]
    rfl
  obtain ⟨home, named⟩ := home_of_vacant begins proper (leads_of_locate led)
  exact ⟨home, named, node?_of_vacant (leads_of_locate led)⟩

/-- What is put where both file systems have nothing takes them onward. -/
theorem Alike.onward_place {above : Location} {node : Node} (alike : Alike places left right)
    (absolute : path.isAbsolute = true) (proper : path.Proper)
    (plain : ∀ target, node ≠ .link target)
    (led : left.locate followLast path = .ok (.vacant above name))
    (led' : right.locate followLast path = .ok (.vacant above name)) :
    Onward places left right (left.place above name node) (right.place above name node) := by
  obtain ⟨home, named, vacant⟩ := vacant_of_locate absolute proper led
  obtain ⟨home', -, vacant'⟩ := vacant_of_locate absolute proper led'
  refine alike.onward (becomes_place home named (by rw [vacant]; simp))
    (becomes_place home' named (by rw [vacant']; simp)) ?_ ?_
  · intro target same
    exact plain target (Option.some.inj same)
  · intro target linked
    rw [linkAt, vacant] at linked
    cases linked

theorem together_makeDirectory (alike : Alike places left right)
    (settled : Settled places left right path) (absolute : path.isAbsolute = true)
    (proper : path.Proper) :
    Together places left right (fun left' _ => left'.isDirectory path = .ok true)
      (left.makeDirectory path) (right.makeDirectory path) := by
  have same := settled.shared.locate_eq (start_congr alike.home _) false
  unfold makeDirectory
  rw [← same]
  cases led : left.locate false path with
  | error fault => exact rfl
  | ok target =>
    cases target with
    | entry location node => exact rfl
    | vacant above name =>
      obtain ⟨home, named, vacant⟩ := vacant_of_locate absolute proper led
      refine ⟨alike.onward_place absolute proper (fun _ same => nomatch same) led (same ▸ led), ?_⟩
      have made : Becomes left (left.place above name .directory) (above ++ [name])
          (some .directory) := becomes_place home named (by rw [vacant]; simp)
      exact isDirectory_eq_true_iff.2 ⟨_, locate_of_vacant made led⟩

/-- A directory that is already there is as good as a new one. -/
theorem Together.settle {outcome outcome' : Except Fault FileSystem}
    (together : Together places left right (fun left' _ => left'.isDirectory path = .ok true)
      outcome outcome') (alike : Alike places left right) :
    Together places left right (fun left' _ => left'.isDirectory path = .ok true)
      (makeDirectoriesFrom.settle left path outcome)
      (makeDirectoriesFrom.settle right path outcome') := by
  cases outcome with
  | ok left' =>
    cases outcome' with
    | ok right' => exact together
    | error fault => exact together.elim
  | error fault =>
    cases outcome' with
    | ok right' => exact together.elim
    | error fault' =>
      obtain rfl : fault = fault' := together
      unfold makeDirectoriesFrom.settle
      cases fault with
      | missing => exact rfl
      | _ =>
        simp only
        rw [← alike.isDirectory_eq path]
        cases asked : left.isDirectory path with
        | error other => exact rfl
        | ok there =>
          cases there with
          | false => exact rfl
          | true => exact ⟨.refl alike, asked⟩

theorem Settled.front {anchor : Anchor} {front back : List String}
    (settled : Settled places left right ⟨anchor, front ++ back⟩) :
    Settled places left right ⟨anchor, front⟩ :=
  fun location passed => settled location (mem_way_append passed)

theorem together_makeDirectoriesFrom {anchor : Anchor} (anchored : anchor ≠ .relative)
    (alike : Alike places left right) {reversed : List String}
    (settled : Settled places left right ⟨anchor, reversed.reverse⟩)
    (proper : (⟨anchor, reversed.reverse⟩ : Path).Proper) :
    Together places left right
      (fun left' _ => left'.isDirectory ⟨anchor, reversed.reverse⟩ = .ok true)
      (left.makeDirectoriesFrom anchor reversed) (right.makeDirectoriesFrom anchor reversed) := by
  have absolute : ∀ parts, (⟨anchor, parts⟩ : Path).isAbsolute = true :=
    fun parts => decide_eq_true anchored
  induction reversed generalizing left right with
  | nil => exact (together_makeDirectory alike settled (absolute _) proper).settle alike
  | cons name above ih =>
    have made := together_makeDirectory alike settled (absolute _) proper
    have above_settled := settled
    have above_proper := proper
    rw [List.reverse_cons] at above_settled above_proper
    have home := ih alike above_settled.front
      fun part mem => above_proper part (List.mem_append_left _ mem)
    have retried : ∀ {left' right'}, Onward places left right left' right' →
        Together places left right
          (fun left' _ => left'.isDirectory ⟨anchor, (name :: above).reverse⟩ = .ok true)
          (makeDirectoriesFrom.settle left' _ (left'.makeDirectory _))
          (makeDirectoriesFrom.settle right' _ (right'.makeDirectory _)) := fun onward =>
      .of_onward onward ((together_makeDirectory onward.alike (onward.settled _ settled).1
        (absolute _) proper).settle onward.alike)
    have settles := made.settle alike
    rw [makeDirectoriesFrom, makeDirectoriesFrom]
    generalize left.makeDirectory ⟨anchor, (name :: above).reverse⟩ = outcome at made settles
    generalize right.makeDirectory ⟨anchor, (name :: above).reverse⟩ = outcome' at made settles
    match outcome, outcome', made with
    | .ok _, .ok _, _ => exact settles
    | .error fault, .error _, rfl =>
      cases fault with
      | missing =>
        generalize left.makeDirectoriesFrom anchor above = begun at home
        generalize right.makeDirectoriesFrom anchor above = begun' at home
        match begun, begun', home with
        | .ok _, .ok _, ⟨onward, _⟩ => exact retried onward
        | .error _, .error _, same => exact same
      | _ => exact settles

/-- The directories of a path that leads to the same in both file systems can be made in both or in
neither. -/
theorem together_makeDirectories (alike : Alike places left right)
    (settled : Settled places left right path) (absolute : path.isAbsolute = true)
    (proper : path.Proper) :
    Together places left right (fun left' _ => left'.isDirectory path = .ok true)
      (left.makeDirectories path) (right.makeDirectories path) := by
  obtain ⟨anchor, parts⟩ := path
  obtain ⟨reversed, rfl⟩ : ∃ reversed, parts = reversed.reverse :=
    ⟨parts.reverse, parts.reverse_reverse.symm⟩
  unfold makeDirectories
  simp only [List.reverse_reverse]
  exact together_makeDirectoriesFrom (of_decide_eq_true absolute) alike settled proper

/-! ## Removing and touching files -/

/-- A walk to a directory passes directories and links. -/
theorem passed_of_entry {there : Location} (home : fs.node? here = some .directory)
    (led : fs.Leads true budget here names (.entry there .directory)) :
    ∀ location ∈ fs.way budget here names,
      fs.node? location = some .directory ∨ fs.linkAt location ≠ none := by
  generalize ended : Target.entry there .directory = target at led
  induction led with
  | here =>
    rw [way_nil]
    intro location passed
    rw [List.mem_singleton.1 passed]
    exact Or.inl home
  | up _ ih =>
    rw [way_up]
    intro location passed
    rcases List.mem_cons.1 passed with rfl | passed
    · exact Or.inl home
    · exact ih (node?_dropLast home) ended location passed
  | vacant => cases ended
  | directory down _ found _ ih =>
    rw [way_down down, linkAt, found]
    intro location passed
    rcases List.mem_cons.1 passed with rfl | passed
    · exact Or.inl home
    · exact ih found ended location passed
  | file => cases ended
  | link => cases ended
  | behind down _ found _ _ ih =>
    have linked := linkAt_eq_some_iff.2 found
    rw [way_down down, linked]
    intro location passed
    rcases List.mem_cons.1 passed with rfl | passed
    · exact Or.inl home
    rcases List.mem_cons.1 passed with rfl | passed
    · rw [linked]
      exact Or.inr (Option.some_ne_none _)
    · refine ih ?_ ended location passed
      split
      · rfl
      · exact home

/-- A path that goes on behind a directory leads on from there, unless its text is refused. -/
theorem locate_child (followLast : Bool) (directory : Path) (name : String) :
    (∃ fault, fault ≠ .missing ∧ ∀ (fs : FileSystem) location,
      fs.locate true directory = .ok (.entry location .directory) →
        fs.locate followLast (directory.child name) = .error fault) ∨
    ∀ (fs : FileSystem) location,
      fs.locate true directory = .ok (.entry location .directory) → ∃ less,
        fs.locate followLast (directory.child name) = fs.walk followLast less location [name] := by
  by_cases readable : (directory.child name).toString.toList.contains '\x00'
  · refine Or.inl ⟨.nulByte, by simp, fun fs location led => ?_⟩
    rw [locate, if_pos readable]
  by_cases long : pathLimit ≤ byteLength (directory.child name).toString
  · refine Or.inl ⟨.nameTooLong, by simp, fun fs location led => ?_⟩
    rw [locate, if_neg readable, if_pos long]
  refine Or.inr fun fs location led => ?_
  obtain ⟨less, same, -⟩ :=
    walk_append followLast (leads_of_locate led) (List.cons_ne_nil name [])
  refine ⟨less, ?_⟩
  rw [locate, if_neg readable, if_neg long]
  exact same

/-- To remove what is directly inside a directory takes it away, unless it is a directory. -/
theorem remove_last {less : Nat} (plain : name ≠ "..") (short : ¬ nameLimit < byteLength name)
    (led : fs.locate false path = fs.walk false less location [name]) :
    (fs.node? (location ++ [name]) = some .directory → fs.remove path = .error .isDirectory) ∧
      (fs.node? (location ++ [name]) ≠ some .directory →
        ∃ after, fs.remove path = .ok after ∧ Becomes fs after (location ++ [name]) none) := by
  unfold remove
  rw [led, walk_down plain, if_neg short]
  cases found : fs.node? (location ++ [name]) with
  | none => exact ⟨nofun, fun _ => ⟨fs, rfl, rfl, found, fun _ _ => rfl⟩⟩
  | some node =>
    have taken : some node ≠ some .directory →
        Becomes fs (fs.prune (location ++ [name])) (location ++ [name]) none :=
      found ▸ becomes_prune
    cases node with
    | directory =>
      simp only [walk_nil, found]
      exact ⟨fun _ => trivial, fun differs => absurd rfl differs⟩
    | file content executable => exact ⟨nofun, fun differs => ⟨_, rfl, taken differs⟩⟩
    | link target => exact ⟨nofun, fun differs => ⟨_, rfl, taken differs⟩⟩

/-- Where nothing is in a directory, the path passes nothing else than the path of the directory. -/
theorem Settled.child (settled : Settled places left right directory) (plain : name ≠ "..")
    (led : left.locate true directory = .ok (.entry location .directory))
    (nothing : left.node? (location ++ [name]) = none)
    (nothing' : right.node? (location ++ [name]) = none) :
    Settled places left right (directory.child name) := by
  have unlinked : left.linkAt (location ++ [name]) = none := by rw [linkAt, nothing]
  obtain ⟨less, -, passed⟩ :=
    walk_append true (leads_of_locate led) (List.cons_ne_nil name [])
  have last : location ∈ left.wayTo directory :=
    List.mem_of_getLast? (getLast?_way (leads_of_locate led))
  intro other mem
  rcases passed other mem with inside | behind
  · exact settled other inside
  · rw [way_down plain, unlinked] at behind
    simp only [way_nil] at behind
    rcases List.mem_cons.1 behind with rfl | behind
    · exact settled other last
    · rw [List.mem_singleton.1 behind]
      exact ⟨nothing.trans nothing'.symm, fun _ => unlinked⟩

/-- A file that is directly inside a directory can be removed from both file systems or from
neither, and then nothing of its name is left in both. -/
theorem together_remove (alike : Alike places left right)
    (settled : Settled places left right directory) (absolute : directory.isAbsolute = true)
    (made : left.isDirectory directory = .ok true) (plain : name ≠ "..")
    (among : left.aim directory ++ [name] ∈ places) :
    Together places left right
      (fun left' right' => Settled places left' right' (directory.child name))
      (left.remove (directory.child name)) (right.remove (directory.child name)) := by
  obtain ⟨location, led⟩ := isDirectory_eq_true_iff.1 made
  have led' : right.locate true directory = .ok (.entry location .directory) :=
    (settled.shared.locate_eq (start_congr alike.home _) true).symm.trans led
  rw [aim_of_locate led] at among
  rcases locate_child false directory name with ⟨fault, present, refused⟩ | follows
  · unfold remove
    rw [refused left location led, refused right location led']
    cases fault with
    | missing => exact absurd rfl present
    | _ => exact rfl
  obtain ⟨less, follows_left⟩ := follows left location led
  obtain ⟨less', follows_right⟩ := follows right location led'
  by_cases long : nameLimit < byteLength name
  · unfold remove
    rw [follows_left, follows_right, walk_down plain, walk_down plain, if_pos long, if_pos long]
    exact rfl
  obtain ⟨refused, removed⟩ := remove_last plain long follows_left
  obtain ⟨refused', removed'⟩ := remove_last plain long follows_right
  by_cases closed : left.node? (location ++ [name]) = some .directory
  · rw [refused closed, refused' ((alike.directory_iff _).1 closed)]
    exact rfl
  obtain ⟨left', same, there⟩ := removed closed
  obtain ⟨right', same', there'⟩ := removed' (closed ∘ (alike.directory_iff _).2)
  have onward : Onward places left right left' right' :=
    alike.onward there there' nofun fun _ _ => among
  rw [same, same']
  refine ⟨onward, ?_⟩
  -- The directory is still where it was, since the file was not on its way.
  have untouched : ∀ other ∈ left.wayTo directory, left.node? other = left'.node? other := by
    intro other passed
    by_cases here : other = location ++ [name]
    · rw [here] at passed
      have home : left.node? (left.start directory) = some .directory := by
        rw [start, if_pos absolute]
        rfl
      rcases passed_of_entry home (leads_of_locate led) _ passed with found | linked
      · exact absurd found closed
      · exact absurd ((settled _ passed).2 among) linked
    · exact (there.elsewhere other here).symm
  have led_after : left'.locate true directory = .ok (.entry location .directory) :=
    (locate_congr (start_congr there.home.symm _) untouched).trans led
  exact (onward.settled directory settled).1.child plain led_after there.there there'.there

/-- A file that leads to the same in both file systems can be touched in both or in neither. -/
theorem together_touch (alike : Alike places left right)
    (settled : Settled places left right path) (absolute : path.isAbsolute = true)
    (proper : path.Proper) :
    Together places left right (fun _ _ => True) (left.touch path) (right.touch path) := by
  have same := settled.shared.locate_eq (start_congr alike.home _) true
  unfold touch
  rw [← same]
  cases led : left.locate true path with
  | error fault => exact rfl
  | ok target =>
    cases target with
    | entry location node => exact ⟨.refl alike, trivial⟩
    | vacant above name =>
      exact ⟨alike.onward_place absolute proper (fun _ same => nomatch same) led (same ▸ led),
        trivial⟩

end TestImpact.FileSystem
