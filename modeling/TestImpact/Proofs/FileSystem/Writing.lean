import TestImpact.Proofs.FileSystem.Alike
import TestImpact.Proofs.FileSystem.Change

/-!
# Writing the same into two file systems

If the same is written under the same path into two file systems that are alike but for some places,
they stay alike, and every path that led to the same in both still does (`Alike.written`). This
holds also if one of the two refuses to write, since that can happen at such a place only.
-/

namespace TestImpact.FileSystem

variable {fs left right left' right' : FileSystem} {places : Set Location} {location : Location}
  {node node' : Option Node} {path : Path} {content : List UInt8}

/-- The file system after something is written, or as it was if that is refused. -/
def written (fs : FileSystem) (path : Path) (content : List UInt8) : FileSystem :=
  (fs.write path content).toOption.getD fs

/-- Two file systems stay alike, paths keep their ways, and those that led to the same in both keep
doing so. -/
structure Beside (places : Set Location) (left right left' right' : FileSystem) : Prop where
  alike : Alike places left' right'
  ways : ∀ path, left'.wayTo path = left.wayTo path
  shared : ∀ path, Shared left right path → Shared left' right' path

theorem Beside.refl (alike : Alike places left right) : Beside places left right left right :=
  ⟨alike, fun _ => rfl, fun _ shared => shared⟩

/-- Two file systems stay beside each other if one location changes in both, and either the same
comes to stand there, or they differed there, at one of the places, and may still do. -/
theorem Alike.beside (alike : Alike places left right) (there : Becomes left left' location node)
    (there' : Becomes right right' location node') (unlinked : left.linkAt location = none)
    (plain : ∀ target, node ≠ some (.link target))
    (fits : node = node' ∨ location ∈ places ∧ Bare node ∧ Bare node' ∧
      left.node? location ≠ right.node? location) : Beside places left right left' right' := by
  have ways := fun path => there.wayTo_eq path unlinked plain
  refine ⟨⟨?_, fun other => ?_⟩, ways, fun path shared other passed => ?_⟩
  · rw [there.home, there'.home, alike.home]
  · by_cases same : other = location
    · rw [same, there.there, there'.there]
      exact fits.imp id fun ⟨among, bare, bare', _⟩ => ⟨among, bare, bare'⟩
    · rw [there.elsewhere other same, there'.elsewhere other same]
      exact alike.nodes other
  · rw [ways] at passed
    by_cases same : other = location
    · rw [same, there.there, there'.there]
      exact fits.resolve_right fun ⟨_, _, _, differ⟩ => differ (same ▸ shared other passed)
    · rw [there.elsewhere other same, there'.elsewhere other same]
      exact shared other passed

/-- What is put under a vacant name into both file systems leaves them beside each other. -/
theorem Alike.beside_place {above : Location} {name : String} {new : Node}
    (alike : Alike places left right) (closed : left.node? (above ++ [name]) ≠ some .directory)
    (unlinked : left.linkAt (above ++ [name]) = none) (plain : ∀ target, new ≠ .link target) :
    Beside places left right (left.place above name new) (right.place above name new) := by
  by_cases fits : left.node? above = some .directory ∧ isName name = true
  · have home' := (alike.directory_iff above).1 fits.1
    exact alike.beside (becomes_place fits.1 fits.2 closed)
      (becomes_place home' fits.2 (closed ∘ (alike.directory_iff _).2)) unlinked
      (fun target same => plain target (Option.some.inj same)) (Or.inl rfl)
  · rw [place_of_homeless fits, place_of_homeless fun home =>
      fits ⟨(alike.directory_iff above).2 home.1, home.2⟩]
    exact .refl alike

/-- What stands at a place with a file or nothing is a file or nothing after a file is put there. -/
theorem becomes_bare_place {above : Location} {name : String} {executable : Bool}
    (bare : Bare (fs.node? (above ++ [name]))) :
    ∃ node, Bare node ∧ Becomes fs (fs.place above name (.file content executable))
      (above ++ [name]) node := by
  by_cases fits : fs.node? above = some .directory ∧ isName name = true
  · exact ⟨some (.file content executable), trivial, becomes_place fits.1 fits.2 bare.ne_directory⟩
  · rw [place_of_homeless fits]
    exact ⟨_, bare, rfl, rfl, fun _ _ => rfl⟩

/-- A file lies somewhere under a name. -/
theorem eq_concat_of_file {executable : Bool}
    (found : fs.node? location = some (.file content executable)) :
    ∃ above name, location = above ++ [name] := by
  rcases List.eq_nil_or_concat' location with rfl | ⟨above, name, same⟩
  · cases found
  · exact ⟨above, name, same⟩

theorem replaceAt_concat {above : Location} {name : String} {new : Node} :
    fs.replaceAt (above ++ [name]) new = fs.place above name new := by
  rw [replaceAt, List.dropLast_concat, List.getLastD_concat]

/-- Where a walk is fruitless at a place with a file or nothing, a file or nothing is there after
writing, and nothing else changes. -/
theorem becomes_written (bare : Bare (fs.node? location))
    (fruitless : Fruitless location (fs.locate true path)) :
    ∃ node, Bare node ∧ Becomes fs (fs.written path content) location node := by
  unfold written write
  rcases fruitless.cases with led | led | ⟨above, name, led, rfl⟩ | ⟨old, executable, led⟩
  · rw [led]
    exact ⟨_, bare, rfl, rfl, fun _ _ => rfl⟩
  · rw [led]
    exact ⟨_, bare, rfl, rfl, fun _ _ => rfl⟩
  · rw [led]
    exact becomes_bare_place bare
  · rw [led]
    obtain ⟨above, name, rfl⟩ := eq_concat_of_file (node?_of_entry (leads_of_locate led))
    show ∃ node, Bare node ∧ Becomes fs (fs.replaceAt _ (.file content executable)) _ node
    rw [replaceAt_concat]
    exact becomes_bare_place bare

/-- What is written under the same path into both file systems leaves them beside each other. -/
theorem Alike.written (alike : Alike places left right) (path : Path) (content : List UInt8) :
    Beside places left right (left.written path content) (right.written path content) := by
  rcases alike.locate_eq true path with same | ⟨place, among, differ, closed, closed'⟩
  · unfold FileSystem.written write
    rw [← same]
    cases led : left.locate true path with
    | error fault => exact .refl alike
    | ok target =>
      have reached := leads_of_locate led
      cases target with
      | vacant above name =>
        have vacant := node?_of_vacant reached
        refine alike.beside_place (by simp [vacant]) ?_ (by simp)
        rw [linkAt, vacant]
      | entry location node =>
        cases node with
        | file old executable =>
          have found := node?_of_entry reached
          obtain ⟨above, name, rfl⟩ := eq_concat_of_file found
          show Beside places left right (left.replaceAt _ (.file content executable))
            (right.replaceAt _ (.file content executable))
          rw [replaceAt_concat, replaceAt_concat]
          refine alike.beside_place (by simp [found]) ?_ (by simp)
          rw [linkAt, found]
        | directory | link aim => exact .refl alike
  · obtain ⟨-, bare, bare'⟩ := (alike.nodes place).resolve_left differ
    obtain ⟨node, plain, there⟩ := becomes_written bare closed
    obtain ⟨node', plain', there'⟩ := becomes_written bare' closed'
    exact alike.beside there there' bare.linkAt_eq plain.ne_link
      (Or.inr ⟨among, plain, plain', differ⟩)

end TestImpact.FileSystem
