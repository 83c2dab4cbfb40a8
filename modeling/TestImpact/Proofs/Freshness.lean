import Mathlib
import TestImpact.Proofs.Dependency

/-!
# Which packages are stale

A package is told by its name and its version. A locked package is fresh if the last entry with its
name in the installed manifest has its version (`isFresh_eq`). That is to be installed in its
version, unless a later entry with its name has another one: then the package is `Overruled`, and
counts as stale (`stale_unless_overruled`).
-/

namespace TestImpact.Dependency

/-! ## Well-formed package lists -/

/-- A text of a JSON document: characters, or code points that no characters make up. -/
inductive JsonText where
  | string (characters : String)
  | points (codes : List Nat)
  deriving DecidableEq, Repr

/-- The value that is a text. -/
def JsonText.value : JsonText → Value
  | .string characters => .string characters
  | .points codes => .points codes

/-- A package in a version, or in none. -/
structure Release where
  name : JsonText
  version : Option JsonText
  deriving DecidableEq, Repr

/-- An item of a package list stands for a release: it is a table with a text as the name, and with
a text as the version or without a version. -/
def Release.IsOf (release : Release) (item : Value) : Prop :=
  item.field? "name" = some release.name.value ∧
    item.field? "version" = release.version.map JsonText.value

/-- A document is a table with these items under `packages`. Without the key there are none. -/
def ListsUnderKey (document : String) (items : List Value) : Prop :=
  ∃ entries, Json.parse document = .ok (.table entries) ∧
    (Value.get? entries "packages").getD (.list []) = .list items

/-- A document has these items, as a list or under the key of a table. -/
def Lists (document : String) (items : List Value) : Prop :=
  Json.parse document = .ok (.list items) ∨ ListsUnderKey document items

/-- The package that is read for a release. -/
def Release.package (release : Release) : Package :=
  ⟨release.name.value, (release.version.map JsonText.value).getD .null⟩

variable {document lock installed : String} {items : List Value}
  {releases wanted present : List Release}

theorem load_of_parse {manifest : Manifest} {value : Value}
    (parsed : Json.parse document = .ok value) : load manifest document = .ok value := by
  rw [load, parsed]

theorem locked_of_listsUnderKey (lists : ListsUnderKey document items) :
    locked document = packages .lock (.list items) := by
  obtain ⟨entries, parsed, found⟩ := lists
  rw [locked, load_of_parse parsed, ← found]
  rfl

theorem installed_of_lists (lists : Lists document items) :
    Dependency.installed document = packages .installed (.list items) := by
  rcases lists with parsed | ⟨entries, parsed, found⟩
  · rw [Dependency.installed, load_of_parse parsed]
    rfl
  · rw [Dependency.installed, load_of_parse parsed, ← found]
    rfl

theorem Release.IsOf.ofValue? {release : Release} {item : Value} (of : release.IsOf item) :
    Package.ofValue? item = some release.package := by
  rw [Package.ofValue?, of.1, of.2]
  rfl

/-- Well-formed items are read, each as the release it stands for. -/
theorem packages_of_isOf (manifest : Manifest)
    (well_formed : List.Forall₂ Release.IsOf releases items) :
    packages manifest (.list items) = .ok (releases.map Release.package) := by
  have read : items.mapM Package.ofValue? = some (releases.map Release.package) := by
    induction well_formed with
    | nil => rfl
    | cons first _ ih =>
      rw [List.mapM_cons, first.ofValue?, ih]
      rfl
  rw [packages, read]

theorem requireKeys_package (releases : List Release) :
    requireKeys (releases.map Release.package) = .ok () := by
  apply if_pos
  rw [List.all_map, List.all_eq_true]
  intro release _
  obtain ⟨name, version⟩ := release
  cases name <;> rfl

/-! ## Names and versions -/

theorem alike_value (left right : JsonText) :
    Value.alike left.value right.value = decide (left = right) := by
  cases left <;> cases right <;>
    simp [JsonText.value, Value.alike, Value.sameNumber?, Value.asInt?]

/-- Versions are compared as texts, and none is equal to none only. -/
theorem equal_version (left right : Option JsonText) :
    Value.equal ((left.map JsonText.value).getD .null) ((right.map JsonText.value).getD .null) =
      decide (left = right) := by
  rcases left with _ | left <;> rcases right with _ | right
  · simp [Value.equal, Value.alike]
  · cases right <;>
      simp [JsonText.value, Value.equal, Value.alike, Value.sameNumber?, Value.asInt?]
  · cases left <;>
      simp [JsonText.value, Value.equal, Value.alike, Value.sameNumber?, Value.asInt?]
  · have same := alike_value left right
    cases left <;> cases right <;> simpa [JsonText.value, Value.equal] using same

/-- The last entry with a name. -/
def lastNamed (present : List Release) (name : JsonText) : Option Release :=
  (present.filter (·.name = name)).getLast?

theorem versionOf?_package (present : List Release) (name : JsonText) :
    versionOf? (present.map Release.package) name.value =
      (lastNamed present name).map fun release =>
        (release.version.map JsonText.value).getD .null := by
  have asked : (fun package : Package => Value.alike package.name name.value) ∘ Release.package =
      fun release : Release => decide (release.name = name) := by
    funext release
    exact alike_value release.name name
  rw [versionOf?, ← List.map_reverse, List.find?_map, asked, lastNamed, ← List.head?_reverse,
    ← List.filter_reverse, List.head?_filter, Option.map_map]
  rfl

theorem name_of_lastNamed {name : JsonText} {last : Release}
    (found : lastNamed present name = some last) : last ∈ present ∧ last.name = name := by
  obtain ⟨mem, named⟩ := List.mem_filter.1 (List.mem_of_getLast? found)
  exact ⟨mem, of_decide_eq_true named⟩

/-- A locked package is fresh if the last entry with its name has its version. -/
theorem isFresh_eq (present : List Release) (release : Release) :
    isFresh (present.map Release.package) release.package =
      decide (lastNamed present release.name = some release) := by
  have found : versionOf? (present.map Release.package) release.package.name = _ :=
    versionOf?_package present release.name
  rw [isFresh, found]
  cases last : lastNamed present release.name with
  | none => rfl
  | some last_release =>
    have named := (name_of_lastNamed last).2
    rw [Option.map_some]
    simp only
    refine (equal_version last_release.version release.version).trans ?_
    rw [decide_eq_decide, Option.some.injEq]
    constructor
    · intro same
      cases last_release
      cases release
      simp_all
    · intro same
      rw [same]

/-! ## Stale packages -/

/-- A package is installed in its version, but the last entry with its name has another one. -/
def Overruled (present : List Release) (release : Release) : Prop :=
  release ∈ present ∧ lastNamed present release.name ≠ some release

instance (present : List Release) (release : Release) : Decidable (Overruled present release) :=
  inferInstanceAs (Decidable (_ ∧ _))

theorem lastNamed_ne_iff {release : Release} :
    lastNamed present release.name ≠ some release ↔
      release ∉ present ∨ Overruled present release := by
  constructor
  · intro other
    by_cases mem : release ∈ present
    · exact Or.inr ⟨mem, other⟩
    · exact Or.inl mem
  · intro stale found
    rcases stale with absent | overruled
    · exact absent (name_of_lastNamed found).1
    · exact overruled.2 found

/-- Where no name stands twice nothing is overruled. -/
theorem not_overruled_of_nodup (distinct : (present.map Release.name).Nodup) (release : Release) :
    ¬ Overruled present release := by
  intro overruled
  obtain ⟨mem, other⟩ := overruled
  cases last : lastNamed present release.name with
  | none =>
    have nothing := List.getLast?_eq_none_iff.1 last
    exact List.filter_eq_nil_iff.1 nothing release mem (decide_eq_true rfl)
  | some last_release =>
    obtain ⟨listed, named⟩ := name_of_lastNamed last
    rw [List.inj_on_of_nodup_map distinct listed mem named] at last
    exact other last

theorem stale_eq {installedItems : List Value} (lock_lists : ListsUnderKey lock items)
    (lock_items : List.Forall₂ Release.IsOf wanted items)
    (installed_lists : Lists installed installedItems)
    (installed_items : List.Forall₂ Release.IsOf present installedItems) :
    stale lock installed =
      .ok ((wanted.filter fun release => release ∉ present ∨ Overruled present release).map
        fun release => release.name.value) := by
  have kept : (wanted.map Release.package).filter
        (fun package => !isFresh (present.map Release.package) package) =
      (wanted.filter fun release => release ∉ present ∨ Overruled present release).map
        Release.package := by
    rw [List.filter_map]
    refine congrArg _ (List.filter_congr fun release _ => ?_)
    rw [Function.comp_apply, isFresh_eq, ← decide_not, decide_eq_decide]
    exact lastNamed_ne_iff
  rw [stale, locked_of_listsUnderKey lock_lists, packages_of_isOf .lock lock_items,
    installed_of_lists installed_lists, packages_of_isOf .installed installed_items]
  simp only [bind, Except.bind, requireKeys_package, pure, Except.pure, kept, List.map_map]
  rfl

/-- Of a lock file and an installed manifest that are well-formed, the names of the locked packages
are given that are not installed in their version, or are overruled there, in the order of the lock
file and as often as they stand there. So the list is that of the packages that are not installed in
their version exactly if no locked package is overruled, as when no name is installed twice. An
installed manifest may be a list or a table. -/
theorem stale_unless_overruled {installedItems : List Value}
    (lock_lists : ListsUnderKey lock items)
    (lock_items : List.Forall₂ Release.IsOf wanted items)
    (installed_lists : Lists installed installedItems)
    (installed_items : List.Forall₂ Release.IsOf present installedItems) :
    stale lock installed =
      .ok ((wanted.filter fun release => release ∉ present ∨ Overruled present release).map
        fun release => release.name.value) ∧
    (stale lock installed =
        .ok ((wanted.filter fun release => release ∉ present).map
          fun release => release.name.value) ↔
      ∀ release ∈ wanted, ¬ Overruled present release) ∧
    ((present.map Release.name).Nodup → ∀ release ∈ wanted, ¬ Overruled present release) ∧
    ∀ other, Lists other installedItems → stale lock other = stale lock installed := by
  have whole := stale_eq lock_lists lock_items installed_lists installed_items
  refine ⟨whole, ?_, fun distinct release _ => not_overruled_of_nodup distinct release, ?_⟩
  · rw [whole, Except.ok.injEq]
    constructor
    · intro same release mem overruled
      -- An overruled package would make the one list longer than the other.
      have lengths := congrArg List.length same
      have absent : (wanted.filter fun release => release ∉ present) =
          (wanted.filter fun release => release ∉ present ∨ Overruled present release).filter
            fun release => release ∉ present := by
        rw [List.filter_filter]
        refine List.filter_congr fun release _ => ?_
        by_cases listed : release ∈ present <;> simp [listed]
      rw [List.length_map, List.length_map, absent, eq_comm,
        List.length_filter_eq_length_iff] at lengths
      have listed : release ∈ wanted.filter fun release =>
          release ∉ present ∨ Overruled present release :=
        List.mem_filter.2 ⟨mem, decide_eq_true (Or.inr overruled)⟩
      exact of_decide_eq_true (lengths release listed) overruled.1
    · intro fine
      refine congrArg _ (List.filter_congr fun release mem => ?_)
      rw [decide_eq_decide]
      exact or_iff_left (fine release mem)
  · intro other lists
    rw [whole, stale_eq lock_lists lock_items lists installed_items]

/-- The least item that stands for a release. -/
def Release.item (release : Release) : Value :=
  .table (("name", release.name.value) ::
    (release.version.map fun version => ("version", version.value)).toList)

theorem forall₂_isOf_item (releases : List Release) :
    List.Forall₂ Release.IsOf releases (releases.map Release.item) := by
  rw [List.forall₂_map_right_iff, List.forall₂_same]
  intro release _
  obtain ⟨name, version⟩ := release
  cases version <;> exact ⟨rfl, rfl⟩

/-- A package in a version or in none. -/
def release (name : String) (version : Option String) : Release :=
  ⟨.string name, version.map .string⟩

/-- One package twice in its version, and between them one without a version. -/
def lockedTwice : List Release :=
  [release "a" (some "1"), release "b" none, release "a" (some "1")]

/-- The same packages, with a later version of the first one in the last place. -/
def installedTwice : List Release :=
  [release "a" (some "1"), release "b" none, release "a" (some "2")]

/-- A package that is installed in its version counts as stale if a later version follows. -/
theorem stale_of_later_version :
    ∃ lock installed, ListsUnderKey lock (lockedTwice.map Release.item) ∧
      Lists installed (installedTwice.map Release.item) ∧
      lockedTwice.filter (· ∉ installedTwice) = [] ∧
      stale lock installed = .ok [.string "a", .string "a"] := by
  have lock_parsed : Json.parse
      ("\x7b\"packages\": [\x7b\"name\": \"a\", \"version\": \"1\"\x7d, \x7b\"name\": \"b\"\x7d, " ++
        "\x7b\"name\": \"a\", \"version\": \"1\"\x7d]\x7d") =
      .ok (.table [("packages", .list (lockedTwice.map Release.item))]) := by
    cbv
  have installed_parsed : Json.parse
      ("[\x7b\"name\": \"a\", \"version\": \"1\"\x7d, \x7b\"name\": \"b\"\x7d, " ++
        "\x7b\"name\": \"a\", \"version\": \"2\"\x7d]") =
      .ok (.list (installedTwice.map Release.item)) := by
    cbv
  have kept : (lockedTwice.filter fun release =>
      release ∉ installedTwice ∨ Overruled installedTwice release) =
        [release "a" (some "1"), release "a" (some "1")] := by
    decide +kernel
  have lock_lists : ListsUnderKey _ (lockedTwice.map Release.item) := ⟨_, lock_parsed, rfl⟩
  obtain ⟨whole, -⟩ := stale_unless_overruled lock_lists (forall₂_isOf_item lockedTwice)
    (Or.inl installed_parsed) (forall₂_isOf_item installedTwice)
  rw [kept] at whole
  exact ⟨_, _, lock_lists, Or.inl installed_parsed, by decide +kernel, whole⟩

end TestImpact.Dependency
