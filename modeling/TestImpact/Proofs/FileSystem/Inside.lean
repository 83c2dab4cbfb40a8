import TestImpact.Proofs.FileSystem.Change

/-!
# What lies inside a directory

An entry lies inside a directory if directories lead to it, one name after the other, and none of
them is entered through a link (`Inside`). These are the entries whose locations go on behind the
location of the directory (`inside_iff`), so the files below a directory are those that lie inside
it (`mem_filesBelow_iff_inside`).

From a path to a directory the same names lead to the entry (`walk_inside`), whatever links the path
itself follows, as long as the system takes the longer path (`locate_inside_iff`). It may not: a
detour that goes up at the root leads on as if it were not there, but it counts (`locate_detour`).
-/

namespace TestImpact.FileSystem

variable {fs : FileSystem} {here location : Location} {node : Node} {names : List String}
  {directory path : Path} {followLast : Bool} {budget : Nat}

/-- Names lead from a location to an entry through directories, and through no link. -/
inductive Inside (fs : FileSystem) : Location → List String → Node → Prop
  | entry {here : Location} {name : String} {node : Node} :
      fs.node? (here ++ [name]) = some node → Inside fs here [name] node
  | enter {here : Location} {name : String} {rest : List String} {node : Node} :
      fs.node? (here ++ [name]) = some .directory → Inside fs (here ++ [name]) rest node →
      Inside fs here (name :: rest) node

theorem inside_iff : fs.Inside here names node ↔
    names ≠ [] ∧ fs.node? (here ++ names) = some node := by
  constructor
  · intro inside
    induction inside with
    | entry found => exact ⟨List.cons_ne_nil _ _, found⟩
    | enter _ _ ih =>
      refine ⟨List.cons_ne_nil _ _, ?_⟩
      rw [← ih.2, List.append_assoc, List.singleton_append]
  · rintro ⟨some_name, found⟩
    induction names generalizing here with
    | nil => exact absurd rfl some_name
    | cons name rest ih =>
      rcases eq_or_ne rest [] with rfl | more
      · exact .entry found
      · rw [List.append_cons] at found
        refine .enter ?_ (ih more found)
        -- What stands below a location stands in a directory.
        by_contra closed
        have nothing := none_below closed (List.prefix_append _ rest) (by simpa using more)
        rw [nothing] at found
        cases found

/-- The names on the way into a directory are names that a directory can hold. -/
theorem Inside.isName (inside : fs.Inside here names node) : ∀ name ∈ names, isName name = true :=
  fun name mem => isName_of_node? (inside_iff.1 inside).2 name (List.mem_append_right _ mem)

/-- The files below a directory are the entries inside it that are no directory and do not lead to
one. -/
theorem mem_filesBelow_iff_inside (home : fs.node? location = some .directory) :
    names ∈ fs.filesBelow location ↔
      ∃ node, fs.Inside location names node ∧
        fs.leadsToDirectory (location ++ names) node = false := by
  rw [mem_filesBelow_iff]
  refine exists_congr fun node => and_congr_left fun plain => ?_
  rw [inside_iff, mem_entries_iff]
  refine and_congr_left fun found => ?_
  constructor
  · rintro - rfl
    rw [List.append_nil, home] at found
    cases found
    cases plain
  · exact fun some_name => List.append_ne_nil_of_right_ne_nil _ some_name

/-! ## Paths into a directory -/

/-- The system takes a path that ends with some names: neither the path nor one of the names is too
long, and no NUL stands in it. -/
structure Accepts (path : Path) (names : List String) : Prop where
  free : '\x00' ∉ path.toString.toList
  short : byteLength path.toString < pathLimit
  names_short : ∀ name ∈ names, byteLength name ≤ nameLimit

instance (path : Path) (names : List String) : Decidable (Accepts path names) :=
  decidable_of_iff
    ('\x00' ∉ path.toString.toList ∧ byteLength path.toString < pathLimit ∧
      ∀ name ∈ names, byteLength name ≤ nameLimit)
    ⟨fun taken => ⟨taken.1, taken.2.1, taken.2.2⟩,
      fun taken => ⟨taken.free, taken.short, taken.names_short⟩⟩

/-- Names that lead to an entry inside a directory lead there in a walk, if none is too long. A link
at the end is the entry itself unless it is followed. -/
theorem walk_inside (inside : fs.Inside here names node)
    (ends : ∀ target, node = .link target → followLast = false) :
    fs.walk followLast budget here names = .ok (.entry (here ++ names) node) ↔
      ∀ name ∈ names, byteLength name ≤ nameLimit := by
  have plain := inside.isName
  induction inside with
  | @entry here name node found =>
    have down : name ≠ ".." := (isSegment_of_isName (plain name List.mem_cons_self)).2
    rw [walk_down down, List.forall_mem_singleton]
    by_cases long : nameLimit < byteLength name
    · rw [if_pos long]
      exact iff_of_false (fun led => nomatch led) (Nat.not_le.2 long)
    · rw [if_neg long, found]
      refine iff_of_true ?_ (Nat.not_lt.1 long)
      cases node with
      | directory => simp only [walk_nil, found]
      | file content executable => rfl
      | link target => simp [ends target rfl]
  | @enter here name rest node found inside ih =>
    have down : name ≠ ".." := (isSegment_of_isName (plain name List.mem_cons_self)).2
    rw [walk_down down, List.forall_mem_cons]
    by_cases long : nameLimit < byteLength name
    · rw [if_pos long]
      exact iff_of_false (fun led => nomatch led) fun short => Nat.not_le.2 long short.1
    · rw [if_neg long, found, and_iff_right (Nat.not_lt.1 long)]
      have later := ih ends fun other mem => plain other (List.mem_cons_of_mem _ mem)
      rw [List.append_assoc, List.singleton_append] at later
      exact later

/-- A path that goes on behind a directory leads to what lies inside the directory under these
names, exactly if the system takes it. -/
theorem locate_inside_iff (led : fs.locate true directory = .ok (.entry location .directory))
    (begun : fs.start path = fs.start directory) (parts : path.parts = directory.parts ++ names)
    (inside : fs.Inside location names node)
    (ends : ∀ target, node = .link target → followLast = false) :
    fs.locate followLast path = .ok (.entry (location ++ names) node) ↔ Accepts path names := by
  obtain ⟨less, onward, -⟩ :=
    walk_append followLast (leads_of_locate led) (inside_iff.1 inside).1
  unfold locate
  dsimp only
  by_cases nul : path.toString.toList.contains '\x00' = true
  · rw [if_pos nul]
    exact iff_of_false (fun same => nomatch same)
      fun taken => taken.free (List.contains_iff_mem.1 nul)
  by_cases long : pathLimit ≤ byteLength path.toString
  · rw [if_neg nul, if_pos long]
    exact iff_of_false (fun same => nomatch same) fun taken => Nat.not_lt.2 long taken.short
  rw [if_neg nul, if_neg long, begun, parts, onward, walk_inside inside ends]
  exact ⟨fun short => ⟨fun mem => nul (List.contains_iff_mem.2 mem), Nat.not_le.1 long, short⟩,
    fun taken => taken.names_short⟩

/-- The directory that a path leads to. -/
theorem node?_of_locate (led : fs.locate followLast path = .ok (.entry location node)) :
    fs.node? location = some node :=
  node?_of_entry (leads_of_locate led)

/-! ## Detours at the root -/

theorem toString_up {parts : List String} (more : parts ≠ []) :
    (⟨.root, ".." :: parts⟩ : Path).toString = "/.." ++ (⟨.root, parts⟩ : Path).toString := by
  rw [Path.toString_of_parts (List.cons_ne_nil _ _), Path.toString_of_parts more,
    ← List.singleton_append, String.intercalate_append_of_ne_nil (List.cons_ne_nil _ _) more,
    String.intercalate_singleton]
  show "/" ++ (".." ++ "/" ++ "/".intercalate parts) = "/.." ++ ("/" ++ "/".intercalate parts)
  rw [← String.append_assoc, ← String.append_assoc, ← String.append_assoc]
  rfl

theorem toString_detour (count : Nat) {parts : List String} (more : parts ≠ [])
    (free : '\x00' ∉ (⟨.root, parts⟩ : Path).toString.toList) :
    '\x00' ∉ (⟨.root, List.replicate count ".." ++ parts⟩ : Path).toString.toList ∧
      byteLength (⟨.root, List.replicate count ".." ++ parts⟩ : Path).toString =
        3 * count + byteLength (⟨.root, parts⟩ : Path).toString := by
  induction count with
  | zero => exact ⟨free, (Nat.zero_add _).symm⟩
  | succ count ih =>
    have behind : List.replicate count ".." ++ parts ≠ [] :=
      List.append_ne_nil_of_right_ne_nil _ more
    have up : byteLength "/.." = 3 := by decide
    rw [List.replicate_succ, List.cons_append, toString_up behind, String.toList_append,
      byteLength_append, ih.2, up, List.mem_append, not_or]
    exact ⟨⟨by decide, ih.1⟩, by omega⟩

/-- Above the root is the root, so a detour up from there leads nowhere else. The path grows by it,
until it is too long. -/
theorem locate_detour (fs : FileSystem) (count : Nat) {parts : List String} (more : parts ≠ [])
    (free : '\x00' ∉ (⟨.root, parts⟩ : Path).toString.toList) :
    fs.locate followLast ⟨.root, List.replicate count ".." ++ parts⟩ =
      if pathLimit ≤ 3 * count + byteLength (⟨.root, parts⟩ : Path).toString then
        .error .nameTooLong
      else fs.walk followLast linkLimit [] parts := by
  obtain ⟨free, length⟩ := toString_detour count more free
  have stays : fs.walk followLast linkLimit [] (List.replicate count ".." ++ parts) =
      fs.walk followLast linkLimit [] parts := by
    clear free length
    induction count with
    | zero => rfl
    | succ count ih =>
      rw [List.replicate_succ, List.cons_append, walk_up]
      exact ih
  have begun : fs.start ⟨.root, List.replicate count ".." ++ parts⟩ = [] := by
    rw [start]
    exact if_pos rfl
  unfold locate
  dsimp only
  rw [if_neg fun nul => free (List.contains_iff_mem.1 nul), length, begun, stays]

end TestImpact.FileSystem
