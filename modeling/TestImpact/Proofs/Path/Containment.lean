import TestImpact.Proofs.Path.Transplant

/-!
# Containment is the prefix order of segments

The segments of a normalised absolute form are the names of the place that it leads to
(`segments_resolved`), and no `..` is among them. So a path lies within a root exactly if the
segments of the root begin its own, and containment has what prefixes have
(`within_is_prefix_order`).
-/

namespace TestImpact.Lexical

open TestImpact.Path (segments)

variable {cwd path root : String}

/-! ## Normalised forms -/

/-- A path that is given from the root has the same normalised form in every working directory. -/
theorem resolved_of_slash (cwd : String) (slash : (slashed path).toList.head? = some '/') :
    resolved cwd path = "/" ++ "/".intercalate (collapse true (segments (slashed path))) := by
  rw [resolved, absolute_eq, placeOf_of_slash cwd slash, toString_root]

theorem head?_resolved (slash : cwd.toList.head? = some '/') (plain : '\\' ∉ cwd.toList)
    (driveless : hasDrive (slashed path) = false) :
    (resolved cwd path).toList.head? = some '/' := by
  rw [resolved_of_driveless slash plain driveless, String.toList_append]
  rfl

theorem segments_resolved (slash : cwd.toList.head? = some '/') (plain : '\\' ∉ cwd.toList)
    (driveless : hasDrive (slashed path) = false) :
    segments (resolved cwd path) = names cwd path := by
  rw [resolved_of_driveless slash plain driveless,
    Path.segments_slash_intercalate fun _ mem => isSegment_of_mem_names mem]

/-- A normalised form leads where the path leads. -/
theorem names_resolved (slash : cwd.toList.head? = some '/') (plain : '\\' ∉ cwd.toList)
    (driveless : hasDrive (slashed path) = false) :
    names cwd (resolved cwd path) = names cwd path := by
  have begins := head?_resolved slash plain driveless
  have down := parentSegment_notMem_names_of_driveless slash plain driveless
  calc names cwd (resolved cwd path)
      = collapse true (segments (slashed (resolved cwd path))) := names_of_slash cwd begins
    _ = names cwd path := collapse_of_notMem true down

theorem resolved_eq_iff {other : String} (slash : cwd.toList.head? = some '/')
    (plain : '\\' ∉ cwd.toList) (driveless : hasDrive (slashed path) = false)
    (driveless_other : hasDrive (slashed other) = false) :
    resolved cwd path = resolved cwd other ↔ names cwd path = names cwd other := by
  constructor
  · intro same
    rw [names, same, names]
  · intro same
    rw [resolved_of_driveless slash plain driveless, same,
      resolved_of_driveless slash plain driveless_other]

/-- Only the places that two paths lead to decide whether one lies within the other. -/
theorem within_congr {path' root' : String} (same : names cwd path = names cwd path')
    (same_root : names cwd root = names cwd root') :
    within cwd path root = within cwd path' root' := by
  rw [Bool.eq_iff_iff, within_iff, within_iff, same, same_root]

/-! ## Prefixes -/

/-- A name that is longer by some characters is another name. -/
theorem not_prefix_of_extended {above : List String} {name more : String} (some_more : more ≠ "") :
    ¬ above ++ [name] <+: above ++ [name ++ more] := by
  intro begins
  have alike := begins.eq_of_length (by simp)
  have same : name = name ++ more := by simpa using alike
  have lengths := congrArg (fun text => text.toList.length) same
  simp only [String.toList_append, List.length_append] at lengths
  have nothing : more.toList = [] := List.eq_nil_of_length_eq_zero (by omega)
  exact some_more (String.toList_eq_nil_iff.1 nothing)

/-- From a working directory that is given from the root a path lies within a root exactly if the
segments of its normalised form begin with those of the root. So each path lies within itself, what
lies within a path lies within everything that the path lies within, and two paths lie within each
other only if their normalised forms are equal. Next to the root a longer name is outside, and the
top of all directories holds every path. Normalised forms can stand for the paths. -/
theorem within_is_prefix_order (slash : cwd.toList.head? = some '/') (plain : '\\' ∉ cwd.toList)
    (driveless : hasDrive (slashed path) = false)
    (driveless_root : hasDrive (slashed root) = false) :
    (within cwd path root = true ↔
      segments (resolved cwd root) <+: segments (resolved cwd path)) ∧
    within cwd path path = true ∧
    (∀ inner, hasDrive (slashed inner) = false → within cwd inner path = true →
      within cwd path root = true → within cwd inner root = true) ∧
    (within cwd path root = true ∧ within cwd root path = true ↔
      resolved cwd path = resolved cwd root) ∧
    (∀ above name more, segments (resolved cwd root) = above ++ [name] →
      segments (resolved cwd path) = above ++ [name ++ more] → more ≠ "" →
      within cwd path root = false) ∧
    within cwd path "/" = true ∧
    within cwd (resolved cwd path) root = within cwd path root ∧
    within cwd path (resolved cwd root) = within cwd path root := by
  -- With the names in place of the normalised forms everything is about prefixes of lists.
  have ordered : ∀ {inner outer : String}, hasDrive (slashed inner) = false →
      (within cwd inner outer = true ↔ names cwd outer <+: names cwd inner) := fun driveless =>
    within_iff_below (parentSegment_notMem_names_of_driveless slash plain driveless)
  rw [segments_resolved slash plain driveless, segments_resolved slash plain driveless_root]
  refine ⟨ordered driveless, ?_, ?_, ?_, ?_, ?_, ?_, ?_⟩
  · exact (ordered driveless).2 List.prefix_rfl
  · intro inner driveless_inner inside inside_root
    apply (ordered driveless_inner).2
    exact ((ordered driveless).1 inside_root).trans ((ordered driveless_inner).1 inside)
  · rw [resolved_eq_iff slash plain driveless driveless_root, ordered driveless,
      ordered driveless_root]
    constructor
    · intro both
      exact both.2.eq_of_length_le both.1.length_le
    · intro same
      rw [same]
      exact ⟨List.prefix_rfl, List.prefix_rfl⟩
  · intro above name more root_names path_names some_more
    rw [Bool.eq_false_iff]
    intro inside
    have begins := (ordered driveless).1 inside
    rw [root_names, path_names] at begins
    exact not_prefix_of_extended some_more begins
  · apply (ordered driveless).2
    have nothing : names cwd "/" = [] := by
      rw [names_of_slash cwd (by simp), slashed_slash, Path.segments_slash]
      rfl
    rw [nothing]
    exact List.nil_prefix
  · exact within_congr (names_resolved slash plain driveless) rfl
  · exact within_congr rfl (names_resolved slash plain driveless_root)

/-- A file that is spelled with backslashes and detours lies within a relative root, and one in a
directory whose name only begins with dots does not lie above it. -/
theorem within_of_mixed_spellings :
    within "/p" "lib\\..//src/./..a\\B.php" "./src/" = true ∧
      segments (resolved "/p" "./src/") = ["p", "src"] ∧
      segments (resolved "/p" "lib\\..//src/./..a\\B.php") = ["p", "src", "..a", "B.php"] ∧
      within "/p" "./src/" "lib\\..//src/./..a\\B.php" = false := by
  have root_segments : segments (resolved "/p" "./src/") = ["p", "src"] := by decide
  have path_segments : segments (resolved "/p" "lib\\..//src/./..a\\B.php") =
      ["p", "src", "..a", "B.php"] := by
    decide
  obtain ⟨inside_iff, -, -, both_iff, -⟩ := @within_is_prefix_order "/p"
    "lib\\..//src/./..a\\B.php" "./src/" (by decide) (by decide)
    (by decide) (by decide)
  have inside : within "/p" "lib\\..//src/./..a\\B.php" "./src/" = true := by
    apply inside_iff.2
    rw [root_segments, path_segments]
    exact List.prefix_append ["p", "src"] ["..a", "B.php"]
  refine ⟨inside, root_segments, path_segments, ?_⟩
  rw [Bool.eq_false_iff]
  intro back
  have same := congrArg segments (both_iff.1 ⟨inside, back⟩)
  rw [root_segments, path_segments] at same
  cases same

end TestImpact.Lexical
