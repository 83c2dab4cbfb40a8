import TestImpact.Proofs.Path.Containment

/-!
# Canonical roots

A root is spelled with its names alone, each with a slash behind it (`pieces_canonicalRoot`), so it
is canonical whatever the spelling was that it is made from (`IsCanonical`). Its names are those of
the path (`segments_canonicalRoot`). They tell roots apart as they tell absolute forms apart, they
do not change when a root is made canonical again, and containment asks for nothing else. Main
statement: `roots_are_canonical`.
-/

namespace TestImpact

namespace Text

theorem getLast?_dropTrailing (c : Char) (text : List Char) :
    (dropTrailing c text).getLast? ≠ some c := by
  rw [dropTrailing, List.getLast?_reverse]
  intro last
  have kept := List.head?_dropWhile_not (· == c) text.reverse
  rw [last] at kept
  simp at kept

end Text

namespace Lexical

open TestImpact.Path (IsSegment segments)

variable {cwd path : String} {base : Option String}

/-- The absolute form of the directory that relative paths start at. -/
def homeOf (cwd : String) (base : Option String) : String :=
  resolved cwd (base.getD cwd)

/-- A directory that is spelled from the root with names alone, and with one slash behind it. -/
structure IsCanonical (root : String) : Prop where
  slash : root.toList.head? = some '/'
  single : ∃ front, root = front ++ "/" ∧ front.toList.getLast? ≠ some '/'
  /-- Nothing but names stands between the slashes. -/
  names : ∃ names : List String, (∀ name ∈ names, IsSegment name ∧ name ≠ parentSegment) ∧
    Text.pieces '/' root.toList = [] :: (names.map String.toList ++ [[]])

/-! ## The directory that relative paths start at -/

/-- There is a directory that relative paths start at, which is given from the root. -/
structure Grounded (cwd : String) (base : Option String) : Prop where
  slash : cwd.toList.head? = some '/'
  plain : '\\' ∉ cwd.toList
  driveless : ∀ directory, base = some directory → hasDrive (slashed directory) = false

theorem canonicalRoot_eq (plain : '\\' ∉ cwd.toList) (path : String) (base : Option String) :
    canonicalRoot cwd path base =
      withoutTrailingSlashes (resolved (homeOf cwd base) path) ++ "/" := by
  cases base with
  | none => simp only [canonicalRoot, homeOf, resolved, Option.map_none, Option.getD_none,
      slashed_of_notMem plain]
  | some directory => simp only [canonicalRoot, homeOf, resolved, Option.map_some,
      Option.getD_some]

namespace Grounded

variable (grounded : Grounded cwd base)

include grounded

theorem driveless_home : hasDrive (slashed (base.getD cwd)) = false := by
  cases given : base with
  | none => exact hasDrive_of_slash grounded.slash
  | some directory => exact grounded.driveless directory given

theorem head?_home : (homeOf cwd base).toList.head? = some '/' :=
  head?_resolved grounded.slash grounded.plain grounded.driveless_home

theorem notMem_home : '\\' ∉ (homeOf cwd base).toList := by
  have free : ∀ name ∈ names cwd (base.getD cwd), '\\' ∉ name.toList :=
    fun _ mem => notMem_of_mem_names mem
  rw [homeOf, resolved_of_driveless grounded.slash grounded.plain grounded.driveless_home,
    ← toString_root]
  generalize names cwd (base.getD cwd) = parts at free
  exact notMem_toString free

end Grounded

/-! ## The names of a root -/

theorem pieces_intercalate {parts : List String} (proper : ∀ part ∈ parts, IsSegment part)
    (some_part : parts ≠ []) :
    Text.pieces '/' ("/".intercalate parts).toList = parts.map String.toList := by
  induction parts with
  | nil => exact absurd rfl some_part
  | cons part rest ih =>
    obtain ⟨segment, proper_rest⟩ := List.forall_mem_cons.1 proper
    cases rest with
    | nil =>
      rw [String.intercalate_singleton, Text.pieces_of_notMem segment.2.2]
      rfl
    | cons next more =>
      have some_left : next :: more ≠ [] := List.cons_ne_nil _ _
      rw [Path.toList_intercalate_cons part some_left, Text.pieces_append_sep,
        Text.pieces_of_notMem segment.2.2, ih proper_rest some_left]
      rfl

/-- The texts between the slashes of a root are the names, with nothing before and behind. -/
theorem pieces_root {parts : List String} (proper : ∀ part ∈ parts, IsSegment part) :
    Text.pieces '/' (withoutTrailingSlashes ("/" ++ "/".intercalate parts) ++ "/").toList =
      [] :: (parts.map String.toList ++ [[]]) := by
  by_cases top : parts = []
  · rw [top, withoutTrailingSlashes_root]
    rfl
  · have cut : ("/" ++ "/".intercalate parts ++ "/").toList =
        [] ++ '/' :: ("/".intercalate parts).toList ++ '/' :: [] := by
      simp
    rw [withoutTrailingSlashes_intercalate proper top, cut, Text.pieces_append_sep,
      Text.pieces_append_sep, pieces_intercalate proper top]
    rfl

theorem collapse_collapse_append (left right : List String) :
    collapse true (collapse true left ++ right) = collapse true (left ++ right) := by
  rw [(climb_descent right).2.2, (climb_descent right).2.2,
    collapse_of_notMem true (parentSegment_notMem_collapse left)]

/-- Made absolute, the working directory leads where it led. -/
theorem names_homeOf (grounded : Grounded cwd base) (given : base.getD cwd = cwd)
    (driveless : hasDrive (slashed path) = false) :
    names (homeOf cwd base) path = names cwd path := by
  have home : segments (homeOf cwd base) = collapse true (segments cwd) := by
    rw [homeOf, given, segments_resolved grounded.slash grounded.plain
      (hasDrive_of_slash grounded.slash), names_of_slash cwd grounded.slash,
      slashed_of_notMem grounded.plain]
  rw [names_of_driveless grounded.head?_home grounded.notMem_home driveless,
    names_of_driveless grounded.slash grounded.plain driveless, anchored, anchored]
  split
  · rfl
  · rw [Path.segments_append_slash, Path.segments_append_slash, segments_withoutTrailingSlashes,
      segments_withoutTrailingSlashes, home, collapse_collapse_append]

section

variable (grounded : Grounded cwd base) (driveless : hasDrive (slashed path) = false)

include grounded driveless

theorem resolved_home : resolved (homeOf cwd base) path =
    "/" ++ "/".intercalate (names (homeOf cwd base) path) :=
  resolved_of_driveless grounded.head?_home grounded.notMem_home driveless

theorem head?_root : (canonicalRoot cwd path base).toList.head? = some '/' := by
  have begins := head?_resolved grounded.head?_home grounded.notMem_home driveless
  have whole := head?_behind begins ""
  rwa [String.append_empty, ← canonicalRoot_eq grounded.plain] at whole

theorem pieces_canonicalRoot : Text.pieces '/' (canonicalRoot cwd path base).toList =
    [] :: ((names (homeOf cwd base) path).map String.toList ++ [[]]) := by
  rw [canonicalRoot_eq grounded.plain, resolved_home grounded driveless]
  exact pieces_root fun _ mem => isSegment_of_mem_names mem

theorem segments_canonicalRoot :
    segments (canonicalRoot cwd path base) = names (homeOf cwd base) path := by
  have cut := Path.segments_append_slash
    (withoutTrailingSlashes (resolved (homeOf cwd base) path)) ""
  rw [String.append_empty, Path.segments_empty, List.append_nil, segments_withoutTrailingSlashes,
    segments_resolved grounded.head?_home grounded.notMem_home driveless] at cut
  rw [canonicalRoot_eq grounded.plain, cut]

theorem down_names : parentSegment ∉ names (homeOf cwd base) path :=
  parentSegment_notMem_names_of_driveless grounded.head?_home grounded.notMem_home driveless

/-- A root leads to the same names from everywhere. -/
theorem names_canonicalRoot (cwd' : String) :
    names cwd' (canonicalRoot cwd path base) = names (homeOf cwd base) path := by
  have free : ∀ name ∈ names (homeOf cwd base) path, '\\' ∉ name.toList :=
    fun _ mem => notMem_of_mem_names mem
  have proper : ∀ name ∈ names (homeOf cwd base) path, IsSegment name :=
    fun _ mem => isSegment_of_mem_names mem
  rw [names_of_slash cwd' (head?_root grounded driveless), segments_slashed,
    segments_canonicalRoot grounded driveless, flatMap_segments_slashed proper free,
    collapse_of_notMem true (down_names grounded driveless)]

theorem isCanonical_canonicalRoot : IsCanonical (canonicalRoot cwd path base) where
  slash := head?_root grounded driveless
  single := by
    refine ⟨_, canonicalRoot_eq grounded.plain path base, ?_⟩
    rw [withoutTrailingSlashes, String.toList_ofList]
    exact Text.getLast?_dropTrailing '/' _
  names := by
    refine ⟨_, fun name mem => ⟨isSegment_of_mem_names mem, ?_⟩,
      pieces_canonicalRoot grounded driveless⟩
    rintro rfl
    exact down_names grounded driveless mem

/-- A root stays as it is, from wherever it is made canonical again. -/
theorem canonicalRoot_canonicalRoot (cwd' : String) (base' : Option String) :
    canonicalRoot cwd' (canonicalRoot cwd path base) base' = canonicalRoot cwd path base := by
  have begins := head?_root grounded driveless
  have again : ∀ home, resolved home (canonicalRoot cwd path base) =
      resolved (homeOf cwd base) path := by
    intro home
    rw [resolved_of_slash home (head?_slashed begins), ← names_of_slash home begins,
      names_canonicalRoot grounded driveless, resolved_home grounded driveless]
  have spelled : canonicalRoot cwd' (canonicalRoot cwd path base) base' =
      withoutTrailingSlashes (resolved (absolute ((base'.map slashed).getD cwd') cwd')
        (canonicalRoot cwd path base)) ++ "/" := by
    rw [canonicalRoot.eq_def cwd' _ base', resolved]
  rw [spelled, again, ← canonicalRoot_eq grounded.plain]

/-- Roots are the same as far as the absolute forms are that they are made from. -/
theorem canonicalRoot_eq_iff {other : String} (driveless' : hasDrive (slashed other) = false) :
    canonicalRoot cwd path base = canonicalRoot cwd other base ↔
      resolved (homeOf cwd base) path = resolved (homeOf cwd base) other := by
  constructor
  · intro same
    rw [resolved_home grounded driveless, resolved_home grounded driveless',
      ← segments_canonicalRoot grounded driveless, ← segments_canonicalRoot grounded driveless',
      same]
  · intro same
    rw [canonicalRoot_eq grounded.plain, canonicalRoot_eq grounded.plain, same]

theorem canonicalRoot_eq_slash_iff :
    canonicalRoot cwd path base = "/" ↔ resolved (homeOf cwd base) path = "/" := by
  constructor
  · intro bare
    rw [resolved_home grounded driveless, ← segments_canonicalRoot grounded driveless, bare,
      Path.segments_slash]
    rfl
  · intro bare
    rw [canonicalRoot_eq grounded.plain, bare]
    decide +kernel

end

/-- From a working directory and a base directory that lead somewhere below the root, every path
without a drive letter has a canonical root, which is a bare slash only for the root itself. It is
its own root wherever it is read, and two paths have the same root exactly if they have the same
absolute form. Where relative paths start at the working directory, the same lies within a path and
within its root. -/
theorem roots_are_canonical (grounded : Grounded cwd base)
    (driveless : hasDrive (slashed path) = false) :
    IsCanonical (canonicalRoot cwd path base) ∧
    (canonicalRoot cwd path base = "/" ↔ resolved (homeOf cwd base) path = "/") ∧
    (∀ cwd' base', canonicalRoot cwd' (canonicalRoot cwd path base) base' =
      canonicalRoot cwd path base) ∧
    (∀ other, hasDrive (slashed other) = false →
      (canonicalRoot cwd path base = canonicalRoot cwd other base ↔
        resolved (homeOf cwd base) path = resolved (homeOf cwd base) other)) ∧
    (base.getD cwd = cwd → ∀ inner,
      within cwd inner (canonicalRoot cwd path base) = within cwd inner path) := by
  refine ⟨isCanonical_canonicalRoot grounded driveless,
    canonicalRoot_eq_slash_iff grounded driveless, canonicalRoot_canonicalRoot grounded driveless,
    fun other driveless' => canonicalRoot_eq_iff grounded driveless driveless', ?_⟩
  intro given inner
  refine within_congr rfl ?_
  rw [names_canonicalRoot grounded driveless, names_homeOf grounded given driveless]

/-- A root that is spelled with detours, from a base directory with backslashes and a trailing
slash. -/
theorem canonical_of_mixed_spelling :
    canonicalRoot "/p" "./a//..\\B/." (some "lib\\..//src/") = "/p/src/B/" ∧
      IsCanonical "/p/src/B/" ∧
      canonicalRoot "/p" "/p/src/B/" (some "elsewhere") = "/p/src/B/" ∧
      canonicalRoot "/p" "B" (some "lib\\..//src/") = "/p/src/B/" := by
  have grounded : Grounded "/p" (some "lib\\..//src/") :=
    ⟨by decide +kernel, by decide +kernel, fun _ given => Option.some.inj given ▸ by decide +kernel⟩
  have spelled : canonicalRoot "/p" "./a//..\\B/." (some "lib\\..//src/") = "/p/src/B/" := by
    decide +kernel
  obtain ⟨canonical, -, again, same_iff, -⟩ := @roots_are_canonical "/p" "./a//..\\B/."
    (some "lib\\..//src/") grounded (by decide +kernel)
  rw [spelled] at canonical again same_iff
  exact ⟨spelled, canonical, again _ _,
    ((same_iff "B" (by decide +kernel)).2 (by decide +kernel)).symm⟩

end Lexical

end TestImpact
