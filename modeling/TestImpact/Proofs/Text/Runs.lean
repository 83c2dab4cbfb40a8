import Mathlib.Data.List.TakeWhile
import TestImpact.Text.Pieces

/-!
# Runs of characters and first cuts

What a reader takes while characters are of a kind is the longest run of them (`takeWhile_eq_iff`),
and a text is cut at a marker where the marker first occurs (`cutAt_eq_some_iff`).
-/

namespace TestImpact.Text

variable {α : Type} {p : α → Bool} {text run : List α}

/-- The longest run at the beginning of a text goes on up to its end or to the first element that
is not of the kind. -/
theorem takeWhile_eq_iff : text.takeWhile p = run ↔
    ∃ behind, text = run ++ behind ∧ (∀ a ∈ run, p a = true) ∧
      ∀ a, behind.head? = some a → p a = false := by
  constructor
  · rintro rfl
    refine ⟨text.dropWhile p, List.takeWhile_append_dropWhile.symm,
      fun a mem => List.mem_takeWhile_imp mem, fun a first => ?_⟩
    have stops := List.head?_dropWhile_not p text
    rwa [first] at stops
  · rintro ⟨behind, rfl, all, stops⟩
    rw [List.takeWhile_append_of_pos all]
    cases behind with
    | nil => simp
    | cons a rest => simp [stops a rfl]

variable {marker text before behind : List Char}

theorem cutAt_eq_none_iff (nonempty : marker ≠ []) : cutAt marker text = none ↔
    ¬ marker <:+: text := by
  induction text with
  | nil => simp [cutAt, nonempty]
  | cons c rest ih =>
    rw [cutAt, List.infix_cons_iff, not_or, ← ih]
    cases found : after? marker (c :: rest) with
    | none =>
      have absent : ¬ marker <+: c :: rest := by
        rintro ⟨behind, whole⟩
        rw [after?_eq_some_iff.2 whole.symm] at found
        cases found
      simp [absent]
    | some behind =>
      have present : marker <+: c :: rest := ⟨behind, (after?_eq_some_iff.1 found).symm⟩
      simp [present]

/-- A text is cut at the first place where the marker stands. -/
theorem cutAt_eq_some_iff : cutAt marker text = some (before, behind) ↔
    text = before ++ marker ++ behind ∧
      ∀ before' behind', text = before' ++ marker ++ behind' → before.length ≤ before'.length := by
  induction text generalizing before with
  | nil =>
    rw [cutAt]
    split
    next empty =>
      subst empty
      simp only [Option.some.injEq, Prod.mk.injEq, List.append_nil, List.nil_eq,
        List.append_eq_nil_iff]
      exact ⟨fun same => ⟨same, fun _ _ _ => by simp [same.1]⟩, fun same => same.1⟩
    next some_marker => simp [some_marker]
  | cons c rest ih =>
    rw [cutAt]
    cases found : after? marker (c :: rest) with
    | some behind' =>
      have whole := after?_eq_some_iff.1 found
      constructor
      · intro same
        cases same
        exact ⟨by simpa using whole, fun _ _ _ => Nat.zero_le _⟩
      · rintro ⟨whole', least⟩
        have none := least [] behind' (by simpa using whole)
        obtain rfl := List.length_eq_zero_iff.1 (Nat.le_zero.1 none)
        have same : behind' = behind := by simpa using whole.symm.trans whole'
        rw [same]
    | none =>
      have elsewhere : ∀ {before' behind' : List Char}, c :: rest = before' ++ marker ++ behind' →
          ∃ more, before' = c :: more ∧ rest = more ++ marker ++ behind' := by
        intro before' behind' whole
        cases before' with
        | nil =>
          rw [after?_eq_some_iff.2 (by simpa using whole)] at found
          cases found
        | cons d more =>
          obtain ⟨rfl, rest_eq⟩ := List.cons.inj whole
          exact ⟨more, rfl, rest_eq⟩
      constructor
      · intro same
        obtain ⟨⟨more, behind'⟩, cut, same⟩ := Option.map_eq_some_iff.1 same
        cases same
        obtain ⟨whole, least⟩ := ih.1 cut
        refine ⟨by simp [whole], fun before' behind' other => ?_⟩
        obtain ⟨more', rfl, inside⟩ := elsewhere other
        exact Nat.succ_le_succ (least _ _ inside)
      · rintro ⟨whole, least⟩
        obtain ⟨more, rfl, inside⟩ := elsewhere whole
        refine Option.map_eq_some_iff.2
          ⟨(more, behind), ih.2 ⟨inside, fun before' behind' other => ?_⟩, rfl⟩
        exact Nat.le_of_succ_le_succ (least (c :: before') behind' (by simp [other]))

end TestImpact.Text
