import Mathlib.Data.List.Induction
import TestImpact.Discovery.Resolver
import TestImpact.Document.Value
import TestImpact.Result

/-!
# Entries under keys

Tables, maps of affected tests and coverage maps are lists of entries to which one is added in the
same way: a known key keeps its place and gets the new value, a new key comes last (`Entries.put`).
So the keys of what is put together entry by entry are those that were given, each at its first
place (`keys_putAll`), and each has the value that was given last (`mem_putAll_iff`).
-/

namespace TestImpact

namespace Entries

variable {α β : Type} [DecidableEq α]

/-- Gives a key a value. A known key keeps its place, a new one comes last. -/
def put (entries : List (α × β)) (key : α) (value : β) : List (α × β) :=
  match entries with
  | [] => [(key, value)]
  | (known, old) :: rest =>
    if known = key then (key, value) :: rest else (known, old) :: put rest key value

/-- The entries that are left when some are put, one after the other. -/
def putAll (given : List (α × β)) : List (α × β) :=
  given.foldl (fun entries entry => put entries entry.1 entry.2) []

theorem keys_put (entries : List (α × β)) (key : α) (value : β) :
    (put entries key value).map Prod.fst =
      if key ∈ entries.map Prod.fst then entries.map Prod.fst
      else entries.map Prod.fst ++ [key] := by
  induction entries with
  | nil => rfl
  | cons entry rest ih =>
    obtain ⟨known, old⟩ := entry
    rw [put]
    by_cases same : known = key
    · simp [same]
    · have differs : key ≠ known := Ne.symm same
      rw [if_neg same, List.map_cons, List.map_cons, ih]
      by_cases later : key ∈ rest.map Prod.fst
      · rw [if_pos later, if_pos (List.mem_cons_of_mem _ later)]
      · rw [if_neg later, if_neg (by simp_all), List.cons_append]

theorem nodup_keys_put {entries : List (α × β)} (distinct : (entries.map Prod.fst).Nodup)
    (key : α) (value : β) : ((put entries key value).map Prod.fst).Nodup := by
  rw [keys_put]
  split
  · exact distinct
  next fresh =>
    refine List.nodup_append.2 ⟨distinct, by simp, fun known listed last mem => ?_⟩
    rw [List.mem_singleton.1 mem]
    rintro rfl
    exact fresh listed

/-- An entry is there after a key is given a value if it is the new one, or an old one of another
key. -/
theorem mem_put_iff {entries : List (α × β)} (distinct : (entries.map Prod.fst).Nodup) {key : α}
    {value : β} {entry : α × β} :
    entry ∈ put entries key value ↔ entry = (key, value) ∨ entry ∈ entries ∧ entry.1 ≠ key := by
  induction entries with
  | nil => simp [put]
  | cons first rest ih =>
    obtain ⟨known, old⟩ := first
    obtain ⟨fresh, distinct⟩ := List.nodup_cons.1 distinct
    rw [put]
    by_cases same : known = key
    · subst same
      have elsewhere : ∀ other ∈ rest, other.1 ≠ known := by
        rintro other mem rfl
        exact fresh (List.mem_map.2 ⟨other, mem, rfl⟩)
      rw [if_pos rfl, List.mem_cons, List.mem_cons]
      grind
    · rw [if_neg same, List.mem_cons, List.mem_cons, ih distinct]
      grind

theorem mem_put {entries : List (α × β)} {key : α} {value : β} {entry : α × β}
    (mem : entry ∈ put entries key value) : entry ∈ entries ∨ entry = (key, value) := by
  induction entries with
  | nil => exact Or.inr (List.mem_singleton.1 mem)
  | cons first rest ih =>
    obtain ⟨known, old⟩ := first
    rw [put] at mem
    split at mem
    · rcases List.mem_cons.1 mem with rfl | later
      · exact Or.inr rfl
      · exact Or.inl (List.mem_cons_of_mem _ later)
    · rcases List.mem_cons.1 mem with rfl | later
      · exact Or.inl List.mem_cons_self
      · exact (ih later).imp (List.mem_cons_of_mem _) id

theorem putAll_concat (given : List (α × β)) (entry : α × β) :
    putAll (given ++ [entry]) = put (putAll given) entry.1 entry.2 := by
  rw [putAll, List.foldl_append]
  rfl

theorem nodup_keys_putAll (given : List (α × β)) : ((putAll given).map Prod.fst).Nodup := by
  induction given using List.reverseRecOn with
  | nil => exact List.nodup_nil
  | append_singleton earlier entry ih =>
    rw [putAll_concat]
    exact nodup_keys_put ih _ _

/-- Each key that was given is there once, at its first place. -/
theorem keys_putAll (given : List (α × β)) :
    (putAll given).map Prod.fst = (given.map Prod.fst).eraseDups := by
  induction given using List.reverseRecOn with
  | nil => rfl
  | append_singleton earlier entry ih =>
    rw [putAll_concat, keys_put, ih, List.map_append, List.eraseDups_append]
    by_cases known : entry.1 ∈ earlier.map Prod.fst
    · simp [known, List.removeAll]
    · simp [known, List.removeAll, List.eraseDups_cons]

/-- Each key has the value that it was given last. -/
theorem mem_putAll_iff {given : List (α × β)} {entry : α × β} :
    entry ∈ putAll given ↔ (given.filter fun other => other.1 = entry.1).getLast? = some entry := by
  induction given using List.reverseRecOn with
  | nil => simp [putAll]
  | append_singleton earlier last ih =>
    rw [putAll_concat, mem_put_iff (nodup_keys_putAll earlier), ih, List.filter_append]
    by_cases same : last.1 = entry.1
    · have kept : ([last].filter fun other => other.1 = entry.1) = [last] := by simp [same]
      rw [kept, List.getLast?_concat, Option.some.injEq, eq_comm]
      exact or_iff_left fun old => old.2 same.symm
    · have differs : entry ≠ last := fun whole => same (congrArg Prod.fst whole.symm)
      simp [same, differs, Ne.symm same]

/-- Each key has the value of the last item that has the key. -/
theorem mem_putAll_map_iff {γ : Type} {keyOf : γ → α} {valueOf : γ → β} {items : List γ} {key : α}
    {value : β} :
    (key, value) ∈ putAll (items.map fun item => (keyOf item, valueOf item)) ↔
      ∃ item, (items.filter fun item => keyOf item = key).getLast? = some item ∧
        valueOf item = value := by
  rw [mem_putAll_iff, List.filter_map, List.getLast?_map, Option.map_eq_some_iff]
  refine exists_congr fun item => and_congr_right fun last => ?_
  have kept := (List.mem_filter.1 (List.mem_of_getLast? last)).2
  simp_all

end Entries

/-! ## The maps of the program -/

theorem Value.put_eq (entries : List (String × Value)) (key : String) (v : Value) :
    Value.put entries key v = Entries.put entries key v := by
  induction entries with
  | nil => rfl
  | cons entry rest ih => rw [Value.put, Entries.put, ih]

theorem Affected.put_eq (affected : Affected) (path : String) (tests : List String) :
    affected.put path tests = Entries.put affected path tests := by
  induction affected with
  | nil => rfl
  | cons entry rest ih => rw [Affected.put, Entries.put, ih]

theorem CoverageMap.put_eq (coverage : CoverageMap) (path : String) (states : List LineState) :
    coverage.put path states = Entries.put coverage path states := by
  induction coverage with
  | nil => rfl
  | cons entry rest ih => rw [CoverageMap.put, Entries.put, ih]

end TestImpact
