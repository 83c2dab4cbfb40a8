import TestImpact.Document.Value
import TestImpact.Proofs.Entries

/-!
# Values at paths of keys

A path of keys leads through tables to a value (`Value.at?`). Where no table on such a path has a
key twice (`Value.Keyed`), a table is what its keys lead to. Putting a value into a table changes
what one key leads to and nothing else (`get?_put`), and keeps the keys apart (`Keyed.put`).
-/

namespace TestImpact.Value

variable {entries : List (String × Value)} {key other : String} {path : List String} {v w : Value}

/-- Is a value a table? -/
def isTable : Value → Bool
  | table _ => true
  | _ => false

/-- The value that a path of keys leads to. The way leads through tables alone. -/
def at? : Value → List String → Option Value
  | v, [] => some v
  | v, key :: rest => (v.field? key).bind fun inner => at? inner rest

/-- No table that a path of keys leads to has a key twice. -/
def Keyed (v : Value) : Prop :=
  ∀ path entries, v.at? path = some (table entries) → (entries.map Prod.fst).Nodup

/-! ## Entries of a table -/

@[simp]
theorem get?_nil (key : String) : get? [] key = none :=
  rfl

theorem get?_cons (name : String) (v : Value) (entries : List (String × Value)) (key : String) :
    get? ((name, v) :: entries) key = if name = key then some v else get? entries key := by
  unfold get?
  rw [List.lookup_cons]
  by_cases same : name = key
  · simp [same]
  · have differs : (key == name) = false := by simpa using Ne.symm same
    rw [differs, if_neg same]

theorem get?_put (entries : List (String × Value)) (key : String) (v : Value) (other : String) :
    get? (put entries key v) other = if key = other then some v else get? entries other := by
  induction entries with
  | nil => rw [put, get?_cons]
  | cons entry rest ih =>
    obtain ⟨name, old⟩ := entry
    rw [put]
    by_cases same : name = key
    · rw [if_pos same, get?_cons, get?_cons, same]
      split <;> rfl
    · rw [if_neg same, get?_cons, get?_cons, ih]
      by_cases here : name = other
      · rw [if_pos here, if_pos here, if_neg fun later => same (here.trans later.symm)]
      · rw [if_neg here, if_neg here]

theorem get?_eq_none_iff : get? entries key = none ↔ key ∉ entries.map Prod.fst := by
  induction entries with
  | nil => simp
  | cons entry rest ih =>
    obtain ⟨name, old⟩ := entry
    rw [get?_cons, List.map_cons, List.mem_cons, not_or, ← ih]
    by_cases same : name = key
    · simp [same]
    · simp [same, Ne.symm same]

theorem mem_of_get? (found : get? entries key = some v) : (key, v) ∈ entries := by
  obtain ⟨before, after, rfl, -⟩ := List.lookup_eq_some_iff.1 found
  exact List.mem_append_right _ List.mem_cons_self

theorem depth_le_of_get? (found : get? entries key = some v) :
    v.depth ≤ depthOfEntries entries := by
  have mem := mem_of_get? found
  clear found
  induction entries with
  | nil => cases mem
  | cons entry rest ih =>
    obtain ⟨name, old⟩ := entry
    rw [depthOfEntries]
    rcases List.mem_cons.1 mem with same | later
    · cases same
      omega
    · have deeper := ih later
      omega

theorem get?_of_mem (distinct : (entries.map Prod.fst).Nodup) (mem : (key, v) ∈ entries) :
    get? entries key = some v := by
  induction entries with
  | nil => cases mem
  | cons entry rest ih =>
    obtain ⟨name, old⟩ := entry
    obtain ⟨fresh, distinct⟩ := List.nodup_cons.1 distinct
    rw [get?_cons]
    rcases List.mem_cons.1 mem with same | later
    · cases same
      rw [if_pos rfl]
    · have differs : name ≠ key := by
        rintro rfl
        exact fresh (List.mem_map.2 ⟨_, later, rfl⟩)
      rw [if_neg differs, ih distinct later]

theorem nodup_keys_put (distinct : (entries.map Prod.fst).Nodup) (key : String) (v : Value) :
    ((put entries key v).map Prod.fst).Nodup := by
  rw [put_eq]
  exact Entries.nodup_keys_put distinct key v

/-! ## Paths -/

@[simp]
theorem at?_nil (v : Value) : v.at? [] = some v := by
  rw [at?]

theorem at?_table_cons (entries : List (String × Value)) (key : String) (rest : List String) :
    (table entries).at? (key :: rest) = (get? entries key).bind fun inner => inner.at? rest := by
  rw [at?]
  rfl

/-- Only tables have something inside. -/
theorem at?_cons_of_not_table (plain : v.isTable = false) (key : String) (rest : List String) :
    v.at? (key :: rest) = none := by
  rw [at?]
  cases v with
  | table entries => cases plain
  | _ => rfl

theorem exists_table_of_isTable (tabular : v.isTable = true) : ∃ entries, v = table entries := by
  cases v with
  | table entries => exact ⟨entries, rfl⟩
  | _ => cases tabular

/-! ## Keys apart -/

theorem keyed_of_not_table (plain : v.isTable = false) : v.Keyed := by
  intro path entries led
  cases path with
  | nil =>
    rw [at?_nil] at led
    cases led
    cases plain
  | cons key rest =>
    rw [at?_cons_of_not_table plain] at led
    cases led

theorem keyed_table_iff : (table entries).Keyed ↔
    (entries.map Prod.fst).Nodup ∧ ∀ key v, get? entries key = some v → v.Keyed := by
  constructor
  · intro keyed
    refine ⟨keyed [] entries (at?_nil _), fun key v found path inner led => ?_⟩
    refine keyed (key :: path) inner ?_
    rw [at?_table_cons, found]
    exact led
  · rintro ⟨distinct, inside⟩ path inner led
    cases path with
    | nil =>
      rw [at?_nil] at led
      cases led
      exact distinct
    | cons key rest =>
      rw [at?_table_cons] at led
      obtain ⟨v, found, led⟩ := Option.bind_eq_some_iff.1 led
      exact inside key v found rest inner led

theorem keyed_empty : (table []).Keyed :=
  keyed_table_iff.2 ⟨List.nodup_nil, fun _ _ found => nomatch found⟩

theorem Keyed.put (keyed : (table entries).Keyed) (inside : v.Keyed) (key : String) :
    (table (Value.put entries key v)).Keyed := by
  obtain ⟨distinct, each⟩ := keyed_table_iff.1 keyed
  refine keyed_table_iff.2 ⟨nodup_keys_put distinct key v, fun other w found => ?_⟩
  rw [get?_put] at found
  split at found
  · cases found
    exact inside
  · exact each other w found

theorem Keyed.filter (keyed : (table entries).Keyed) (kept : String × Value → Bool) :
    (table (entries.filter kept)).Keyed := by
  obtain ⟨distinct, each⟩ := keyed_table_iff.1 keyed
  refine keyed_table_iff.2 ⟨distinct.sublist (List.filter_sublist.map _), fun key v found => ?_⟩
  have listed := (List.mem_filter.1 (mem_of_get? found)).1
  exact each key v (get?_of_mem distinct listed)

theorem Keyed.get? (keyed : (table entries).Keyed) (found : Value.get? entries key = some v) :
    v.Keyed :=
  (keyed_table_iff.1 keyed).2 key v found

end TestImpact.Value
