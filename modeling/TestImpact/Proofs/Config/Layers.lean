import Mathlib.Data.List.Induction
import TestImpact.Config.Load
import TestImpact.Proofs.Config.Variables
import TestImpact.Proofs.Document.Toml
import TestImpact.Proofs.SmallProject

/-!
# Which layer a setting comes from

A layer settles a path of keys when it has a value there that is no table, and hides it when it has
anything there or a value that is no table on the way. What a layer laid over a value settles is
what it settles itself and what the value settles and the layer does not hide
(`settles_overlay_iff`). By induction on the layers, a path is settled by the last one that settles
it, unless a later layer hides it (`settles_mergeAll_iff`), and the layers of a configuration are no
exception (`Config.last_layer_decides`).
-/

namespace TestImpact

namespace Value

/-- A value that is no table lies at a path. -/
def Settles (v : Value) (path : List String) (w : Value) : Prop :=
  v.at? path = some w ∧ w.isTable = false

/-- A table lies at a path, or a value that is no table lies there or on the way. -/
def Hides (v : Value) (path : List String) : Prop :=
  (∃ entries, v.at? path = some (table entries)) ∨ ∃ front w, front <+: path ∧ v.Settles front w

variable {entries : List (String × Value)} {v w : Value} {key : String} {path : List String}

theorem not_settles_nil (entries : List (String × Value)) (w : Value) :
    ¬ (table entries).Settles [] w := by
  rintro ⟨same, plain⟩
  rw [at?_nil] at same
  cases same
  cases plain

theorem settles_cons_iff : (table entries).Settles (key :: path) w ↔
    ∃ inner, get? entries key = some inner ∧ inner.Settles path w := by
  unfold Settles
  rw [at?_table_cons, Option.bind_eq_some_iff]
  constructor
  · rintro ⟨⟨inner, found, led⟩, plain⟩
    exact ⟨inner, found, led, plain⟩
  · rintro ⟨inner, found, led, plain⟩
    exact ⟨⟨inner, found, led⟩, plain⟩

/-- What is no table has nothing inside. -/
theorem not_settles_cons (plain : v.isTable = false) : ¬ v.Settles (key :: path) w := by
  rintro ⟨led, -⟩
  rw [at?_cons_of_not_table plain] at led
  cases led

theorem hides_of_not_table (plain : v.isTable = false) (path : List String) : v.Hides path :=
  .inr ⟨[], v, List.nil_prefix, at?_nil v, plain⟩

theorem hides_nil (entries : List (String × Value)) : (table entries).Hides [] :=
  .inl ⟨entries, at?_nil _⟩

theorem hides_cons_iff : (table entries).Hides (key :: path) ↔
    ∃ inner, get? entries key = some inner ∧ inner.Hides path := by
  constructor
  · rintro (⟨below, led⟩ | ⟨front, w, under, settled⟩)
    · rw [at?_table_cons] at led
      obtain ⟨inner, found, led⟩ := Option.bind_eq_some_iff.1 led
      exact ⟨inner, found, .inl ⟨below, led⟩⟩
    · cases front with
      | nil => exact absurd settled (not_settles_nil entries w)
      | cons first front =>
        obtain ⟨same, under⟩ := List.cons_prefix_cons.1 under
        obtain ⟨inner, found, settled⟩ := settles_cons_iff.1 (same ▸ settled)
        exact ⟨inner, found, .inr ⟨front, w, under, settled⟩⟩
  · rintro ⟨inner, found, ⟨below, led⟩ | ⟨front, w, under, settled⟩⟩
    · refine .inl ⟨below, ?_⟩
      rw [at?_table_cons, found]
      exact led
    · exact .inr ⟨key :: front, w, List.cons_prefix_cons.2 ⟨rfl, under⟩,
        settles_cons_iff.2 ⟨inner, found, settled⟩⟩

end Value

namespace Layers

open Value

variable {base laid : List (String × Value)} {below : Option Value} {v w : Value}
  {path : List String} {layers : List (List (String × Value))}

theorem overlay_of_not_table (plain : v.isTable = false) : overlay below v = v := by
  cases v with
  | table entries => cases plain
  | _ => rw [overlay]; simp

theorem overlay_table_table (lower laid : List (String × Value)) :
    overlay (some (table lower)) (table laid) = table (merge lower laid) := by
  rw [overlay]

theorem overlay_table_of_not_table (plain : ∀ lower, below ≠ some (table lower)) :
    overlay below (table laid) = table laid := by
  rw [overlay]
  exact plain

theorem exists_overlay_table (below : Option Value) (laid : List (String × Value)) :
    ∃ entries, overlay below (table laid) = table entries := by
  by_cases tables : ∃ lower, below = some (table lower)
  · obtain ⟨lower, rfl⟩ := tables
    exact ⟨_, overlay_table_table lower laid⟩
  · exact ⟨laid, overlay_table_of_not_table fun lower same => tables ⟨lower, same⟩⟩

/-- A key of the upper table has its value there laid over the one below; any other key keeps its
value. -/
theorem get?_merge (distinct : (laid.map Prod.fst).Nodup) (key : String) :
    get? (merge base laid) key =
      match get? laid key with
      | none => get? base key
      | some v => some (overlay (get? base key) v) := by
  induction laid generalizing base with
  | nil => rw [merge, get?_nil]
  | cons entry rest ih =>
    obtain ⟨name, v⟩ := entry
    obtain ⟨fresh, distinct⟩ := List.nodup_cons.1 distinct
    rw [merge, ih distinct, get?_cons, get?_put]
    by_cases same : name = key
    · subst same
      rw [if_pos rfl, if_pos rfl, get?_eq_none_iff.2 fresh]
    · rw [if_neg same, if_neg same]

/-- A value laid over another settles what it settles itself, and leaves what it does not hide. -/
theorem settles_overlay_iff (keyed : v.Keyed) : (overlay below v).Settles path w ↔
    v.Settles path w ∨ (∃ lower, below = some lower ∧ lower.Settles path w) ∧ ¬ v.Hides path := by
  induction path generalizing below v with
  | nil =>
    have hidden : v.Hides [] := by
      cases tabular : v.isTable with
      | false => exact hides_of_not_table tabular []
      | true =>
        obtain ⟨laid, rfl⟩ := exists_table_of_isTable tabular
        exact hides_nil laid
    refine Iff.trans ?_ (or_iff_left fun left => left.2 hidden).symm
    cases tabular : v.isTable with
    | false => rw [overlay_of_not_table tabular]
    | true =>
      obtain ⟨laid, rfl⟩ := exists_table_of_isTable tabular
      obtain ⟨entries, same⟩ := exists_overlay_table below laid
      rw [same]
      exact iff_of_false (not_settles_nil _ w) (not_settles_nil _ w)
  | cons key rest ih =>
    cases tabular : v.isTable with
    | false =>
      rw [overlay_of_not_table tabular]
      exact (or_iff_left fun left => left.2 (hides_of_not_table tabular _)).symm
    | true =>
      obtain ⟨laid, rfl⟩ := exists_table_of_isTable tabular
      by_cases tables : ∃ lower, below = some (table lower)
      · obtain ⟨lower, rfl⟩ := tables
        have atKey : (∃ under, some (table lower) = some under ∧ under.Settles (key :: rest) w) ↔
            ∃ under, get? lower key = some under ∧ under.Settles rest w := by
          simp [settles_cons_iff]
        rw [overlay_table_table, atKey, settles_cons_iff, settles_cons_iff, hides_cons_iff,
          get?_merge (keyed_table_iff.1 keyed).1]
        cases found : get? laid key with
        | none => simp
        | some inner => simp [ih (keyed.get? found)]
      · have plain : ∀ lower, below ≠ some (table lower) := fun lower same =>
          tables ⟨lower, same⟩
        rw [overlay_table_of_not_table plain]
        refine (or_iff_left ?_).symm
        rintro ⟨⟨under, rfl, settled⟩, -⟩
        refine not_settles_cons ?_ settled
        cases tabular : under.isTable with
        | false => rfl
        | true =>
          obtain ⟨lower, rfl⟩ := exists_table_of_isTable tabular
          exact absurd rfl (plain lower)

theorem at?_overlay_eq_none (keyed : v.Keyed) (absent : v.at? path = none)
    (absent' : ∀ lower, below = some lower → lower.at? path = none) :
    (overlay below v).at? path = none := by
  induction path generalizing below v with
  | nil =>
    rw [at?_nil] at absent
    cases absent
  | cons key rest ih =>
    cases tabular : v.isTable with
    | false => rw [overlay_of_not_table tabular, absent]
    | true =>
      obtain ⟨laid, rfl⟩ := exists_table_of_isTable tabular
      by_cases tables : ∃ lower, below = some (table lower)
      · obtain ⟨lower, rfl⟩ := tables
        have under := absent' _ rfl
        rw [at?_table_cons] at absent under
        rw [overlay_table_table, at?_table_cons, get?_merge (keyed_table_iff.1 keyed).1]
        cases found : get? laid key with
        | none => exact under
        | some inner =>
          rw [found] at absent
          refine ih (keyed.get? found) absent fun deeper same => ?_
          rw [same] at under
          exact under
      · rw [overlay_table_of_not_table fun lower same => tables ⟨lower, same⟩, absent]

/-- Which path a merge of layers settles, and with what. -/
theorem settles_mergeAll_iff (keyed : ∀ layer ∈ layers, (table layer).Keyed) :
    (table (mergeAll layers)).Settles path w ↔
      ∃ earlier layer later, layers = earlier ++ layer :: later ∧
        (table layer).Settles path w ∧ ∀ higher ∈ later, ¬ (table higher).Hides path := by
  induction layers using List.reverseRecOn with
  | nil =>
    refine iff_of_false (fun settled => ?_) (by simp)
    cases path with
    | nil => exact not_settles_nil _ w settled
    | cons key rest =>
      obtain ⟨inner, found, -⟩ := settles_cons_iff.1 settled
      cases found
  | append_singleton layers top ih =>
    have lower := ih fun layer mem => keyed layer (List.mem_append_left _ mem)
    have law : (overlay (some (table (mergeAll layers))) (table top)).Settles path w ↔ _ :=
      settles_overlay_iff (keyed top (List.mem_append_right _ List.mem_cons_self))
    rw [overlay_table_table] at law
    have merged : mergeAll (layers ++ [top]) = merge (mergeAll layers) top := by
      rw [mergeAll, List.foldl_append]
      rfl
    rw [merged, law]
    constructor
    · rintro (settled | ⟨⟨_, same, settled⟩, clear⟩)
      · exact ⟨layers, top, [], rfl, settled, fun _ mem => nomatch mem⟩
      · cases same
        obtain ⟨earlier, layer, later, rfl, settles, above⟩ := lower.1 settled
        refine ⟨earlier, layer, later ++ [top], by simp, settles, fun higher mem => ?_⟩
        rcases List.mem_append.1 mem with mem | mem
        · exact above higher mem
        · rwa [List.mem_singleton.1 mem]
    · rintro ⟨earlier, layer, later, whole, settles, above⟩
      rcases List.eq_nil_or_concat later with rfl | ⟨later, last, rfl⟩
      · obtain ⟨-, same⟩ := List.append_inj' whole rfl
        cases same
        exact .inl settles
      · rw [List.concat_eq_append, ← List.cons_append, ← List.append_assoc] at whole
        obtain ⟨rfl, same⟩ := List.append_inj' whole rfl
        cases same
        refine .inr ⟨⟨_, rfl, lower.2 ⟨earlier, layer, later, rfl, settles, fun higher mem => ?_⟩⟩,
          above top (by simp)⟩
        exact above higher (by simp [mem])

theorem at?_mergeAll_eq_none (some_layer : layers ≠ [])
    (keyed : ∀ layer ∈ layers, (table layer).Keyed)
    (absent : ∀ layer ∈ layers, (table layer).at? path = none) :
    (table (mergeAll layers)).at? path = none := by
  have nonempty : path ≠ [] := by
    rintro rfl
    obtain ⟨layer, mem⟩ := List.exists_mem_of_ne_nil layers some_layer
    have empty := absent layer mem
    rw [at?_nil] at empty
    cases empty
  clear some_layer
  induction layers using List.reverseRecOn with
  | nil =>
    obtain ⟨key, rest, rfl⟩ := List.exists_cons_of_ne_nil nonempty
    rfl
  | append_singleton layers top ih =>
    have lower := ih (fun layer mem => keyed layer (List.mem_append_left _ mem))
      fun layer mem => absent layer (List.mem_append_left _ mem)
    have mem : top ∈ layers ++ [top] := List.mem_append_right _ List.mem_cons_self
    have upper : (overlay (some (table (mergeAll layers))) (table top)).at? path = none :=
      at?_overlay_eq_none (keyed top mem) (absent top mem)
        fun _ same => Option.some.inj same ▸ lower
    rw [overlay_table_table] at upper
    rw [mergeAll, List.foldl_append]
    exact upper

end Layers

namespace Config

open Value (Keyed Settles Hides keyed_empty keyed_table_iff)

variable {fs : FileSystem} {root : Path} {env : Variables.Environment}
  {overrides entries merged : List (String × Value)}

/-- The settings in the shared file. -/
def sharedTable (fs : FileSystem) (root : Path) : Except Failure (List (String × Value)) :=
  (readFile fs (root / sharedFile)).map fun entries => tableAt (tableAt entries "tool") "unitrun"

/-- The layers of a configuration, the lowest first. -/
def layers (env : Variables.Environment) (shared own overrides : List (String × Value)) :
    List (List (String × Value)) :=
  [Variables.expandEntries env shared, Variables.expandEntries env own, switchLayer env,
    overrideLayer overrides]

theorem expanded_eq_ok_iff : expanded env entries = .ok merged ↔
    (Value.table entries).depth ≤ nestingLimit ∧ merged = Variables.expandEntries env entries := by
  unfold expanded
  split
  next deep =>
    refine iff_of_false (fun same => nomatch same) fun shallow => ?_
    omega
  next shallow =>
    rw [Except.ok.injEq]
    exact ⟨fun same => ⟨by omega, same.symm⟩, fun same => same.2.symm⟩

theorem expanded_eq_error_iff {failure : Failure} : expanded env entries = .error failure ↔
    nestingLimit < (Value.table entries).depth ∧ failure = .tooDeep := by
  unfold expanded
  split
  next deep => rw [Except.error.injEq, and_iff_right deep, eq_comm]
  next shallow => exact iff_of_false (fun same => nomatch same) fun deep => shallow deep.1

theorem sharedLayer_eq (fs : FileSystem) (root : Path) (env : Variables.Environment) :
    sharedLayer fs root env = sharedTable fs root >>= expanded env := by
  rw [sharedLayer, sharedTable]
  cases readFile fs (root / sharedFile) <;> rfl

theorem ownLayer_eq (fs : FileSystem) (root : Path) (env : Variables.Environment) :
    ownLayer fs root env = readFile fs (root / ownFile) >>= expanded env :=
  rfl

/-- The document is the merge of the layers, unless a file cannot be read or is nested too deep. -/
theorem document_eq_ok_iff : document fs root env overrides = .ok merged ↔
    ∃ shared own, sharedTable fs root = .ok shared ∧ readFile fs (root / ownFile) = .ok own ∧
      (Value.table shared).depth ≤ nestingLimit ∧ (Value.table own).depth ≤ nestingLimit ∧
      merged = Layers.mergeAll (layers env shared own overrides) := by
  rw [document, sharedLayer_eq, ownLayer_eq]
  constructor
  · intro loaded
    obtain ⟨lower, sharedLoaded, loaded⟩ := of_bind_ok loaded
    obtain ⟨upper, ownLoaded, loaded⟩ := of_bind_ok loaded
    obtain ⟨shared, sharedRead, sharedExpanded⟩ := of_bind_ok sharedLoaded
    obtain ⟨own, ownRead, ownExpanded⟩ := of_bind_ok ownLoaded
    obtain ⟨sharedShallow, rfl⟩ := expanded_eq_ok_iff.1 sharedExpanded
    obtain ⟨ownShallow, rfl⟩ := expanded_eq_ok_iff.1 ownExpanded
    exact ⟨shared, own, sharedRead, ownRead, sharedShallow, ownShallow, (Except.ok.inj loaded).symm⟩
  · rintro ⟨shared, own, sharedRead, ownRead, sharedShallow, ownShallow, rfl⟩
    have sharedExpanded : expanded env shared = _ := expanded_eq_ok_iff.2 ⟨sharedShallow, rfl⟩
    have ownExpanded : expanded env own = _ := expanded_eq_ok_iff.2 ⟨ownShallow, rfl⟩
    rw [sharedRead, ownRead]
    simp only [bind, Except.bind, sharedExpanded, ownExpanded]
    rfl

theorem keyed_readFile {file : Path} (read : readFile fs file = .ok entries) :
    (Value.table entries).Keyed := by
  unfold readFile at read
  obtain ⟨exists_, -, read⟩ := of_bind_ok read
  split at read
  · obtain ⟨bytes, -, read⟩ := of_bind_ok read
    split at read
    · cases read
    · split at read
      next parsed =>
        cases read
        exact Toml.keyed_of_parse parsed
      all_goals cases read
  · cases read
    exact keyed_empty

theorem keyed_tableAt (keyed : (Value.table entries).Keyed) (key : String) :
    (Value.table (tableAt entries key)).Keyed := by
  unfold tableAt
  split
  next found => exact keyed.get? found
  next => exact keyed_empty

theorem keyed_sharedTable (read : sharedTable fs root = .ok entries) :
    (Value.table entries).Keyed := by
  obtain ⟨whole, wholeRead, rfl⟩ := of_map_ok read
  exact keyed_tableAt (keyed_tableAt (keyed_readFile wholeRead) _) _

theorem keyed_switchLayer (env : Variables.Environment) :
    (Value.table (switchLayer env)).Keyed := by
  unfold switchLayer
  split
  · exact keyed_empty
  · have inside : (Value.table [("enabled", .bool true)]).Keyed :=
      keyed_empty.put (Value.keyed_of_not_table rfl) "enabled"
    exact keyed_empty.put inside "docker"

theorem keyed_of_mem_layers {shared own layer : List (String × Value)}
    (sharedRead : sharedTable fs root = .ok shared) (ownRead : readFile fs (root / ownFile) = .ok own)
    (mapping : (Value.table overrides).Keyed) (mem : layer ∈ layers env shared own overrides) :
    (Value.table layer).Keyed := by
  simp only [layers, List.mem_cons, List.not_mem_nil, or_false] at mem
  rcases mem with rfl | rfl | rfl | rfl
  · exact Variables.keyed_expandEntries (keyed_sharedTable sharedRead) env
  · exact Variables.keyed_expandEntries (keyed_readFile ownRead) env
  · exact keyed_switchLayer env
  · exact mapping.filter _

/-- A document is made whenever both files can be read and are not nested too deep. A path of keys
has a value in it that is no table exactly if a layer has one there and no later layer has anything
there, or a value that is no table on the way; the value is that of the last layer that has one.
What no layer has is not made up. -/
theorem last_layer_decides (fs : FileSystem) (root : Path) (env : Variables.Environment)
    (mapping : (Value.table overrides).Keyed) :
    (∀ shared own, sharedTable fs root = .ok shared → readFile fs (root / ownFile) = .ok own →
      (Value.table shared).depth ≤ nestingLimit → (Value.table own).depth ≤ nestingLimit →
      ∃ merged, document fs root env overrides = .ok merged) ∧
    ∀ merged, document fs root env overrides = .ok merged →
      ∃ shared own, sharedTable fs root = .ok shared ∧ readFile fs (root / ownFile) = .ok own ∧
        ∀ path,
          (∀ v, (Value.table merged).Settles path v ↔
            ∃ earlier layer later,
              layers env shared own overrides = earlier ++ layer :: later ∧
                (Value.table layer).Settles path v ∧
                ∀ higher ∈ later, ¬ (Value.table higher).Hides path) ∧
          ((∀ layer ∈ layers env shared own overrides, (Value.table layer).at? path = none) →
            (Value.table merged).at? path = none) := by
  constructor
  · intro shared own sharedRead ownRead sharedShallow ownShallow
    exact ⟨_, document_eq_ok_iff.2
      ⟨shared, own, sharedRead, ownRead, sharedShallow, ownShallow, rfl⟩⟩
  · intro merged loaded
    obtain ⟨shared, own, sharedRead, ownRead, -, -, rfl⟩ := document_eq_ok_iff.1 loaded
    have keyed : ∀ layer ∈ layers env shared own overrides, (Value.table layer).Keyed :=
      fun layer mem => keyed_of_mem_layers sharedRead ownRead mapping mem
    refine ⟨shared, own, sharedRead, ownRead, fun path => ⟨fun v => ?_, fun absent => ?_⟩⟩
    · exact Layers.settles_mergeAll_iff keyed
    · exact Layers.at?_mergeAll_eq_none (List.cons_ne_nil _ _) keyed absent

theorem jobs_of_overrides : (Value.table [("jobs", .int 3)]).Keyed ∧
    ∃ merged, document SmallProject.settings (Path.ofString "/p") [("PHP", "php8")]
        [("jobs", .int 3)] = .ok merged ∧ (Value.table merged).Settles ["jobs"] (.int 3) := by
  have mapping : (Value.table [("jobs", .int 3)]).Keyed :=
    keyed_empty.put (Value.keyed_of_not_table rfl) "jobs"
  have made : (document SmallProject.settings (Path.ofString "/p") [("PHP", "php8")]
      [("jobs", .int 3)]).isOk = true := by decide +kernel
  refine ⟨mapping, ?_⟩
  cases loaded : document SmallProject.settings (Path.ofString "/p") [("PHP", "php8")]
      [("jobs", .int 3)] with
  | error failure =>
    rw [loaded] at made
    cases made
  | ok merged =>
    obtain ⟨shared, own, -, -, law⟩ := (last_layer_decides SmallProject.settings
      (Path.ofString "/p") [("PHP", "php8")] mapping).2 merged loaded
    exact ⟨merged, rfl, ((law ["jobs"]).1 (.int 3)).2
      ⟨[Variables.expandEntries _ shared, Variables.expandEntries _ own, switchLayer _], _, [], rfl,
        ⟨rfl, rfl⟩, fun _ mem => nomatch mem⟩⟩

end Config

end TestImpact
