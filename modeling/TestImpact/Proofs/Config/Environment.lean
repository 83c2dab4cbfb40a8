import TestImpact.Proofs.Config.Layers

/-!
# What the environment has a say in

Of the environment, a configuration depends on whether containers are switched on and on the
variables that its files refer to, and on nothing else (`load_congr`). Layers can be expanded before
or after they are laid over each other (`expandEntries_merge`), which is shown along the upper
layer: a key of it is put into the lower one in the same way on both sides.
-/

namespace TestImpact

namespace Layers

open Value (get? put depthOfEntries)
open Variables (expand expandEntries)

variable {env : Variables.Environment} {below : Option Value}

/-! ## Expanding layers -/

/-- Expanding comes to the same before and after a value is laid over another. -/
theorem expand_overlay (env : Variables.Environment) (below : Option Value) (v : Value) :
    expand env (overlay below v) = overlay (below.map (expand env)) (expand env v) := by
  induction v using Value.nested_induction generalizing below with
  | list items =>
    rw [overlay_of_not_table rfl, overlay_of_not_table]
    exact Variables.isTable_expand env _
  | plain v _ untabled =>
    rw [overlay_of_not_table untabled, overlay_of_not_table]
    exact (Variables.isTable_expand env v).trans untabled
  | table laid ih =>
    have merges (lower : List (String × Value)) :
        expandEntries env (merge lower laid) =
          merge (expandEntries env lower) (expandEntries env laid) := by
      induction laid generalizing lower with
      | nil => rw [merge, expandEntries, merge]
      | cons entry rest deeper =>
        obtain ⟨key, v⟩ := entry
        rw [merge, deeper fun entry mem => ih entry (List.mem_cons_of_mem _ mem),
          Variables.expandEntries_put, ih (key, v) List.mem_cons_self, expandEntries, merge,
          Variables.get?_expandEntries]
    by_cases tables : ∃ lower, below = some (.table lower)
    · obtain ⟨lower, rfl⟩ := tables
      rw [overlay_table_table, expand, merges, Option.map_some, expand, expand,
        overlay_table_table]
    · have plain : ∀ lower, below ≠ some (.table lower) := fun lower same => tables ⟨lower, same⟩
      rw [overlay_table_of_not_table plain, expand, overlay_table_of_not_table]
      intro lower same
      obtain ⟨under, rfl, expanded⟩ := Option.map_eq_some_iff.1 same
      have tabular : under.isTable = true := by
        rw [← Variables.isTable_expand env, expanded]
        rfl
      obtain ⟨entries, rfl⟩ := Value.exists_table_of_isTable tabular
      exact plain entries rfl

/-- Expanding comes to the same before and after layers are laid over each other. -/
theorem expandEntries_merge (env : Variables.Environment) (base laid : List (String × Value)) :
    expandEntries env (merge base laid) = merge (expandEntries env base) (expandEntries env laid) := by
  have same := expand_overlay env (some (.table base)) (.table laid)
  rw [overlay_table_table, Option.map_some, expand, expand, expand, overlay_table_table] at same
  exact Value.table.inj same

/-! ## The depth of layers -/

theorem depthOfEntries_put_le (entries : List (String × Value)) (key : String) (v : Value) :
    depthOfEntries (put entries key v) ≤ max (depthOfEntries entries) v.depth := by
  induction entries with
  | nil => simp [put, depthOfEntries]
  | cons entry rest ih =>
    obtain ⟨name, old⟩ := entry
    rw [put]
    split
    · simp only [depthOfEntries]
      omega
    · simp only [depthOfEntries]
      omega

/-- Nothing is nested deeper than it was before a value is laid over another. -/
theorem depth_overlay_le (below : Option Value) (v : Value) {limit : Nat}
    (shallow : v.depth ≤ limit) (shallow' : ∀ under, below = some under → under.depth ≤ limit) :
    (overlay below v).depth ≤ limit := by
  induction v using Value.nested_induction generalizing below limit with
  | list items => rwa [overlay_of_not_table rfl]
  | plain v _ untabled => rwa [overlay_of_not_table untabled]
  | table laid ih =>
    by_cases tables : ∃ lower, below = some (.table lower)
    · obtain ⟨lower, rfl⟩ := tables
      have under := shallow' _ rfl
      clear shallow'
      rw [overlay_table_table]
      rw [Value.depth] at shallow under ⊢
      obtain ⟨limit, rfl⟩ : ∃ inner, limit = inner + 1 := ⟨limit - 1, by omega⟩
      refine Nat.succ_le_succ ?_
      replace shallow := Nat.le_of_succ_le_succ shallow
      replace under := Nat.le_of_succ_le_succ under
      induction laid generalizing lower with
      | nil => rwa [merge]
      | cons entry rest deeper =>
        obtain ⟨key, v⟩ := entry
        rw [depthOfEntries] at shallow
        rw [merge]
        refine deeper (fun entry mem => ih entry (List.mem_cons_of_mem _ mem)) _ (by omega) ?_
        have fits : (overlay (get? lower key) v).depth ≤ limit :=
          ih (key, v) List.mem_cons_self (get? lower key) (show v.depth ≤ limit by omega)
            fun found same => (Value.depth_le_of_get? same).trans under
        exact (depthOfEntries_put_le lower key _).trans (by omega)
    · rwa [overlay_table_of_not_table fun lower same => tables ⟨lower, same⟩]

end Layers

namespace Config

open Variables (Environment Piece Reads RefersTo expand expandEntries)

variable {fs : FileSystem} {root : Path} {env left right : Environment}
  {overrides base laid lower upper : List (String × Value)}

/-- One of the settings files refers to a variable. -/
def Names (fs : FileSystem) (root : Path) (name : String) : Prop :=
  (∃ shared, sharedTable fs root = .ok shared ∧ RefersTo (.table shared) name) ∨
    ∃ own, readFile fs (root / ownFile) = .ok own ∧ RefersTo (.table own) name

theorem expanded_congr {entries : List (String × Value)}
    (agree : ∀ name, RefersTo (.table entries) name → left.lookup name = right.lookup name) :
    expanded left entries = expanded right entries := by
  rw [expanded, expanded, Variables.expandEntries_congr agree]

theorem switchLayer_congr (switch : (left.lookup containerSwitch).getD "" = "" ↔
    (right.lookup containerSwitch).getD "" = "") : switchLayer left = switchLayer right := by
  simp only [switchLayer, switch]

/-- Environments that agree on the switch and on the variables that the files refer to give the
same configuration, or the same error. -/
theorem load_congr (overrides : List (String × Value))
    (switch : (left.lookup containerSwitch).getD "" = "" ↔
      (right.lookup containerSwitch).getD "" = "")
    (agree : ∀ name, Names fs root name → left.lookup name = right.lookup name) :
    load fs root left overrides = load fs root right overrides := by
  have shared : sharedLayer fs root left = sharedLayer fs root right := by
    unfold sharedLayer
    cases read : readFile fs (root / sharedFile) with
    | error failure => rfl
    | ok entries =>
      have table : sharedTable fs root = .ok (tableAt (tableAt entries "tool") "unitrun") := by
        rw [sharedTable, read]
        rfl
      exact expanded_congr fun name refers => agree name (.inl ⟨_, table, refers⟩)
  have own : ownLayer fs root left = ownLayer fs root right := by
    unfold ownLayer
    cases read : readFile fs (root / ownFile) with
    | error failure => rfl
    | ok entries => exact expanded_congr fun name refers => agree name (.inr ⟨_, read, refers⟩)
  rw [load, load, document, document, shared, own, switchLayer_congr switch]

theorem expanded_merge (lowered : expanded env base = .ok lower)
    (raised : expanded env laid = .ok upper) :
    expanded env (Layers.merge base laid) = .ok (Layers.merge lower upper) := by
  obtain ⟨lowShallow, rfl⟩ := expanded_eq_ok_iff.1 lowered
  obtain ⟨highShallow, rfl⟩ := expanded_eq_ok_iff.1 raised
  refine expanded_eq_ok_iff.2 ⟨?_, (Layers.expandEntries_merge env base laid).symm⟩
  have shallow := Layers.depth_overlay_le (some (.table base)) (.table laid) highShallow
    fun under same => Option.some.inj same ▸ lowShallow
  rwa [Layers.overlay_table_table] at shallow

/-- A configuration depends on the switch for containers and on the variables that a text of its
files refers to. Expanding a document keeps what every place of it is, except that a text becomes
the text whose references, which are found whatever the environment is, have the values of their
variables in place or stay as they are written; and it may come before or after layers are laid
over each other. -/
theorem load_by_named_variables (fs : FileSystem) (root : Path)
    (overrides : List (String × Value)) :
    (∀ left right : Environment,
      ((left.lookup containerSwitch).getD "" = "" ↔ (right.lookup containerSwitch).getD "" = "") →
      (∀ name, Names fs root name → left.lookup name = right.lookup name) →
      load fs root left overrides = load fs root right overrides) ∧
    (∀ (env : Environment) (v : Value) (path : List Value.Step),
      ((expand env v).part? path).map Value.shape = (v.part? path).map Value.shape) ∧
    (∀ text : String, ∃ parts, Reads text.toList parts ∧
      parts.flatMap Piece.written = text.toList ∧
      ∀ (env : Environment) (v : Value) (path : List Value.Step),
        v.part? path = some (.string text) →
        (expand env v).part? path = some (.string (String.ofList (parts.flatMap fun
          | .char c => [c]
          | .reference name written =>
            match env.lookup name with
            | some value => value.toList
            | none => written)))) ∧
    ∀ (env : Environment) (base laid : List (String × Value)),
      expandEntries env (Layers.merge base laid) =
        Layers.merge (expandEntries env base) (expandEntries env laid) ∧
      ∀ lower upper, expanded env base = .ok lower → expanded env laid = .ok upper →
        expanded env (Layers.merge base laid) = .ok (Layers.merge lower upper) := by
  refine ⟨fun left right switch agree => load_congr overrides switch agree,
    fun env v path => ?_, fun text => ?_, fun env base laid =>
      ⟨Layers.expandEntries_merge env base laid, fun _ _ => expanded_merge⟩⟩
  · rw [Variables.part?_expand, Option.map_map]
    exact congrArg (Option.map · _) (funext (Variables.shape_expand env))
  · refine ⟨Variables.pieces text.toList, Variables.reads_iff.2 rfl,
      Variables.flatMap_written_pieces _, fun env v path found => ?_⟩
    rw [Variables.part?_expand, found, Option.map_some, expand, Variables.expandText]
    refine congrArg (fun cs => some (Value.string (String.ofList cs)))
      (List.flatMap_congr fun part _ => ?_)
    cases part with
    | char c => rfl
    | reference name written =>
      cases known : env.lookup name with
      | none => simp [Piece.expanded, known]
      | some value => simp [Piece.expanded, known]

/-- The settings of the small project refer to its interpreter alone. -/
theorem named_by_small_project {name : String}
    (named : Names SmallProject.settings (Path.ofString "/p") name) : name = "PHP" := by
  have sharedTexts : ((sharedTable SmallProject.settings (Path.ofString "/p")).toOption.map
      Value.textsOfEntries) = some [] := by decide +kernel
  have ownTexts : ((readFile SmallProject.settings (Path.ofString "/p" / ownFile)).toOption.map
      Value.textsOfEntries) = some ["$PHP"] := by decide +kernel
  rcases named with ⟨shared, read, text, holds, -⟩ | ⟨own, read, text, holds, parts, written, reads,
    mem⟩
  · rw [read] at sharedTexts
    have absent : text ∈ [] := Option.some.inj sharedTexts ▸ Value.holds_iff.1 holds
    cases absent
  · rw [read] at ownTexts
    have only : text ∈ ["$PHP"] := Option.some.inj ownTexts ▸ Value.holds_iff.1 holds
    obtain rfl := List.mem_singleton.1 only
    have one : Variables.pieces "$PHP".toList = [.reference "PHP" "$PHP".toList] := by
      decide +kernel
    rw [Variables.reads_iff.1 reads, one, List.mem_singleton] at mem
    cases mem
    rfl

theorem home_has_no_say :
    load SmallProject.settings (Path.ofString "/p")
        [("PHP", "php8"), ("HOME", "/root"), (containerSwitch, "1")] [("jobs", .int 3)] =
      load SmallProject.settings (Path.ofString "/p")
        [(containerSwitch, "yes"), ("PHP", "php8")] [("jobs", .int 3)] := by
  refine (load_by_named_variables SmallProject.settings (Path.ofString "/p") _).1 _ _ (by decide)
    fun name named => ?_
  rw [named_by_small_project named]
  decide

end Config

end TestImpact
