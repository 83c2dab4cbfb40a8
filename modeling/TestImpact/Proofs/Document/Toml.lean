import TestImpact.Document.Toml
import TestImpact.Proofs.Document.KeyPath
import TestImpact.Proofs.Outcome

/-!
# Keys of TOML documents

A document that can be read gives every table its keys once (`keyed_of_parse`): an entry is only
ever added by `Value.put`, at the end of a way through tables that are there or are made on the
way (`keyed_descend`).
-/

namespace TestImpact.Toml

open Value (keyed_empty keyed_of_not_table)

variable {fuel room : Nat} {text rest : List Char} {v : Value}
  {entries changed : List (String × Value)}

theorem orMalformed_eq_ok_iff {α : Type} {found : Option α} {a : α} :
    orMalformed found = .ok a ↔ found = some a := by
  cases found <;> simp [orMalformed]

/-! ## Values that are no tables -/

theorem isTable_basedNumber (read : basedNumber text = some (v, rest)) : v.isTable = false := by
  unfold basedNumber at read
  split at read
  · dsimp only at read
    split at read
    · cases read
    · split at read
      · cases read
      · cases read
        rfl
  · cases read

theorem isTable_wholeNumber {negative : Bool} {digits : List Char}
    (read : wholeNumber negative digits = .ok v) : v.isTable = false := by
  unfold wholeNumber at read
  split at read
  · cases read
  · cases read
    rfl

theorem isTable_decimalNumber {outcome : Except Problem Value}
    (read : decimalNumber text = some (outcome, rest)) (ok : outcome = .ok v) :
    v.isTable = false := by
  unfold decimalNumber at read
  extract_lets sign body whole behind places behind' power behind'' at read
  split at read
  · cases read
  · split at read
    · obtain ⟨rfl, -⟩ := Prod.mk.inj (Option.some.inj read)
      exact isTable_wholeNumber ok
    · obtain ⟨d, -, same⟩ := Option.map_eq_some_iff.1 read
      obtain ⟨rfl, -⟩ := Prod.mk.inj same
      cases ok
      rfl

theorem isTable_specialNumber (read : specialNumber text = some (v, rest)) :
    v.isTable = false := by
  unfold specialNumber at read
  dsimp only at read
  split at read
  · obtain ⟨x, -, same⟩ := Option.map_eq_some_iff.1 read
    cases same
    rfl
  · cases read

theorem isTable_scalar (read : scalar text = .ok (v, rest)) : v.isTable = false := by
  unfold scalar at read
  split at read
  next found behind _ =>
    cases found with
    | none => cases read
    | some moment =>
      cases read
      rfl
  next =>
    split at read
    next found based =>
      cases read
      exact isTable_basedNumber based
    next outcome behind _ decimal =>
      cases outcome with
      | error problem => cases read
      | ok number =>
        cases read
        exact isTable_decimalNumber decimal rfl
    next => exact isTable_specialNumber (orMalformed_eq_ok_iff.1 read)

/-! ## Entries of nested tables -/

theorem keyed_descend {intoLists : Bool}
    {change : List (String × Value) → Option (List (String × Value))}
    (kept : ∀ inner changed, (Value.table inner).Keyed → change inner = some changed →
      (Value.table changed).Keyed) {key : Key} (keyed : (Value.table entries).Keyed)
    (led : descend intoLists change key entries = some changed) :
    (Value.table changed).Keyed := by
  induction key generalizing entries changed with
  | nil => exact kept entries changed keyed led
  | cons name rest ih =>
    rw [descend] at led
    split at led
    next =>
      obtain ⟨inner, made, same⟩ := Option.bind_eq_some_iff.1 led
      cases same
      exact keyed.put (ih keyed_empty made) name
    next inner found =>
      obtain ⟨inner', made, same⟩ := Option.bind_eq_some_iff.1 led
      cases same
      exact keyed.put (ih (keyed.get? found) made) name
    next items found =>
      split at led
      · cases led
      · split at led
        · obtain ⟨inner, -, same⟩ := Option.bind_eq_some_iff.1 led
          cases same
          exact keyed.put (keyed_of_not_table rfl) name
        · cases led
    next => cases led

theorem keyed_define {intoLists : Bool} {key : Key} (inside : v.Keyed)
    (keyed : (Value.table entries).Keyed) (defined : define intoLists key v entries = some changed) :
    (Value.table changed).Keyed := by
  refine keyed_descend (fun inner changed kept put => ?_) keyed defined
  split at put
  · cases put
  · cases put
    exact kept.put inside _

theorem keyed_appendTable {key : Key} (keyed : (Value.table entries).Keyed)
    (appended : appendTable key entries = some changed) : (Value.table changed).Keyed := by
  refine keyed_descend (fun inner changed kept put => ?_) keyed appended
  split at put
  · cases put
    exact kept.put (keyed_of_not_table rfl) _
  · cases put
    exact kept.put (keyed_of_not_table rfl) _
  · cases put

/-! ## Values -/

/-- A value has no key twice if the tables that can stand in it have none. -/
theorem keyed_value_succ {fuel room : Nat} {text rest : List Char}
    (tables : ∀ room text v rest, pairs fuel room [] [] text = .ok (v, rest) → v.Keyed)
    (read : value (fuel + 1) room text = .ok (v, rest)) : v.Keyed := by
  rw [value.eq_def] at read
  dsimp only at read
  split at read
  · obtain ⟨found, -, same⟩ := Option.map_eq_some_iff.1 (orMalformed_eq_ok_iff.1 read)
    cases same
    exact keyed_of_not_table rfl
  · obtain ⟨found, -, same⟩ := Option.map_eq_some_iff.1 (orMalformed_eq_ok_iff.1 read)
    cases same
    exact keyed_of_not_table rfl
  · cases read
    exact keyed_of_not_table rfl
  · cases read
    exact keyed_of_not_table rfl
  · split at read
    · cases read
    · obtain ⟨behind, -, read⟩ := of_bind_ok read
      split at read
      · cases read
        exact keyed_of_not_table rfl
      · obtain ⟨found, -, read⟩ := of_bind_ok read
        cases read
        exact keyed_of_not_table rfl
  · split at read
    · cases read
    · split at read
      · cases read
        exact keyed_empty
      · exact tables _ _ _ _ read
  · exact keyed_of_not_table (isTable_scalar read)

/-- A pair that is put into a table has no key twice, and neither has the table then. -/
theorem keyed_pairs_succ {fuel room : Nat} {frozen : List Key} {entries : List (String × Value)}
    {text rest : List Char}
    (values : ∀ room text v rest, value fuel room text = .ok (v, rest) → v.Keyed)
    (tables : ∀ room frozen entries text v rest, (Value.table entries).Keyed →
      pairs fuel room frozen entries text = .ok (v, rest) → v.Keyed)
    (keyed : (Value.table entries).Keyed)
    (read : pairs (fuel + 1) room frozen entries text = .ok (v, rest)) : v.Keyed := by
  rw [pairs] at read
  obtain ⟨⟨name, behind⟩, -, read⟩ := of_bind_ok read
  dsimp only at read
  split at read
  · obtain ⟨⟨inner, behind'⟩, inside, read⟩ := of_bind_ok read
    dsimp only at read
    split at read
    · cases read
    · obtain ⟨grown, defined, read⟩ := of_bind_ok read
      have kept : (Value.table grown).Keyed :=
        keyed_define (values _ _ _ _ inside) keyed (orMalformed_eq_ok_iff.1 defined)
      split at read
      · cases read
        exact kept
      · exact tables _ _ _ _ _ _ kept read
      · cases read
  · cases read

theorem keyed_value_and_pairs (fuel : Nat) :
    (∀ room text v rest, value fuel room text = .ok (v, rest) → v.Keyed) ∧
      ∀ room frozen entries text v rest, (Value.table entries).Keyed →
        pairs fuel room frozen entries text = .ok (v, rest) → v.Keyed := by
  induction fuel with
  | zero =>
    constructor
    · intro room text v rest read
      rw [value] at read
      cases read
    · intro room frozen entries text v rest _ read
      rw [pairs] at read
      cases read
  | succ fuel ih =>
    obtain ⟨values, tables⟩ := ih
    constructor
    · intro room text v rest read
      exact keyed_value_succ (fun room text v rest => tables room [] [] text v rest keyed_empty) read
    · intro room frozen entries text v rest keyed read
      exact keyed_pairs_succ values tables keyed read

/-! ## Documents -/

theorem Builder.keyed_pair {b b' : Builder} {key : Key} (inside : v.Keyed)
    (keyed : (Value.table b.entries).Keyed) (paired : b.pair key v = some b') :
    (Value.table b'.entries).Keyed := by
  unfold Builder.pair at paired
  dsimp only at paired
  split at paired
  · cases paired
  · obtain ⟨grown, defined, same⟩ := Option.bind_eq_some_iff.1 paired
    cases same
    exact keyed_define inside keyed defined

theorem Builder.keyed_openTable {b b' : Builder} {key : Key}
    (keyed : (Value.table b.entries).Keyed) (opened : b.openTable key = some b') :
    (Value.table b'.entries).Keyed := by
  unfold Builder.openTable at opened
  split at opened
  · cases opened
  · obtain ⟨grown, made, same⟩ := Option.bind_eq_some_iff.1 opened
    cases same
    refine keyed_descend (fun inner changed kept same => ?_) keyed made
    cases same
    exact kept

theorem Builder.keyed_openItem {b b' : Builder} {key : Key}
    (keyed : (Value.table b.entries).Keyed) (opened : b.openItem key = some b') :
    (Value.table b'.entries).Keyed := by
  unfold Builder.openItem at opened
  split at opened
  · cases opened
  · obtain ⟨grown, made, same⟩ := Option.bind_eq_some_iff.1 opened
    cases same
    exact keyed_appendTable keyed made

theorem keyed_statement {b b' : Builder} (keyed : (Value.table b.entries).Keyed)
    (read : statement b text = .ok (b', rest)) : (Value.table b'.entries).Keyed := by
  unfold statement at read
  split at read
  · obtain ⟨⟨name, behind⟩, -, read⟩ := of_bind_ok read
    dsimp only at read
    split at read
    · obtain ⟨opened, made, same⟩ := of_bind_ok read
      cases same
      exact Builder.keyed_openItem (b := b.settle) keyed (orMalformed_eq_ok_iff.1 made)
    · cases read
  · obtain ⟨⟨name, behind⟩, -, read⟩ := of_bind_ok read
    dsimp only at read
    split at read
    · obtain ⟨opened, made, same⟩ := of_bind_ok read
      cases same
      exact Builder.keyed_openTable (b := b.settle) keyed (orMalformed_eq_ok_iff.1 made)
    · cases read
  · obtain ⟨⟨name, behind⟩, -, read⟩ := of_bind_ok read
    dsimp only at read
    split at read
    · obtain ⟨⟨inner, behind'⟩, inside, read⟩ := of_bind_ok read
      obtain ⟨paired, made, same⟩ := of_bind_ok read
      cases same
      exact Builder.keyed_pair ((keyed_value_and_pairs _).1 _ _ _ _ inside) keyed
        (orMalformed_eq_ok_iff.1 made)
    · cases read

/-- What follows a statement: its line ends, or the text does. -/
def afterStatement (fuel : Nat) (b : Builder) : List Char → Except Problem Builder
  | [] => pure b
  | '\n' :: rest => statements fuel b rest
  | _ => throw .malformed

theorem keyed_statements {b b' : Builder} (keyed : (Value.table b.entries).Keyed)
    (read : statements fuel b text = .ok b') : (Value.table b'.entries).Keyed := by
  induction fuel generalizing b text with
  | zero => cases read
  | succ fuel ih =>
    rw [statements] at read
    obtain ⟨next, behind, kept, read⟩ : ∃ next behind, (Value.table next.entries).Keyed ∧
        (orMalformed (skipComment (skipSpace behind)) >>= afterStatement fuel next) = .ok b' := by
      split at read
      next => exact ⟨b, [], keyed, read⟩
      next rest _ => exact ⟨b, '\n' :: rest, keyed, read⟩
      next rest _ => exact ⟨b, '#' :: rest, keyed, read⟩
      next =>
        obtain ⟨⟨next, behind⟩, first, read⟩ := of_bind_ok read
        exact ⟨next, behind, keyed_statement keyed first, read⟩
    obtain ⟨left, -, read⟩ := of_bind_ok read
    unfold afterStatement at read
    split at read
    · cases read
      exact kept
    · exact ih kept read
    · cases read

/-- In a document that can be read no table has a key twice. -/
theorem keyed_of_parse {text : String} (read : parse text = .ok entries) :
    (Value.table entries).Keyed := by
  unfold parse at read
  dsimp only at read
  obtain ⟨b, ran, rfl⟩ := of_map_ok read
  exact keyed_statements keyed_empty ran

end TestImpact.Toml
