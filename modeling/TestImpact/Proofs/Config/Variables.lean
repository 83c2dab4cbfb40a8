import Mathlib.Data.List.Basic
import TestImpact.Config.Variables
import TestImpact.Proofs.Document.KeyPath
import TestImpact.Proofs.Text.Runs

/-!
# What expansion changes

A text is read once from left to right, and a reference is taken wherever one begins (`Reads`). The
parts of a text are the only ones it can be read as (`reads_iff`), and do not depend on any
environment. In a document nothing is changed but texts: every place holds the same kind of value
with the same keys or as many items (`shape_expand`, `part?_expand`), and only variables that a text
of the document refers to have a say (`expand_congr`).
-/

namespace TestImpact

namespace Value

/-- A step into a value. -/
inductive Step where
  | key (name : String)
  | item (index : Nat)
  deriving DecidableEq, Repr

/-- The part of a value that a step leads to. -/
def step? : Value → Step → Option Value
  | table entries, .key name => get? entries name
  | list items, .item index => items[index]?
  | _, _ => none

/-- The part of a value that some steps lead to. -/
def part? : Value → List Step → Option Value
  | v, [] => some v
  | v, step :: rest => (v.step? step).bind fun inner => part? inner rest

/-- What a value is, whatever its texts say and its parts are. -/
inductive Shape where
  | table (keys : List String)
  | list (length : Nat)
  | text
  /-- A value that is none of these, as it is. -/
  | plain (v : Value)

/-- The shape of a value. -/
def shape : Value → Shape
  | table entries => .table (entries.map Prod.fst)
  | list items => .list items.length
  | string _ => .text
  | v => .plain v

/-- A text is the value or lies somewhere in it. -/
inductive Holds (text : String) : Value → Prop
  | self : Holds text (string text)
  | item {items : List Value} {v : Value} : v ∈ items → Holds text v → Holds text (list items)
  | entry {entries : List (String × Value)} {key : String} {v : Value} :
      (key, v) ∈ entries → Holds text v → Holds text (table entries)

mutual

/-- The texts in a value, from the first to the last. -/
def texts : Value → List String
  | string text => [text]
  | list items => textsOfItems items
  | table entries => textsOfEntries entries
  | _ => []

/-- The texts in the items of a list. -/
def textsOfItems : List Value → List String
  | [] => []
  | v :: rest => texts v ++ textsOfItems rest

/-- The texts in the entries of a table. -/
def textsOfEntries : List (String × Value) → List String
  | [] => []
  | (_, v) :: rest => texts v ++ textsOfEntries rest

end

theorem textsOfItems_eq (items : List Value) : textsOfItems items = items.flatMap texts := by
  induction items with
  | nil => rw [textsOfItems, List.flatMap_nil]
  | cons v rest ih => rw [textsOfItems, ih, List.flatMap_cons]

theorem textsOfEntries_eq (entries : List (String × Value)) :
    textsOfEntries entries = entries.flatMap fun entry => texts entry.2 := by
  induction entries with
  | nil => rw [textsOfEntries, List.flatMap_nil]
  | cons entry rest ih => rw [textsOfEntries, ih, List.flatMap_cons]

/-- What holds of a value if it holds of all its parts holds of every value. -/
theorem nested_induction {motive : Value → Prop}
    (list : ∀ items, (∀ v ∈ items, motive v) → motive (list items))
    (table : ∀ entries, (∀ entry ∈ entries, motive entry.2) → motive (table entries))
    (plain : ∀ v, (∀ items, v ≠ .list items) → v.isTable = false → motive v) (v : Value) :
    motive v := by
  match v with
  | .list items =>
    refine list items fun item mem => ?_
    have smaller := List.sizeOf_lt_of_mem mem
    exact nested_induction list table plain item
  | .table entries =>
    refine table entries fun entry mem => ?_
    obtain ⟨key, inner⟩ := entry
    have smaller := List.sizeOf_lt_of_mem mem
    exact nested_induction list table plain inner
  | .null | .bool _ | .int _ | .float _ | .string _ | .points _ | .moment _ =>
    exact plain _ (fun _ same => nomatch same) rfl
termination_by sizeOf v
decreasing_by all_goals simp_all; try omega

/-- The texts in a value are the ones that it holds. -/
theorem holds_iff {text : String} {v : Value} : v.Holds text ↔ text ∈ v.texts := by
  constructor
  · intro holds
    induction holds with
    | self => exact List.mem_singleton_self text
    | item among _ ih =>
      rw [texts, textsOfItems_eq]
      exact List.mem_flatMap_of_mem among ih
    | entry among _ ih =>
      rw [texts, textsOfEntries_eq]
      exact List.mem_flatMap_of_mem among ih
  · intro mem
    induction v using nested_induction with
    | list items ih =>
      rw [texts, textsOfItems_eq] at mem
      obtain ⟨v, among, mem⟩ := List.mem_flatMap.1 mem
      exact .item among (ih v among mem)
    | table entries ih =>
      rw [texts, textsOfEntries_eq] at mem
      obtain ⟨⟨key, v⟩, among, mem⟩ := List.mem_flatMap.1 mem
      exact .entry among (ih (key, v) among mem)
    | plain v unlisted untabled =>
      cases v with
      | string _ =>
        obtain rfl := List.mem_singleton.1 mem
        exact .self
      | list items => exact absurd rfl (unlisted items)
      | table entries => cases untabled
      | _ => cases mem

end Value

namespace Variables

/-! ## Reading a text -/

/-- How a reference to a variable is written before some text: a dollar sign and a run of word
characters that is not cut short, or a dollar sign and anything between braces. -/
inductive Written (name : List Char) : (written behind : List Char) → Prop
  | bare {behind : List Char} : name ≠ [] → (∀ c ∈ name, Text.isWordChar c = true) →
      (∀ c, behind.head? = some c → Text.isWordChar c = false) → Written name ('$' :: name) behind
  | braced {behind : List Char} : name ≠ [] → '\x7d' ∉ name →
      Written name ('$' :: '\x7b' :: name ++ ['\x7d']) behind

/-- The parts of a text that is read from left to right. A reference is taken where it begins and
read on behind it. -/
inductive Reads : List Char → List Piece → Prop
  | done : Reads [] []
  | reference {name written behind : List Char} {later : List Piece} :
      Written name written behind → Reads behind later →
      Reads (written ++ behind) (.reference (String.ofList name) written :: later)
  | char {c : Char} {rest : List Char} {later : List Piece} :
      (∀ name written behind, c :: rest = written ++ behind → ¬ Written name written behind) →
      Reads rest later → Reads (c :: rest) (.char c :: later)

/-- A name behind the sign is a reference up to its end. -/
theorem reference?_bare {name : String} {behind : List Char} (nonempty : name.toList ≠ [])
    (word : ∀ c ∈ name.toList, Text.isWordChar c = true)
    (stops : ∀ c, behind.head? = some c → Text.isWordChar c = false) :
    reference? (name.toList ++ behind) = some (name, name.toList) := by
  have run : (name.toList ++ behind).takeWhile Text.isWordChar = name.toList :=
    Text.takeWhile_eq_iff.2 ⟨behind, rfl, word, stops⟩
  have named : (!(name.toList).isEmpty) = true := by simpa using nonempty
  simp only [reference?, run, named, if_true, String.ofList_toList]

/-- A name in braces is a reference up to its closing brace. -/
theorem reference?_braced {name : String} {behind : List Char} (nonempty : name.toList ≠ [])
    (free : '\x7d' ∉ name.toList) :
    reference? ('\x7b' :: (name.toList ++ '\x7d' :: behind)) =
      some (name, '\x7b' :: name.toList ++ ['\x7d']) := by
  have run : (name.toList ++ '\x7d' :: behind).takeWhile (· ≠ '\x7d') = name.toList := by
    refine Text.takeWhile_eq_iff.2 ⟨_, rfl, fun c mem => ?_, fun c first => ?_⟩
    · exact decide_eq_true fun same => free (same ▸ mem)
    · obtain rfl : '\x7d' = c := Option.some.inj first
      simp
  have named : name.toList.isEmpty = false := by simpa using nonempty
  have unnamed : Text.isWordChar '\x7b' = false := by decide +kernel
  rw [reference?]
  simp only [List.takeWhile_cons_of_neg (unnamed ▸ Bool.false_ne_true), run, named,
    List.isEmpty_nil]
  simp

/-- A reference begins behind a dollar sign exactly where one is written. -/
theorem reference?_eq_some_iff {text written : List Char} {name : String} :
    reference? text = some (name, written) ↔
      ∃ behind, text = written ++ behind ∧ Written name.toList ('$' :: written) behind := by
  constructor
  · intro found
    have begins := prefix_of_reference? found
    unfold reference? at found
    dsimp only at found
    split at found
    next named =>
      obtain ⟨rfl, rfl⟩ := Prod.mk.inj (Option.some.inj found)
      obtain ⟨behind, whole, all, stops⟩ := Text.takeWhile_eq_iff.1 (rfl :
        text.takeWhile Text.isWordChar = text.takeWhile Text.isWordChar)
      refine ⟨behind, whole, ?_⟩
      rw [String.toList_ofList]
      exact .bare (by simpa using named) all stops
    next =>
      obtain ⟨behind, whole⟩ := begins
      split at found
      next rest _ =>
        split at found
        · cases found
        next closed =>
          obtain ⟨rfl, rfl⟩ := Prod.mk.inj (Option.some.inj found)
          simp only [Bool.or_eq_true, List.isEmpty_iff, not_or] at closed
          refine ⟨behind, whole.symm, ?_⟩
          rw [String.toList_ofList]
          refine .braced closed.1 fun mem => ?_
          simpa using List.mem_takeWhile_imp mem
      · cases found
  · rintro ⟨behind, rfl, reference⟩
    generalize whole : '$' :: written = all at reference
    cases reference with
    | bare nonempty word stops =>
      cases whole
      exact reference?_bare nonempty word stops
    | braced nonempty free =>
      cases whole
      have shape : ('\x7b' :: name.toList).append ['\x7d'] ++ behind =
          '\x7b' :: (name.toList ++ '\x7d' :: behind) := by simp
      rw [shape]
      exact reference?_braced nonempty free

theorem head?_of_written {name written behind : List Char} (reference : Written name written behind) :
    ∃ rest, written = '$' :: rest := by
  cases reference with
  | bare => exact ⟨_, rfl⟩
  | braced => exact ⟨_, rfl⟩

/-- A text can be read in one way, which its parts are. -/
theorem reads_iff {text : List Char} {parts : List Piece} :
    Reads text parts ↔ parts = pieces text := by
  constructor
  · intro reads
    induction reads with
    | done => rw [pieces]
    | @reference name written behind later reference _ ih =>
      obtain ⟨rest, rfl⟩ := head?_of_written reference
      have found : reference? (rest ++ behind) = some (String.ofList name, rest) :=
        reference?_eq_some_iff.2 ⟨behind, rfl, by rwa [String.toList_ofList]⟩
      rw [List.cons_append, pieces, if_pos rfl, found, ih]
      simp
    | @char c rest later none _ ih =>
      rw [pieces, ih]
      split
      next dollar =>
        split
        next name written found =>
          obtain ⟨behind, rfl, reference⟩ := reference?_eq_some_iff.1 found
          refine absurd reference (none _ _ behind ?_)
          rw [dollar]
          rfl
        next => rfl
      next => rfl
  · rintro rfl
    fun_induction pieces text with
    | case1 => exact .done
    | case2 rest name written found ih =>
      obtain ⟨behind, rfl, reference⟩ := reference?_eq_some_iff.1 found
      rw [List.drop_left] at ih ⊢
      have read := Reads.reference reference ih
      rwa [String.ofList_toList] at read
    | case3 rest absent ih =>
      refine .char (fun name written behind whole reference => ?_) ih
      obtain ⟨more, rfl⟩ := head?_of_written reference
      have found : reference? (more ++ behind) = some (String.ofList name, more) :=
        reference?_eq_some_iff.2 ⟨behind, rfl, by rwa [String.toList_ofList]⟩
      have same : rest = more ++ behind := (List.cons.inj whole).2
      rw [← same, absent] at found
      cases found
    | case4 c rest other ih =>
      refine .char (fun name written behind whole reference => ?_) ih
      obtain ⟨more, rfl⟩ := head?_of_written reference
      exact other (List.cons.inj whole).1

/-- A dollar sign that no name follows is only a character. -/
example : pieces "$A/$-".toList =
    [.reference "A" "$A".toList, .char '/', .char '$', .char '-'] := by
  decide +kernel

/-- A value refers to a variable in one of its texts. -/
def RefersTo (v : Value) (name : String) : Prop :=
  ∃ text, v.Holds text ∧ ∃ parts written, Reads text.toList parts ∧ .reference name written ∈ parts

/-! ## Expanding a document -/

variable {env left right : Environment} {v : Value} {entries : List (String × Value)}

theorem expandItems_eq_map (env : Environment) (items : List Value) :
    expandItems env items = items.map (expand env) := by
  induction items with
  | nil => rw [expandItems, List.map_nil]
  | cons v rest ih => rw [expandItems, ih, List.map_cons]

theorem expandEntries_eq_map (env : Environment) (entries : List (String × Value)) :
    expandEntries env entries = entries.map fun entry => (entry.1, expand env entry.2) := by
  induction entries with
  | nil => rw [expandEntries, List.map_nil]
  | cons entry rest ih => rw [expandEntries, ih, List.map_cons]

theorem keys_expandEntries (env : Environment) (entries : List (String × Value)) :
    (expandEntries env entries).map Prod.fst = entries.map Prod.fst := by
  rw [expandEntries_eq_map, List.map_map]
  rfl

theorem get?_expandEntries (env : Environment) (entries : List (String × Value)) (key : String) :
    Value.get? (expandEntries env entries) key = (Value.get? entries key).map (expand env) := by
  induction entries with
  | nil => rfl
  | cons entry rest ih =>
    obtain ⟨name, v⟩ := entry
    rw [expandEntries, Value.get?_cons, Value.get?_cons, ih]
    split <;> rfl

theorem expandEntries_put (env : Environment) (entries : List (String × Value)) (key : String)
    (v : Value) :
    expandEntries env (Value.put entries key v) =
      Value.put (expandEntries env entries) key (expand env v) := by
  induction entries with
  | nil => rfl
  | cons entry rest ih =>
    obtain ⟨name, old⟩ := entry
    rw [Value.put, expandEntries, Value.put]
    split
    · rw [expandEntries]
    · rw [expandEntries, ih]

theorem expand_of_plain (unlisted : ∀ items, v ≠ .list items) (untabled : v.isTable = false)
    (unwritten : ∀ text, v ≠ .string text) : expand env v = v := by
  cases v with
  | list items => exact absurd rfl (unlisted items)
  | table entries => cases untabled
  | string text => exact absurd rfl (unwritten text)
  | _ => rw [expand] <;> simp

theorem shape_expand (env : Environment) (v : Value) : (expand env v).shape = v.shape := by
  cases v with
  | table entries => rw [expand, Value.shape, Value.shape, keys_expandEntries]
  | list items => rw [expand, Value.shape, Value.shape, expandItems_eq_map, List.length_map]
  | string text => rw [expand, Value.shape, Value.shape]
  | _ => rw [expand] <;> simp

theorem isTable_expand (env : Environment) (v : Value) : (expand env v).isTable = v.isTable := by
  cases v with
  | table entries => rw [expand]; rfl
  | list items => rw [expand]; rfl
  | string text => rw [expand]; rfl
  | _ => rw [expand] <;> simp

theorem step?_expand (env : Environment) (v : Value) (step : Value.Step) :
    (expand env v).step? step = (v.step? step).map (expand env) := by
  cases v with
  | table entries =>
    rw [expand]
    cases step with
    | key name => exact get?_expandEntries env entries name
    | item index => rfl
  | list items =>
    rw [expand]
    cases step with
    | key name => rfl
    | item index =>
      show (expandItems env items)[index]? = (items[index]?).map (expand env)
      rw [expandItems_eq_map, List.getElem?_map]
  | string text =>
    rw [expand]
    rfl
  | _ =>
    rw [expand]
    · rfl
    all_goals simp

/-- Expanding comes to the same before and behind the way to a part. -/
theorem part?_expand (env : Environment) (v : Value) (path : List Value.Step) :
    (expand env v).part? path = (v.part? path).map (expand env) := by
  induction path generalizing v with
  | nil => simp [Value.part?]
  | cons step rest ih =>
    rw [Value.part?, Value.part?, step?_expand]
    cases v.step? step with
    | none => rfl
    | some inner => exact ih inner

theorem at?_expandEntries (env : Environment) (entries : List (String × Value))
    (path : List String) :
    (Value.table (expandEntries env entries)).at? path =
      ((Value.table entries).at? path).map (expand env) := by
  induction path generalizing entries with
  | nil => simp [expand]
  | cons key rest ih =>
    rw [Value.at?_table_cons, Value.at?_table_cons, get?_expandEntries]
    cases Value.get? entries key with
    | none => rfl
    | some inner =>
      cases tabular : inner.isTable with
      | true =>
        obtain ⟨below, rfl⟩ := Value.exists_table_of_isTable tabular
        simpa [expand] using ih below
      | false =>
        cases rest with
        | nil => simp
        | cons next more =>
          have plain : (expand env inner).isTable = false := (isTable_expand env inner).trans tabular
          simp only [Option.map_some, Option.bind_some]
          rw [Value.at?_cons_of_not_table tabular, Value.at?_cons_of_not_table plain]
          rfl

theorem keyed_expandEntries (keyed : (Value.table entries).Keyed) (env : Environment) :
    (Value.table (expandEntries env entries)).Keyed := by
  intro path changed led
  rw [at?_expandEntries] at led
  obtain ⟨v, found, same⟩ := Option.map_eq_some_iff.1 led
  have tabular : v.isTable = true := by
    rw [← isTable_expand env, same]
    rfl
  obtain ⟨inner, rfl⟩ := Value.exists_table_of_isTable tabular
  rw [expand] at same
  cases same
  rw [keys_expandEntries]
  exact keyed path inner found

/-! ## Environments that agree -/

theorem expandText_congr {text : String}
    (agree : ∀ name, RefersTo (.string text) name → left.lookup name = right.lookup name) :
    expandText left text = expandText right text := by
  unfold expandText
  refine congrArg String.ofList (List.flatMap_congr fun part mem => ?_)
  cases part with
  | char c => rfl
  | reference name written =>
    have same := agree name ⟨text, .self, _, written, reads_iff.2 rfl, mem⟩
    rw [Piece.expanded, Piece.expanded, same]

/-- Environments that agree on the variables of a value expand it alike. -/
theorem expand_congr (v : Value)
    (agree : ∀ name, RefersTo v name → left.lookup name = right.lookup name) :
    expand left v = expand right v := by
  induction v using Value.nested_induction with
  | list items ih =>
    rw [expand, expand, expandItems_eq_map, expandItems_eq_map]
    refine congrArg Value.list (List.map_congr_left fun v mem => ih v mem fun name refers => ?_)
    obtain ⟨text, holds, reads⟩ := refers
    exact agree name ⟨text, .item mem holds, reads⟩
  | table entries ih =>
    rw [expand, expand, expandEntries_eq_map, expandEntries_eq_map]
    refine congrArg Value.table (List.map_congr_left fun entry mem => ?_)
    rw [ih entry mem fun name refers => ?_]
    obtain ⟨text, holds, reads⟩ := refers
    exact agree name ⟨text, .entry mem holds, reads⟩
  | plain v unlisted untabled =>
    by_cases written : ∃ text, v = .string text
    · obtain ⟨text, rfl⟩ := written
      rw [expand, expand, expandText_congr agree]
    · have unwritten : ∀ text, v ≠ .string text := fun text same => written ⟨text, same⟩
      rw [expand_of_plain unlisted untabled unwritten, expand_of_plain unlisted untabled unwritten]

theorem expandEntries_congr
    (agree : ∀ name, RefersTo (.table entries) name → left.lookup name = right.lookup name) :
    expandEntries left entries = expandEntries right entries := by
  have same := expand_congr (.table entries) agree
  rw [expand, expand] at same
  exact Value.table.inj same

end Variables

end TestImpact
