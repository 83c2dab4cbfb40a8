import TestImpact.Number.Binary64

/-!
# Values of data documents

`Value` is what a JSON or TOML document holds. Whole numbers have any size, and a
table keeps its keys in the order of their first appearance, each key once
(`Value.put`). Dates and times are told apart from everything else but are
not computed with.
-/

namespace TestImpact

/-- A value of a data document. -/
inductive Value where
  | null
  | bool (b : Bool)
  | int (n : Int)
  | float (x : Float)
  | string (text : String)
  /-- A text that no characters make up, because it holds half of a pair: its code points. -/
  | points (points : List Nat)
  | moment (text : String)
  | list (items : List Value)
  | table (entries : List (String × Value))

namespace Value

instance : Inhabited Value := ⟨null⟩

/-- The value of a key in the entries of a table. -/
def get? (entries : List (String × Value)) (key : String) : Option Value :=
  entries.lookup key

/-- Gives a key a value. A known key keeps its place, a new one comes last. -/
def put (entries : List (String × Value)) (key : String) (value : Value) :
    List (String × Value) :=
  match entries with
  | [] => [(key, value)]
  | (k, old) :: rest => if k = key then (key, value) :: rest else (k, old) :: put rest key value

/-- The value of a key when the value is a table that has it. -/
def field? (value : Value) (key : String) : Option Value :=
  match value with
  | table entries => get? entries key
  | _ => none

/-- A whole number against a double, compared exactly. -/
def intEqFloat (n : Int) (x : Float) : Bool :=
  Binary64.isWhole x && Binary64.truncate? x = some n

/-- The whole number that a truth value or a whole number counts as. -/
def asInt? : Value → Option Int
  | bool b => some (if b then 1 else 0)
  | int n => some n
  | _ => none

/-- Numbers and truth values by what they count as. -/
def sameNumber? (a b : Value) : Option Bool :=
  match a.asInt?, b.asInt?, a, b with
  | some m, some n, _, _ => some (m = n)
  | some m, none, _, float y => some (intEqFloat m y)
  | none, some n, float x, _ => some (intEqFloat n x)
  | _, _, float x, float y => some (x == y)
  | _, _, _, _ => none

mutual

/-- Are two parts of documents equal? Numbers of every kind are compared by value, tables
without regard to order. All values that are no number count as one. -/
def alike (a b : Value) : Bool :=
  match a, b with
  | null, null => true
  | string s, string t => s = t
  | points s, points t => s = t
  | moment s, moment t => s = t
  | list xs, list ys => alikeAll xs ys
  | table xs, table ys => xs.length = ys.length && alikeEntries xs ys
  | float x, float y => x == y || (x.isNaN && y.isNaN)
  | a, b => sameNumber? a b = some true

/-- Are two lists equal part by part? -/
def alikeAll (xs ys : List Value) : Bool :=
  match xs, ys with
  | [], [] => true
  | x :: xs, y :: ys => alike x y && alikeAll xs ys
  | _, _ => false

/-- Has the second table an equal value under every key of the first? -/
def alikeEntries (xs ys : List (String × Value)) : Bool :=
  match xs with
  | [] => true
  | (key, x) :: xs =>
    (match ys.lookup key with
      | some y => alike x y
      | none => false) && alikeEntries xs ys

end

mutual

/-- How many lists and tables lie in each other at most. -/
def depth : Value → Nat
  | list items => depthOfItems items + 1
  | table entries => depthOfEntries entries + 1
  | _ => 0

/-- The greatest depth among the items of a list. -/
def depthOfItems : List Value → Nat
  | [] => 0
  | item :: rest => max item.depth (depthOfItems rest)

/-- The greatest depth among the values of a table. -/
def depthOfEntries : List (String × Value) → Nat
  | [] => 0
  | (_, value) :: rest => max value.depth (depthOfEntries rest)

end

/-- Equality of whole values: as `alike`, but a value that is no number differs even from
itself. -/
def equal (a b : Value) : Bool :=
  match a, b with
  | float x, float y => x == y
  | a, b => alike a b

end Value

end TestImpact
