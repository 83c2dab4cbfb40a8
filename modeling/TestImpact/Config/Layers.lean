import TestImpact.Document.Value

/-!
# Layers of settings

A layer laid over another one wins wherever both have a value, and two tables are
laid over each other key by key. Keys keep the place of their first appearance.
-/

namespace TestImpact.Layers

mutual

/-- The entries of a table with those of a higher one laid over them. -/
def merge (base : List (String × Value)) : List (String × Value) → List (String × Value)
  | [] => base
  | (key, v) :: rest => merge (Value.put base key (overlay (Value.get? base key) v)) rest

/-- A value laid over what is below it, if anything is. -/
def overlay (below : Option Value) : Value → Value
  | .table entries =>
    match below with
    | some (.table lower) => .table (merge lower entries)
    | _ => .table entries
  | v => v

end

/-- Layers laid over each other, the lowest first. -/
def mergeAll (layers : List (List (String × Value))) : List (String × Value) :=
  layers.foldl merge []

end TestImpact.Layers
