import TestImpact.Text.CellWidth

/-!
# Columns that texts take on a terminal

The columns of a text are not quite the sum over its characters, because two characters
act on their neighbours: a joiner melts the character behind it into the picture before
it, and a selector turns a sign into a picture of two columns.

`clusters` cuts a text into what may not be taken apart: a character with the marks,
joined characters and selectors that follow it. No character is lost
(`flatMap_characters_clusters`), and `fitted` cuts between clusters only.
-/

namespace TestImpact.Text

/-- The character that joins its two neighbours into one picture. -/
def joiner : Char := Char.ofNat 0x200d

/-- The character that asks for a picture in place of the sign before it. -/
def selector : Char := Char.ofNat 0xfe0f

/-! ## Measuring -/

/-- What is known behind some characters of a text: their columns, whether a selector would
widen the last of them, and whether a joiner waits for the next one. -/
structure Measure where
  columns : Nat := 0
  widenable : Bool := false
  joining : Bool := false
  deriving DecidableEq, Repr

namespace Measure

/-- Goes on by one character. -/
def step (measure : Measure) (c : Char) : Measure :=
  if measure.joining then { measure with joining := false }
  else if c = joiner then { measure with joining := true }
  else if c = selector then
    ⟨if measure.widenable then measure.columns + 1 else measure.columns, false, false⟩
  else
    match cellWidth c with
    | 0 => measure
    | width => ⟨measure.columns + width, hasPicture c, false⟩

/-- Goes on by some characters. -/
def run (measure : Measure) (text : List Char) : Measure :=
  text.foldl step measure

/-- Measuring may stop and go on anywhere. -/
theorem run_append (measure : Measure) (text more : List Char) :
    measure.run (text ++ more) = (measure.run text).run more :=
  List.foldl_append

theorem columns_le_step (measure : Measure) (c : Char) :
    measure.columns ≤ (measure.step c).columns := by
  grind [step]

end Measure

/-- The number of columns of a text. -/
def columns (text : List Char) : Nat :=
  (Measure.run {} text).columns

/-! ## Clusters -/

/-- Characters that may not be taken apart and the columns they take together. -/
structure Cluster where
  characters : List Char
  columns : Nat
  deriving DecidableEq, Repr

namespace Cluster

/-- A cluster with one more character. -/
def extended (cluster : Cluster) (c : Char) (wider : Nat) : Cluster :=
  ⟨cluster.characters ++ [c], cluster.columns + wider⟩

end Cluster

/-- The clusters in front of the rest of a text, given the cluster that is being put
together. -/
def clustersFrom (growing : Cluster) (widenable joining : Bool) : List Char → List Cluster
  | [] => [growing]
  | c :: rest =>
    if joining then clustersFrom (growing.extended c 0) widenable false rest
    else if c = joiner then clustersFrom (growing.extended c 0) widenable true rest
    else if c = selector then
      clustersFrom (growing.extended c (if widenable then 1 else 0)) false false rest
    else
      match cellWidth c with
      | 0 => clustersFrom (growing.extended c 0) widenable false rest
      | width => growing :: clustersFrom ⟨[c], width⟩ (hasPicture c) false rest

/-- The clusters of a text. A joiner at its beginning has nothing to join. -/
def clusters : List Char → List Cluster
  | [] => []
  | c :: rest =>
    if c = joiner || c = selector then clustersFrom ⟨[c], 0⟩ false false rest
    else clustersFrom ⟨[c], cellWidth c⟩ (hasPicture c) false rest

theorem flatMap_characters_clustersFrom (growing : Cluster) (widenable joining : Bool)
    (text : List Char) :
    (clustersFrom growing widenable joining text).flatMap Cluster.characters =
      growing.characters ++ text := by
  fun_induction clustersFrom growing widenable joining text <;>
    simp_all [Cluster.extended]

/-- No character is lost between the clusters of a text. -/
theorem flatMap_characters_clusters (text : List Char) :
    (clusters text).flatMap Cluster.characters = text := by
  cases text with
  | nil => rfl
  | cons c rest =>
    simp only [clusters]
    split <;> simp [flatMap_characters_clustersFrom]

/-! ## Cutting -/

/-- The clusters that fit into a number of columns. A cluster that would be cut through leaves
a blank. -/
def keptOf (room : Nat) : List Cluster → List Char
  | [] => []
  | cluster :: rest =>
    if room = 0 then []
    else if cluster.columns ≤ room then cluster.characters ++ keptOf (room - cluster.columns) rest
    else [' ']

/-- A text in exactly a number of columns: cut between clusters, or filled up with blanks. -/
def fitted (room : Nat) (text : List Char) : List Char :=
  if room = 0 then []
  else if columns text ≤ room then text ++ List.replicate (room - columns text) ' '
  else keptOf room (clusters text)

/-- A text that takes the wanted number of columns already stays. -/
theorem fitted_columns {text : List Char} (h : columns text ≠ 0) :
    fitted (columns text) text = text := by
  simp [fitted, h]

end TestImpact.Text
