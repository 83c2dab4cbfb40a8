import TestImpact.Document.Value
import TestImpact.Text.Word

/-!
# References to environment variables

A text may refer to a variable as `$NAME` or as `${NAME}`. `pieces` cuts a text into
characters and references, and nothing is lost by it (`flatMap_written_pieces`). `expand`
puts the values of variables in place in one pass, so a value is never searched for
references, and a reference to an unknown variable stays as it is written.
-/

namespace TestImpact.Variables

/-- The variables of an environment. -/
abbrev Environment := List (String × String)

/-- A part of a text: one character, or a reference as it is written. -/
inductive Piece where
  | char (c : Char)
  | reference (name : String) (written : List Char)
  deriving DecidableEq, Repr

/-- The text of a part. -/
def Piece.written : Piece → List Char
  | .char c => [c]
  | .reference _ text => text

/-- The reference that begins behind a dollar sign: its name and how it is written there. -/
def reference? (text : List Char) : Option (String × List Char) :=
  let name := text.takeWhile Text.isWordChar
  if !name.isEmpty then some (String.ofList name, name)
  else
    match text with
    | '\x7b' :: rest =>
      let name := rest.takeWhile (· ≠ '\x7d')
      if name.isEmpty || name.length = rest.length then none
      else some (String.ofList name, '\x7b' :: name ++ ['\x7d'])
    | _ => none

/-- Cuts a text into characters and references. -/
def pieces : List Char → List Piece
  | [] => []
  | c :: rest =>
    if c = '$' then
      match reference? rest with
      | some (name, written) =>
        .reference name (c :: written) :: pieces (rest.drop written.length)
      | none => .char c :: pieces rest
    else .char c :: pieces rest
termination_by text => text.length
decreasing_by all_goals simp only [List.length_drop, List.length_cons]; omega

theorem exists_of_takeWhile_shorter {α : Type} {p : α → Bool} {xs : List α}
    (shorter : (xs.takeWhile p).length ≠ xs.length) :
    ∃ stop rest, xs = xs.takeWhile p ++ stop :: rest ∧ p stop = false := by
  induction xs with
  | nil => simp at shorter
  | cons x xs ih =>
    cases holds : p x with
    | false => exact ⟨x, xs, by simp [holds], holds⟩
    | true =>
      rw [List.takeWhile_cons_of_pos holds, List.length_cons, List.length_cons] at shorter
      obtain ⟨stop, rest, whole, stops⟩ := ih (by omega)
      refine ⟨stop, rest, ?_, stops⟩
      rw [List.takeWhile_cons_of_pos holds, List.cons_append, ← whole]

theorem prefix_of_reference? {text written : List Char} {name : String}
    (h : reference? text = some (name, written)) : written <+: text := by
  unfold reference? at h
  simp only at h
  split at h
  next =>
    obtain ⟨-, rfl⟩ := Prod.mk.inj (Option.some.inj h)
    exact List.takeWhile_prefix _
  next =>
    split at h
    next rest unnamed =>
      split at h
      next => simp at h
      next closed =>
        obtain ⟨-, rfl⟩ := Prod.mk.inj (Option.some.inj h)
        simp only [Bool.or_eq_true, decide_eq_true_eq, not_or] at closed
        obtain ⟨stop, more, whole, stops⟩ := exists_of_takeWhile_shorter closed.2
        obtain rfl : stop = '\x7d' := by simpa using stops
        refine ⟨more, ?_⟩
        conv => rhs; rw [whole]
        simp
    next => simp at h

/-- The parts of a text written one after the other are the text. -/
theorem flatMap_written_pieces (text : List Char) :
    (pieces text).flatMap Piece.written = text := by
  fun_induction pieces text with
  | case1 => rfl
  | case2 rest name written found ih =>
    obtain ⟨more, rfl⟩ := prefix_of_reference? found
    simp only [List.flatMap_cons, Piece.written, List.cons_append]
    rw [ih]
    simp
  | case3 rest absent ih => simp [Piece.written, ih]
  | case4 c rest other ih => simp [Piece.written, ih]

/-- A part with the value of its variable in place. -/
def Piece.expanded (env : Environment) : Piece → List Char
  | .char c => [c]
  | .reference name written => ((env.lookup name).map String.toList).getD written

/-- A text with the values of its variables in place. -/
def expandText (env : Environment) (text : String) : String :=
  String.ofList ((pieces text.toList).flatMap (Piece.expanded env))

mutual

/-- A value with every text in it expanded. Keys stay as they are. -/
def expand (env : Environment) : Value → Value
  | .string text => .string (expandText env text)
  | .list items => .list (expandItems env items)
  | .table entries => .table (expandEntries env entries)
  | v => v

/-- Expands the items of a list. -/
def expandItems (env : Environment) : List Value → List Value
  | [] => []
  | v :: rest => expand env v :: expandItems env rest

/-- Expands the values of a table. -/
def expandEntries (env : Environment) : List (String × Value) → List (String × Value)
  | [] => []
  | (key, v) :: rest => (key, expand env v) :: expandEntries env rest

end

end TestImpact.Variables
