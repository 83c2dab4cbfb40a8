/-!
# Reading arguments

An option is a word with dashes in front. A long one may carry its value behind a `=`,
short ones may stand together behind one dash, and the value of a short one may follow
without a blank. Options and other arguments come in any order, and behind `--` there are
no more options. Of an option that is given twice the last value counts.
-/

namespace TestImpact.CommandLine

/-- What an option does to the record of options. -/
inductive Effect (σ : Type) where
  | set (change : σ → σ)
  /-- Takes a value, which may not fit. -/
  | value (change : σ → String → Option σ)

/-- The options of a command, by their words with dashes. -/
abbrev Switches (σ : Type) := List (String × Effect σ)

/-- How far the reading of arguments has come. -/
structure Progress (σ : Type) where
  record : σ
  others : List String := []
  /-- What waits for its value. -/
  awaiting : Option (σ → String → Option σ) := none
  /-- Are there no more options? -/
  closed : Bool := false

namespace Progress

/-- Changes the record. -/
def withRecord {σ : Type} (progress : Progress σ) (record : σ) : Progress σ :=
  { progress with record, awaiting := none }

/-- Reads a long option with the value behind its `=`, if it has one. -/
def long {σ : Type} (progress : Progress σ) (effect : Effect σ) (attached : Option String) :
    Option (Progress σ) :=
  match effect, attached with
  | .set change, none => some (progress.withRecord (change progress.record))
  | .set _, some _ => none
  | .value change, none => some { progress with awaiting := some change }
  | .value change, some text => (change progress.record text).map progress.withRecord

/-- Reads short options that stand together. -/
def short {σ : Type} (switches : Switches σ) (progress : Progress σ) :
    List Char → Option (Progress σ)
  | [] => some progress
  | letter :: rest =>
    match switches.lookup (String.ofList ['-', letter]) with
    | none => none
    | some (.set change) => (progress.withRecord (change progress.record)).short switches rest
    | some (.value change) =>
      if rest.isEmpty then some { progress with awaiting := some change }
      else (change progress.record (String.ofList rest)).map progress.withRecord

/-- A text before and behind its first `=`. -/
def cutValue (argument : List Char) : List Char × Option (List Char) :=
  let word := argument.takeWhile (· ≠ '=')
  (word, if word.length = argument.length then none else some (argument.drop (word.length + 1)))

/-- Reads one argument. -/
def step {σ : Type} (switches : Switches σ) (progress : Progress σ) (argument : String) :
    Option (Progress σ) :=
  match progress.awaiting with
  | some change => (change progress.record argument).map progress.withRecord
  | none =>
    if progress.closed then some { progress with others := progress.others ++ [argument] }
    else
      match argument.toList with
      | ['-', '-'] => some { progress with closed := true }
      | '-' :: '-' :: word =>
        let (name, attached) := cutValue ('-' :: '-' :: word)
        (switches.lookup (String.ofList name)).bind fun effect =>
          progress.long effect (attached.map String.ofList)
      | '-' :: letter :: letters => progress.short switches (letter :: letters)
      | _ => some { progress with others := progress.others ++ [argument] }

end Progress

/-- Reads arguments into a record and the arguments that are no options. -/
def read {σ : Type} (switches : Switches σ) (start : σ) (arguments : List String) :
    Option (σ × List String) :=
  match arguments.foldlM (Progress.step switches) { record := start } with
  | some { record, others, awaiting := none, .. } => some (record, others)
  | _ => none

end TestImpact.CommandLine
