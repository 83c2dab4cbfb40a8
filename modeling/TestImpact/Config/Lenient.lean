import TestImpact.Config.Problem
import TestImpact.Document.Value
import TestImpact.Number.Numeral
import TestImpact.Path.Basic

/-!
# Lenient reading of values

A setting takes every value that can mean nothing else: a number may be written as a
text, a truth value as a word, and a whole number as a double without a fraction. What is
text stays text, so a number never becomes a name.
-/

namespace TestImpact

/-- A value that was read, or everything that is wrong with it. -/
abbrev Checked (α : Type) := Except (List Detail) α

/-- One problem with the value itself. -/
def Checked.ofProblem {α : Type} (outcome : Except Problem α) : Checked α :=
  outcome.mapError fun problem => [⟨[], problem⟩]

/-- What is wrong with a part, seen from the whole. -/
def Checked.within {α : Type} (name : String) (outcome : Checked α) : Checked α :=
  outcome.mapError fun details =>
    details.map fun detail => { detail with location := name :: detail.location }

namespace Lenient

/-- The words for yes. -/
def affirmations : List String := ["1", "on", "t", "true", "y", "yes"]

/-- The words for no. -/
def negations : List String := ["0", "off", "f", "false", "n", "no"]

/-- A truth value by its word. -/
def boolOfWord (word : String) : Except Problem Bool :=
  let lower := String.ofList (word.toList.map Char.toLower)
  if affirmations.contains lower then .ok true
  else if negations.contains lower then .ok false
  else .error .boolParsing

/-- Does a whole number fit into a machine word? -/
def isWord (n : Int) : Bool :=
  let bound : Int := Nat.pow 2 63
  n < bound && -bound ≤ n

/-- A truth value by its number. -/
def boolOfInt (n : Int) : Except Problem Bool :=
  if n = 1 then .ok true
  else if n = 0 then .ok false
  else if isWord n then .error .boolParsing
  else .error .boolType

/-- The whole number that a double without a fraction is. It has to lie between the ends of the
machine words. -/
def intOfFloat (x : Float) : Except Problem Int :=
  match Binary64.truncate? x with
  | none => .error .finiteNumber
  | some n =>
    let bound : Int := Nat.pow 2 63
    if !Binary64.isWhole x then .error .intFromFloat
    else if -bound < n && n < bound then .ok n
    else .error .intParsingSize

/-- Reads a truth value. -/
def bool : Value → Except Problem Bool
  | .bool b => .ok b
  | .string word => boolOfWord word
  | .int n => boolOfInt n
  | .float x =>
    match intOfFloat x with
    | .ok n => boolOfInt n
    | .error _ => .error .boolType
  | _ => .error .boolType

/-- Is a character a minus sign or a digit that a number may begin with? -/
def isLeading (c : Char) : Bool :=
  c = '-' || (c.isDigit && c ≠ '0')

/-- A number without the zeros in front of it, and without the `_` between those. The last zero
stays if nothing else is left of the whole part. -/
def withoutLeadingZeros? : List Char → Option (List Char)
  | '0' :: rest =>
    let zeros := rest.takeWhile fun c => c = '0' || c = '_'
    match rest.drop zeros.length with
    | [] => some [zeros.getLastD '0']
    | c :: behind =>
      if c = '.' then some (zeros.getLastD '0' :: c :: behind)
      else if isLeading c then some (c :: behind)
      else none
  | c :: rest => if isLeading c then some (c :: rest) else none
  | [] => none

/-- A number without a point and the zeros behind it. -/
def withoutPlaces (text : List Char) : List Char :=
  let whole := text.takeWhile (· ≠ '.')
  let places := text.drop (whole.length + 1)
  if !places.isEmpty && places.all (· = '0') then whole else text

/-- A text without its `_` when each of them stands alone between other characters. -/
def loosened? (text : List Char) : Option (List Char) :=
  let runs := Text.pieces '_' text
  if runs.any List.isEmpty then none else some runs.flatten

/-- A number in its plain form: without margins, a plus sign, zeros that say nothing, and `_`. -/
def plainForm? (text : String) : Option (List Char) := do
  let trimmed := Text.trimOf Numeral.isMargin text.toList
  let unsigned ←
    match trimmed with
    | '+' :: '-' :: _ => none
    | '+' :: rest => some rest
    | _ => some trimmed
  let plain := withoutPlaces (← withoutLeadingZeros? unsigned)
  pure ((loosened? plain).getD plain)

/-- Reads a whole number in its plain form: a zero, or digits that do not begin with one, behind a
minus sign or none. -/
def intOfPlainForm (text : List Char) : Except Problem Int :=
  let negative := text.head? = some '-'
  let body := if negative then text.drop 1 else text
  let digits := body.takeWhile Char.isDigit
  if digits.isEmpty || (digits.head? = some '0' && 1 < digits.length) then .error .intParsing
  else if Numeral.digitLimit < digits.length + (text.length - body.length) then
    .error .intParsingSize
  else if digits.length < body.length then .error .intParsing
  else .ok (if negative then -(Numeral.natOf digits : Int) else Numeral.natOf digits)

/-- Reads a text as a whole number. -/
def intOfText (text : String) : Except Problem Int :=
  match plainForm? text with
  | some plain => intOfPlainForm plain
  | none => .error .intParsing

/-- Reads a whole number. -/
def int : Value → Except Problem Int
  | .int n => .ok n
  | .bool b => .ok (if b then 1 else 0)
  | .string text => intOfText text
  | .float x => intOfFloat x
  | _ => .error .intType

/-- A double in digits or by its word. -/
def floatOfText? (text : String) : Option Float :=
  match Numeral.plainFloat? (Text.trimOf Numeral.isMargin text.toList) with
  | some x => some x
  | none => (loosened? text.toList).bind Numeral.plainFloat?

/-- Reads a double. -/
def float : Value → Except Problem Float
  | .float x => .ok x
  | .int n => let x := Binary64.ofInt n; if x.isInf then .error .floatType else .ok x
  | .bool b => .ok (if b then 1 else 0)
  | .string text =>
    match floatOfText? text with
    | some x => .ok x
    | none => .error .floatParsing
  | _ => .error .floatType

/-- Reads a text. -/
def string : Value → Except Problem String
  | .string text => .ok text
  | _ => .error .stringType

/-- Reads a path. -/
def path : Value → Except Problem Path
  | .string text => .ok (Path.ofString text)
  | _ => .error .pathType

/-- Reads a value that may be left open by `null`. -/
def optional {α : Type} (read : Value → Except Problem α) : Value → Except Problem (Option α)
  | .null => .ok none
  | v => (read v).map some

/-- Reads the parts of a value one by one and collects everything that is wrong. -/
def each {α : Type} (read : Value → Except Problem α) : List (String × Value) → Checked (List α)
  | [] => .ok []
  | (name, v) :: rest =>
    match Checked.within name (Checked.ofProblem (read v)), each read rest with
    | .ok first, .ok others => .ok (first :: others)
    | .ok _, .error details => .error details
    | .error details, .ok _ => .error details
    | .error details, .error more => .error (details ++ more)

/-- The items of a list under their positions. -/
def numbered (items : List Value) : List (String × Value) :=
  items.mapIdx fun index item => (toString index, item)

/-- Reads a list of texts; `otherwise` is the problem with anything else. -/
def strings (otherwise : Problem) : Value → Checked (List String)
  | .list items => each string (numbered items)
  | _ => .error [⟨[], otherwise⟩]

/-- Reads a table of texts. -/
def stringTable : Value → Checked (List (String × String))
  | .table entries => (each string entries).map fun texts => (entries.map Prod.fst).zip texts
  | _ => .error [⟨[], .tableType⟩]

end Lenient

end TestImpact
