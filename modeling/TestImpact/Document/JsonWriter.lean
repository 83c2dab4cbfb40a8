import TestImpact.Document.Value
import TestImpact.Number.Shortest

/-!
# Writing JSON

Characters outside ASCII are written as they are. Only quotes, backslashes and
control characters are escaped, those with a letter of their own by that letter.
`compact` puts everything on one line, `indented` puts every item on a line.
-/

namespace TestImpact.Json

/-- A number from `0.00001` on is written without exponent below `10 ^ 16`, and an exponent is
not padded. Values that are no finite number become `null`. -/
def numberStyle : NumberStyle := ⟨-5, 16, 1, "null", "null"⟩

/-- The hexadecimal digits of a control character. -/
def controlEscape (c : Char) : List Char :=
  '\\' :: 'u' :: NumberStyle.padZeros 4 (Nat.toDigits 16 c.toNat)

/-- One character of a written string. -/
def escape (c : Char) : List Char :=
  match c with
  | '"' => ['\\', '"']
  | '\\' => ['\\', '\\']
  | '\n' => ['\\', 'n']
  | '\r' => ['\\', 'r']
  | '\t' => ['\\', 't']
  | '\x08' => ['\\', 'b']
  | '\x0c' => ['\\', 'f']
  | c => if c.toNat < 0x20 then controlEscape c else [c]

/-- A string in quotes. -/
def quote (text : String) : String :=
  String.ofList ('"' :: (text.toList.flatMap escape ++ ['"']))

/-- A string of code points in quotes. Half a pair is written by its number. -/
def quotePoints (points : List Nat) : String :=
  String.ofList ('"' :: (points.flatMap (fun point =>
    if point.isValidChar then escape (Char.ofNat point)
    else '\\' :: 'u' :: Nat.toDigits 16 point) ++ ['"']))

/-- The text of a double. -/
def writeFloat (x : Float) : String :=
  match Shortest.decimal? x with
  | some _ => numberStyle.write x
  | none => numberStyle.nan

/-- How nested values are laid out: with one space behind commas, or each item on a line of
its own with some spaces per level. -/
inductive Layout where
  | compact
  | indented (spaces : Nat)

/-- What stands in front of an item at a depth. -/
def Layout.lead (layout : Layout) (depth : Nat) : String :=
  match layout with
  | .compact => ""
  | .indented spaces => "\n" ++ String.ofList (List.replicate (spaces * depth) ' ')

/-- What stands between two items. -/
def Layout.comma : Layout → String
  | .compact => ", "
  | .indented _ => ","

/-- Items between brackets. An empty list has nothing between them. -/
def Layout.enclose (layout : Layout) (depth : Nat) (opening closing : String)
    (items : List String) : String :=
  if items.isEmpty then opening ++ closing
  else
    let lead := layout.lead (depth + 1)
    opening ++ lead ++ (layout.comma ++ lead).intercalate items ++ layout.lead depth ++ closing

mutual

/-- Writes a value at a depth. -/
def writeAt (layout : Layout) (depth : Nat) : Value → String
  | .null => "null"
  | .bool b => if b then "true" else "false"
  | .int n => toString n
  | .float x => writeFloat x
  | .string text => quote text
  | .points points => quotePoints points
  | .moment text => quote text
  | .list items => layout.enclose depth "[" "]" (writeItems layout (depth + 1) items)
  | .table entries => layout.enclose depth "\x7b" "\x7d" (writeEntries layout (depth + 1) entries)

/-- Writes the items of a list. -/
def writeItems (layout : Layout) (depth : Nat) : List Value → List String
  | [] => []
  | v :: rest => writeAt layout depth v :: writeItems layout depth rest

/-- Writes the entries of a table. -/
def writeEntries (layout : Layout) (depth : Nat) : List (String × Value) → List String
  | [] => []
  | (key, v) :: rest =>
    (quote key ++ ": " ++ writeAt layout depth v) :: writeEntries layout depth rest

end

/-- Writes a value. -/
def write (layout : Layout) (v : Value) : String :=
  writeAt layout 0 v

end TestImpact.Json
