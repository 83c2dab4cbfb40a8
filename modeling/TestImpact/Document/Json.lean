import TestImpact.Document.Value
import TestImpact.Number.Numeral
import TestImpact.Text.Hex
import TestImpact.Text.Pieces

/-!
# Reading JSON

`Json.parse` reads a whole text as one JSON value. `NaN`, `Infinity` and `-Infinity`
are values too, and of equal keys the last one counts. The reader works on the
remaining characters, and a fault is placed by how many of them are left
(`Fault`); `SyntaxError` turns that into a line and a column. Values may be nested
`nestingLimit` deep.
-/

namespace TestImpact.Json

/-- What is wrong with a text that should be JSON. -/
inductive Problem where
  | byteOrderMark
  | expectedValue
  | expectedName
  | expectedColon
  | expectedComma
  | unterminatedString
  | controlCharacter
  | badEscape
  | badUnicodeEscape
  | extraData
  | tooDeep
  | tooManyDigits (count : Nat)
  deriving DecidableEq, Repr

/-- The words for a problem. -/
def Problem.message : Problem → String
  | .byteOrderMark => "Unexpected UTF-8 BOM (decode using utf-8-sig)"
  | .expectedValue => "Expecting value"
  | .expectedName => "Expecting property name enclosed in double quotes"
  | .expectedColon => "Expecting ':' delimiter"
  | .expectedComma => "Expecting ',' delimiter"
  | .unterminatedString => "Unterminated string starting at"
  | .controlCharacter => "Invalid control character at"
  | .badEscape => "Invalid \\escape"
  | .badUnicodeEscape => "Invalid \\uXXXX escape"
  | .extraData => "Extra data"
  | .tooDeep => "Too many levels"
  | .tooManyDigits _ => "Too many digits"

/-- A problem and how many characters are left where it stands. -/
structure Fault where
  problem : Problem
  left : Nat
  deriving DecidableEq, Repr

/-- A reader takes characters from the front and gives a value and the rest. -/
abbrev Reader (α : Type) := List Char → Except Fault (α × List Char)

/-- A problem in front of the given rest. -/
def failAt {α : Type} (problem : Problem) (rest : List Char) : Except Fault α :=
  .error ⟨problem, rest.length⟩

/-- The characters that may stand between tokens. -/
def isSpace (c : Char) : Bool :=
  c = ' ' || c = '\t' || c = '\n' || c = '\r'

/-- Drops the space in front of the next token. -/
def skipSpace (text : List Char) : List Char :=
  text.dropWhile isSpace

/-- The number four hexadecimal digits make. -/
def hex4? : List Char → Option (Nat × List Char)
  | a :: b :: c :: d :: rest => do
    let a ← Hex.value? a
    let b ← Hex.value? b
    let c ← Hex.value? c
    let d ← Hex.value? d
    pure (4096 * a + 256 * b + 16 * c + d, rest)
  | _ => none

/-- Is a code unit the first half of a pair? -/
def isLeading (unit : Nat) : Bool := 0xd800 ≤ unit && unit ≤ 0xdbff

/-- Is a code unit the second half of a pair? -/
def isTrailing (unit : Nat) : Bool := 0xdc00 ≤ unit && unit ≤ 0xdfff

/-- The value of a text: it is made of characters if none of its code points is half a pair. -/
def textOf (points : List Nat) : Value :=
  if points.all Nat.isValidChar then .string (String.ofList (points.map Char.ofNat))
  else .points points

/-- The text of a name. Half a pair is told by a code point that stands for no character and by
the digits of its number, so that different halves make different names. -/
def nameOf (points : List Nat) : String :=
  String.ofList (points.flatMap fun point =>
    if point.isValidChar then [Char.ofNat point] else '\uffff' :: Nat.toDigits 16 point)

/-- The characters of the one-letter escapes. -/
def escapeChar? : Char → Option Char
  | '"' => some '"'
  | '\\' => some '\\'
  | '/' => some '/'
  | 'b' => some '\x08'
  | 'f' => some '\x0c'
  | 'n' => some '\n'
  | 'r' => some '\r'
  | 't' => some '\t'
  | _ => none

/-- Reads the digits behind `\u`, and the second half of a pair where one follows. Behind the
digits at least one more character has to stand. -/
def unicodeEscape : Reader Nat := fun text => do
  let failHere := failAt .badUnicodeEscape ('u' :: text)
  if text.length ≤ 4 then failHere
  else match hex4? text with
  | none => failHere
  | some (unit, rest) =>
    match rest with
    | '\\' :: 'u' :: more =>
      if isLeading unit && 4 < more.length then
        match hex4? more with
        | none => failAt .badUnicodeEscape ('u' :: more)
        | some (second, after) =>
          if isTrailing second then
            pure (0x10000 + (unit - 0xd800) * 1024 + (second - 0xdc00), after)
          else pure (unit, rest)
      else pure (unit, rest)
    | _ => pure (unit, rest)

/-- Reads the code points of a string to its closing quote. `opening` is the rest from the opening
quote on. -/
def stringBody (opening : List Char) : (fuel : Nat) → Reader (List Nat)
  | 0, _ => failAt .unterminatedString opening
  | fuel + 1, text =>
    match text with
    | [] => failAt .unterminatedString opening
    | '"' :: rest => pure ([], rest)
    | '\\' :: 'u' :: rest => do
      let (point, rest) ← unicodeEscape rest
      let (points, rest) ← stringBody opening fuel rest
      pure (point :: points, rest)
    | ['\\'] => failAt .unterminatedString opening
    | '\\' :: letter :: rest =>
      match escapeChar? letter with
      | none => failAt .badEscape text
      | some c => do
        let (points, rest) ← stringBody opening fuel rest
        pure (c.toNat :: points, rest)
    | c :: rest =>
      if c.toNat ≤ 0x1f then failAt .controlCharacter text
      else do
        let (points, rest) ← stringBody opening fuel rest
        pure (c.toNat :: points, rest)

/-- Reads the code points of a string behind its opening quote. -/
def string : Reader (List Nat) := fun text =>
  stringBody ('"' :: text) (text.length + 1) text

/-- The whole part of a number: one zero, or digits that do not begin with zero. -/
def wholePart : List Char → List Char
  | '0' :: _ => ['0']
  | text => text.takeWhile Char.isDigit

/-- The point and the digits behind it, if at least one follows. -/
def pointPart : List Char → List Char
  | '.' :: rest =>
    let places := rest.takeWhile Char.isDigit
    if places.isEmpty then [] else '.' :: places
  | _ => []

/-- The exponent, if it has at least one digit. -/
def exponentPart : List Char → List Char
  | e :: rest =>
    if e = 'e' || e = 'E' then
      let (sign, behind) :=
        match rest with
        | '+' :: behind => (['+'], behind)
        | '-' :: behind => (['-'], behind)
        | _ => ([], rest)
      let digits := behind.takeWhile Char.isDigit
      if digits.isEmpty then [] else e :: (sign ++ digits)
    else []
  | [] => []

/-- Reads a number; `text` is where it begins. -/
def number : Reader Value := fun text =>
  let (sign, body) :=
    match text with
    | '-' :: body => (['-'], body)
    | _ => ([], text)
  let whole := wholePart body
  let rest := body.drop whole.length
  let places := pointPart rest
  let rest := rest.drop places.length
  let power := exponentPart rest
  let rest := rest.drop power.length
  if whole.isEmpty then failAt .expectedValue text
  else if places.isEmpty && power.isEmpty then
    let n : Int := Numeral.natOf whole
    if Numeral.digitLimit < whole.length then failAt (.tooManyDigits whole.length) text
    else pure (.int (if sign.isEmpty then n else -n), rest)
  else match Numeral.decimal? (sign ++ whole ++ places ++ power) with
    | some d => pure (.float d.toFloat, rest)
    | none => failAt .expectedValue text

/-- The words that are values. -/
def words : List (String × Value) :=
  [("null", .null), ("true", .bool true), ("false", .bool false),
    ("NaN", .float (Float.ofBits 0x7ff8000000000000)),
    ("Infinity", .float (Float.ofBits 0x7ff0000000000000)),
    ("-Infinity", .float (Float.ofBits 0xfff0000000000000))]

/-- Reads a word or a number. -/
def atom : Reader Value := fun text =>
  match words.findSome? fun (word, value) => (Text.after? word.toList text).map (value, ·) with
  | some found => pure found
  | none => number text

/-- How deep values may be nested. -/
def nestingLimit : Nat := 990

mutual

/-- Reads one value. The fuel bounds the number of the parts, `levels` those that may still be
nested in each other. -/
def value : (fuel levels : Nat) → Reader Value
  | 0, _, text => failAt .expectedValue text
  | fuel + 1, levels, text =>
    match text with
    | '"' :: rest => do
      let (points, rest) ← string rest
      pure (textOf points, rest)
    | '[' :: rest =>
      match levels, skipSpace rest with
      | 0, _ => failAt .tooDeep text
      | _, ']' :: rest => pure (.list [], rest)
      | levels + 1, rest => do
        let (items, rest) ← items fuel levels rest
        pure (.list items, rest)
    | '{' :: rest =>
      match levels, skipSpace rest with
      | 0, _ => failAt .tooDeep text
      | _, '}' :: rest => pure (.table [], rest)
      | levels + 1, rest => members fuel levels [] rest
    | _ => atom text

/-- Reads the items of a list, from the first one to the closing bracket. -/
def items : (fuel levels : Nat) → Reader (List Value)
  | 0, _, text => failAt .expectedValue text
  | fuel + 1, levels, text => do
    let (first, rest) ← value fuel levels text
    match skipSpace rest with
    | ']' :: rest => pure ([first], rest)
    | ',' :: rest =>
      let (others, rest) ← items fuel levels (skipSpace rest)
      pure (first :: others, rest)
    | rest => failAt .expectedComma rest

/-- Reads the members of a table, from the first name to the closing brace. -/
def members : (fuel levels : Nat) → List (String × Value) → Reader Value
  | 0, _, _, text => failAt .expectedName text
  | fuel + 1, levels, entries, text =>
    match text with
    | '"' :: rest => do
      let (name, rest) ← string rest
      match skipSpace rest with
      | ':' :: rest =>
        let (first, rest) ← value fuel levels (skipSpace rest)
        let entries := Value.put entries (nameOf name) first
        match skipSpace rest with
        | '}' :: rest => pure (.table entries, rest)
        | ',' :: rest => members fuel levels entries (skipSpace rest)
        | rest => failAt .expectedComma rest
      | rest => failAt .expectedColon rest
    | _ => failAt .expectedName text

end

/-- Reads a whole text. -/
def document (text : List Char) : Except Fault Value :=
  match text with
  | '\ufeff' :: _ => failAt .byteOrderMark text
  | _ => do
    let (v, rest) ← value (2 * text.length + 2) nestingLimit (skipSpace text)
    match skipSpace rest with
    | [] => pure v
    | rest => failAt .extraData rest

/-- A problem and its place in the text, lines and columns counted from one. -/
structure SyntaxError where
  problem : Problem
  line : Nat
  column : Nat
  offset : Nat
  deriving DecidableEq, Repr

/-- Places a fault in the text it was found in. -/
def SyntaxError.of (text : List Char) (fault : Fault) : SyntaxError :=
  let offset := text.length - fault.left
  let before := text.take offset
  { problem := fault.problem
    line := before.count '\n' + 1
    column := (before.reverse.takeWhile (· ≠ '\n')).length + 1
    offset }

/-- The words for a syntax error. -/
def SyntaxError.message (e : SyntaxError) : String :=
  s!"{e.problem.message}: line {e.line} column {e.column} (char {e.offset})"

/-- Reads a text as one JSON value. -/
def parse (text : String) : Except SyntaxError Value :=
  match document text.toList with
  | .ok v => .ok v
  | .error fault => .error (.of text.toList fault)

end TestImpact.Json
