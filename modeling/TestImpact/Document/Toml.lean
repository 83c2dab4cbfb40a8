import TestImpact.Document.Json
import TestImpact.Document.Value
import TestImpact.Number.Numeral

/-!
# Reading TOML

`Toml.parse` reads a whole text as the entries of one table. The values are read by
small readers over the remaining characters; `Builder` collects them into nested
tables and knows which tables may no longer be opened (`closed`) or changed
(`frozen`). A text that is no TOML is told apart from one that asks for too much: a
number of very many digits, or values nested too deep.
-/

namespace TestImpact.Toml

/-- Why a text cannot be read. -/
inductive Problem where
  | malformed
  | tooManyDigits (count : Nat)
  | tooDeep
  deriving DecidableEq, Repr

/-- A reader gives a value and the rest, or nothing when the text is no TOML. -/
abbrev Reader (α : Type) := List Char → Option (α × List Char)

/-- A result, or the problem that the text is no TOML. -/
def orMalformed {α : Type} : Option α → Except Problem α
  | some a => .ok a
  | none => .error .malformed

/-- The names that lead to a value through nested tables. -/
abbrev Key := List String

/-- Blanks inside a line. -/
def isSpace (c : Char) : Bool :=
  c = ' ' || c = '\t'

/-- Drops blanks inside a line. -/
def skipSpace (text : List Char) : List Char :=
  text.dropWhile isSpace

/-- Control characters, which stand in no string and no comment. A tab is none of them. -/
def isControl (c : Char) : Bool :=
  (c.toNat < 32 && c ≠ '\t') || c.toNat = 127

/-- Drops a comment, up to the end of its line. -/
def skipComment (text : List Char) : Option (List Char) :=
  match text with
  | '#' :: rest =>
    let comment := rest.takeWhile (· ≠ '\n')
    if comment.any isControl then none else some (rest.drop comment.length)
  | _ => some text

/-- Drops blanks, line ends and comments. -/
def skipLines : (fuel : Nat) → List Char → Option (List Char)
  | 0, text => some text
  | fuel + 1, text =>
    let found := text.dropWhile fun c => isSpace c || c = '\n'
    match found with
    | '#' :: _ => (skipComment found).bind (skipLines fuel)
    | _ => some found

/-! ## Strings -/

/-- Reads hexadecimal digits as the number of a character. -/
def hexChar (count : Nat) : Reader Char := fun text =>
  let digits := text.take count
  if digits.length = count && digits.all Hex.isDigit then
    let n := Hex.valueOf 16 digits
    if n.isValidChar then some (Char.ofNat n, text.drop count) else none
  else none

/-- The characters of the one-letter escapes. -/
def escapeChar? : Char → Option Char
  | 'b' => some '\x08'
  | 't' => some '\t'
  | 'n' => some '\n'
  | 'f' => some '\x0c'
  | 'r' => some '\r'
  | '"' => some '"'
  | '\\' => some '\\'
  | _ => none

/-- Reads what follows a backslash. In a string of several lines a backslash at the end of a
line takes the line end and the blanks behind it away. -/
def escape (lines : Bool) : Reader (List Char) := fun text =>
  match text with
  | 'u' :: rest => (hexChar 4 rest).map fun (c, rest) => ([c], rest)
  | 'U' :: rest => (hexChar 8 rest).map fun (c, rest) => ([c], rest)
  | c :: rest =>
    if lines && (isSpace c || c = '\n') then
      match skipSpace text with
      | [] => some ([], [])
      | '\n' :: rest => some ([], rest.dropWhile fun c => isSpace c || c = '\n')
      | _ => none
    else (escapeChar? c).map fun c => ([c], rest)
  | [] => none

/-- Reads a basic string to its closing quotes, one or three of them. -/
def basicBody (lines : Bool) : (fuel : Nat) → Reader (List Char)
  | 0, _ => none
  | fuel + 1, text =>
    match text with
    | [] => none
    | '"' :: rest =>
      if !lines then some ([], rest)
      else
        match rest with
        | '"' :: '"' :: rest => some ([], rest)
        | _ => (basicBody lines fuel rest).map fun (cs, rest) => ('"' :: cs, rest)
    | '\\' :: rest => do
      let (escaped, rest) ← escape lines rest
      let (cs, rest) ← basicBody lines fuel rest
      pure (escaped ++ cs, rest)
    | c :: rest =>
      if isControl c && !(lines && c = '\n') then none
      else (basicBody lines fuel rest).map fun (cs, rest) => (c :: cs, rest)

/-- Reads a literal string to its closing quotes. -/
def literalBody (lines : Bool) : Reader (List Char)
  | [] => none
  | '\'' :: rest =>
    if !lines then some ([], rest)
    else
      match rest with
      | '\'' :: '\'' :: rest => some ([], rest)
      | _ => (literalBody lines rest).map fun (cs, rest) => ('\'' :: cs, rest)
  | c :: rest =>
    if isControl c && !(lines && c = '\n') then none
    else (literalBody lines rest).map fun (cs, rest) => (c :: cs, rest)

/-- A line end at the beginning of a string of several lines does not count. -/
def dropFirstLineEnd : List Char → List Char
  | '\n' :: rest => rest
  | text => text

/-- One or two quotes in front of the closing three belong to the string. -/
def extraQuotes (quote : Char) (body : List Char × List Char) : List Char × List Char :=
  let extra := (body.2.takeWhile (· = quote)).take 2
  (body.1 ++ extra, body.2.drop extra.length)

/-- Reads a string of any kind. -/
def string : Reader String := fun text =>
  let body :=
    match text with
    | '"' :: '"' :: '"' :: rest =>
      (basicBody true (rest.length + 1) (dropFirstLineEnd rest)).map (extraQuotes '"')
    | '\'' :: '\'' :: '\'' :: rest =>
      (literalBody true (dropFirstLineEnd rest)).map (extraQuotes '\'')
    | '"' :: rest => basicBody false (rest.length + 1) rest
    | '\'' :: rest => literalBody false rest
    | _ => none
  body.map fun (cs, rest) => (String.ofList cs, rest)

/-! ## Keys -/

/-- Characters of keys without quotes. -/
def isBare (c : Char) : Bool :=
  c.isAlphanum || c = '-' || c = '_'

/-- Reads one name of a key. -/
def keyPart : Reader String := fun text =>
  match text with
  | '"' :: rest => (basicBody false (rest.length + 1) rest).map fun (cs, r) => (String.ofList cs, r)
  | '\'' :: rest => (literalBody false rest).map fun (cs, r) => (String.ofList cs, r)
  | _ =>
    let name := text.takeWhile isBare
    if name.isEmpty then none else some (String.ofList name, text.drop name.length)

/-- Reads a key, and the blanks behind it. -/
def key : (fuel : Nat) → Reader Key
  | 0, _ => none
  | fuel + 1, text => do
    let (part, rest) ← keyPart text
    match skipSpace rest with
    | '.' :: rest =>
      let (parts, rest) ← key fuel (skipSpace rest)
      pure (part :: parts, rest)
    | rest => pure ([part], rest)

/-! ## Dates, times and numbers -/

/-- Takes characters of given classes, one after another. -/
def takeClasses : List (Char → Bool) → Reader (List Char)
  | [], text => some ([], text)
  | _ :: _, [] => none
  | p :: ps, c :: rest =>
    if p c then (takeClasses ps rest).map fun (cs, rest) => (c :: cs, rest) else none

/-- The class of one character. -/
def just (c : Char) : Char → Bool := (· = c)

/-- Takes a time of day, with places of a second if there are any. -/
def time : Reader (List Char) := fun text => do
  let sixty (c : Char) : Bool := '0' ≤ c && c ≤ '5'
  let (clock, rest) ← takeClasses
    [Char.isDigit, Char.isDigit, just ':', sixty, Char.isDigit, just ':', sixty, Char.isDigit] text
  if 24 ≤ Numeral.natOf (clock.take 2) then none
  else
    match rest with
    | '.' :: behind =>
      let places := behind.takeWhile Char.isDigit
      if places.isEmpty then pure (clock, rest)
      else pure (clock ++ '.' :: places, behind.drop places.length)
    | _ => pure (clock, rest)

/-- Takes the distance of a time zone, if there is one. -/
def zone (text : List Char) : List Char × List Char :=
  match text with
  | c :: rest =>
    if c = 'Z' || c = 'z' then ([c], rest)
    else if c = '+' || c = '-' then
      match takeClasses [Char.isDigit, Char.isDigit, just ':', fun d => '0' ≤ d && d ≤ '5',
          Char.isDigit] rest with
      | some (offset, behind) =>
        if Numeral.natOf (offset.take 2) < 24 then (c :: offset, behind) else ([], text)
      | none => ([], text)
    else ([], text)
  | [] => ([], [])

/-- The number of days of a month. -/
def daysOf (year month : Nat) : Nat :=
  if month = 2 then
    if year % 4 = 0 && (year % 100 ≠ 0 || year % 400 = 0) then 29 else 28
  else if month = 4 || month = 6 || month = 9 || month = 11 then 30
  else 31

/-- Takes a date in digits; the outer answer is that of the form, the inner one that of the
calendar. -/
def date : Reader (List Char × Bool) := fun text => do
  let d := Char.isDigit
  let (digits, rest) ← takeClasses [d, d, d, d, just '-', d, d, just '-', d, d] text
  let year := Numeral.natOf (digits.take 4)
  let month := Numeral.natOf ((digits.drop 5).take 2)
  let day := Numeral.natOf (digits.drop 8)
  if month = 0 || 12 < month || day = 0 || 31 < day then none
  else pure ((digits, 0 < year && day ≤ daysOf year month), rest)

/-- Reads a date, with a time and a zone if they follow, or a time. Nothing inside the answer
means that the calendar has no such day. -/
def moment : Reader (Option String) := fun text =>
  match date text with
  | some ((digits, valid), rest) =>
    let (whole, rest) :=
      match rest with
      | c :: behind =>
        if c = 'T' || c = 't' || c = ' ' then
          match time behind with
          | some (clock, rest) =>
            let (offset, rest) := zone rest
            (digits ++ c :: clock ++ offset, rest)
          | none => (digits, rest)
        else (digits, rest)
      | [] => (digits, [])
    some (if valid then some (String.ofList whole) else none, rest)
  | none => (time text).map fun (clock, rest) => (some (String.ofList clock), rest)

/-- Takes digits of a class, with single `_` between them. -/
def digitRun (p : Char → Bool) : List Char → List Char
  | c :: '_' :: d :: rest =>
    if p c then if p d then c :: '_' :: digitRun p (d :: rest) else [c] else []
  | c :: rest => if p c then c :: digitRun p rest else []
  | [] => []

/-- Characters without the `_` between digits. -/
def plainDigits (cs : List Char) : List Char :=
  cs.filter (· ≠ '_')

/-- Reads a whole number in base 16, 8 or 2. -/
def basedNumber : Reader Value := fun text =>
  match text with
  | '0' :: mark :: rest =>
    let base? : Option (Nat × (Char → Bool)) :=
      match mark with
      | 'x' => some (16, Hex.isDigit)
      | 'o' => some (8, fun c => '0' ≤ c && c ≤ '7')
      | 'b' => some (2, fun c => c = '0' || c = '1')
      | _ => none
    match base? with
    | none => none
    | some (base, p) =>
      let digits := digitRun p rest
      if digits.isEmpty then none
      else
        let n := Hex.valueOf base (plainDigits digits)
        some (.int n, rest.drop digits.length)
  | _ => none

/-- Takes a mark and the digits behind it, if there are any. -/
def markedDigits (mark : Char → Bool) (signs : Bool) (text : List Char) : List Char :=
  match text with
  | c :: rest =>
    if mark c then
      let sign := if signs then (rest.take 1).filter (fun c => c = '+' || c = '-') else []
      let digits := digitRun Char.isDigit (rest.drop sign.length)
      if digits.isEmpty then [] else c :: (sign ++ digits)
    else []
  | [] => []

/-- The whole number of some digits. -/
def wholeNumber (negative : Bool) (digits : List Char) : Except Problem Value :=
  if Numeral.digitLimit < digits.length then .error (.tooManyDigits digits.length)
  else
    let n : Int := Numeral.natOf digits
    .ok (.int (if negative then -n else n))

/-- Reads a whole number or a number with a point or an exponent. -/
def decimalNumber : Reader (Except Problem Value) := fun text =>
  let sign := (text.take 1).filter fun c => c = '+' || c = '-'
  let body := text.drop sign.length
  let whole := if body.head? = some '0' then ['0'] else digitRun Char.isDigit body
  if whole.isEmpty then none
  else
    let rest := body.drop whole.length
    let places := markedDigits (just '.') false rest
    let rest := rest.drop places.length
    let power := markedDigits (fun c => c = 'e' || c = 'E') true rest
    let rest := rest.drop power.length
    if places.isEmpty && power.isEmpty then
      some (wholeNumber (sign = ['-']) (plainDigits whole), rest)
    else
      (Numeral.decimal? (plainDigits (sign ++ whole ++ places ++ power))).map fun d =>
        (.ok (.float d.toFloat), rest)

/-- Reads one of the words for numbers that have no digits. -/
def specialNumber : Reader Value := fun text =>
  let sign := (text.take 1).filter fun c => c = '+' || c = '-'
  let word := (text.drop sign.length).take 3
  if word = "inf".toList || word = "nan".toList then
    (Numeral.special? (sign ++ word)).map fun x => (.float x, text.drop (sign.length + 3))
  else none

/-! ## Nested tables -/

/-- Goes down a key, makes the tables that are missing, and changes the entries at its end. With
`intoLists` the way leads through the last item of a list. -/
def descend (intoLists : Bool) (change : List (String × Value) → Option (List (String × Value))) :
    Key → List (String × Value) → Option (List (String × Value))
  | [], entries => change entries
  | name :: rest, entries => do
    match Value.get? entries name with
    | none => pure (Value.put entries name (.table (← descend intoLists change rest [])))
    | some (.table inner) =>
      pure (Value.put entries name (.table (← descend intoLists change rest inner)))
    | some (.list items) =>
      if !intoLists then none
      else
        match items.getLast? with
        | some (.table inner) =>
          let inner ← descend intoLists change rest inner
          pure (Value.put entries name (.list (items.dropLast ++ [.table inner])))
        | _ => none
    | some _ => none

/-- Gives a key a value unless it has one. -/
def define (intoLists : Bool) (key : Key) (v : Value) (entries : List (String × Value)) :
    Option (List (String × Value)) :=
  let name := key.getLastD ""
  descend intoLists (fun inner =>
    if (Value.get? inner name).isSome then none else some (Value.put inner name v)) key.dropLast
    entries

/-- Adds an empty table to a list of tables. -/
def appendTable (key : Key) (entries : List (String × Value)) : Option (List (String × Value)) :=
  let name := key.getLastD ""
  descend true (fun inner =>
    match Value.get? inner name with
    | none => some (Value.put inner name (.list [.table []]))
    | some (.list items) => some (Value.put inner name (.list (items ++ [.table []])))
    | some _ => none) key.dropLast entries

/-- Does one of the keys lead to a key or to something around it? -/
def covers (keys : List Key) (key : Key) : Bool :=
  keys.any (·.isPrefixOf key)

/-- Are a list or table written in one piece? -/
def isNested : Value → Bool
  | .list _ | .table _ => true
  | _ => false

/-! ## Values -/

/-- What nested values may take up together. -/
def room : Nat := 985

/-- What a list takes up. -/
def listSize : Nat := 2

/-- What a table in one line takes up. -/
def tableSize : Nat := 3

/-- Reads a date, a time or a number. -/
def scalar (text : List Char) : Except Problem (Value × List Char) :=
  match moment text with
  | some (found, rest) => (orMalformed found).map fun m => (.moment m, rest)
  | none =>
    match basedNumber text, decimalNumber text with
    | some found, _ => .ok found
    | none, some (found, rest) => found.map (·, rest)
    | none, none => orMalformed (specialNumber text)

mutual

/-- Reads a value. The fuel bounds the number of the parts, `room` what those that are nested in
each other may take up. -/
def value : (fuel room : Nat) → List Char → Except Problem (Value × List Char)
  | 0, _, _ => .error .malformed
  | fuel + 1, room, text =>
    match text with
    | '"' :: _ | '\'' :: _ => orMalformed ((string text).map fun (s, rest) => (.string s, rest))
    | 't' :: 'r' :: 'u' :: 'e' :: rest => .ok (.bool true, rest)
    | 'f' :: 'a' :: 'l' :: 's' :: 'e' :: rest => .ok (.bool false, rest)
    | '[' :: rest =>
      if room < listSize then .error .tooDeep
      else do
        match ← orMalformed (skipLines rest.length rest) with
        | ']' :: rest => pure (.list [], rest)
        | rest =>
          let (items, rest) ← items fuel (room - listSize) rest
          pure (.list items, rest)
    | '\x7b' :: rest =>
      if room < tableSize then .error .tooDeep
      else
        match skipSpace rest with
        | '\x7d' :: rest => .ok (.table [], rest)
        | rest => pairs fuel (room - tableSize) [] [] rest
    | _ => scalar text

/-- Reads the items of a list up to its closing bracket. -/
def items : (fuel room : Nat) → List Char → Except Problem (List Value × List Char)
  | 0, _, _ => .error .malformed
  | fuel + 1, room, text => do
    let (first, rest) ← value fuel room text
    match ← orMalformed (skipLines rest.length rest) with
    | ']' :: rest => pure ([first], rest)
    | ',' :: rest =>
      match ← orMalformed (skipLines rest.length rest) with
      | ']' :: rest => pure ([first], rest)
      | rest =>
        let (others, rest) ← items fuel room rest
        pure (first :: others, rest)
    | _ => throw .malformed

/-- Reads the pairs of a table in one line up to its closing brace. -/
def pairs : (fuel room : Nat) → (frozen : List Key) → List (String × Value) → List Char →
    Except Problem (Value × List Char)
  | 0, _, _, _, _ => .error .malformed
  | fuel + 1, room, frozen, entries, text => do
    let (k, rest) ← orMalformed (key (text.length + 1) text)
    match rest with
    | '=' :: rest =>
      let (v, rest) ← value fuel room (skipSpace rest)
      if covers frozen k then throw .malformed
      else
        let entries ← orMalformed (define false k v entries)
        match skipSpace rest with
        | '\x7d' :: rest => pure (.table entries, rest)
        | ',' :: rest =>
          pairs fuel room (if isNested v then k :: frozen else frozen) entries (skipSpace rest)
        | _ => throw .malformed
    | _ => throw .malformed

end

/-! ## Documents -/

/-- What has been read of a document. -/
structure Builder where
  entries : List (String × Value) := []
  /-- The table that keys are read into. -/
  header : Key := []
  /-- Tables that may not be opened by a header any more. -/
  closed : List Key := []
  /-- Tables that will be closed by the next header. -/
  closing : List Key := []
  /-- Lists and tables that were written in one piece. -/
  frozen : List Key := []

namespace Builder

/-- The tables around the last name of a key, as seen from the header. -/
def innerTables (b : Builder) (k : Key) : List Key :=
  (List.range (k.length - 1)).map fun i => b.header ++ k.take (i + 1)

/-- Adds a key and its value. -/
def pair (b : Builder) (k : Key) (v : Value) : Option Builder :=
  let inner := b.innerTables k
  if inner.any b.closed.contains || covers b.frozen (b.header ++ k.dropLast) then none
  else do
    let entries ← define true (b.header ++ k) v b.entries
    pure { b with
      entries
      closing := inner ++ b.closing
      frozen := if isNested v then (b.header ++ k) :: b.frozen else b.frozen }

/-- Closes the tables that a header ends. -/
def settle (b : Builder) : Builder :=
  { b with closed := b.closing ++ b.closed, closing := [] }

/-- Opens a table. -/
def openTable (b : Builder) (k : Key) : Option Builder :=
  if b.closed.contains k || covers b.frozen k then none
  else do
    let entries ← descend true some k b.entries
    pure { b with entries, header := k, closed := k :: b.closed }

/-- Opens the next table of a list. What was known of the last one is forgotten. -/
def openItem (b : Builder) (k : Key) : Option Builder :=
  if covers b.frozen k then none
  else do
    let entries ← appendTable k b.entries
    let keep (keys : List Key) : List Key := keys.filter fun other => !k.isPrefixOf other
    pure { b with entries, header := k, closed := k :: keep b.closed, frozen := keep b.frozen }

end Builder

/-- Reads one statement: a header, or a key and its value. -/
def statement (b : Builder) (text : List Char) : Except Problem (Builder × List Char) := do
  match text with
  | '[' :: '[' :: rest =>
    let (k, rest) ← orMalformed (key (rest.length + 1) (skipSpace rest))
    match rest with
    | ']' :: ']' :: rest => pure (← orMalformed (b.settle.openItem k), rest)
    | _ => throw .malformed
  | '[' :: rest =>
    let (k, rest) ← orMalformed (key (rest.length + 1) (skipSpace rest))
    match rest with
    | ']' :: rest => pure (← orMalformed (b.settle.openTable k), rest)
    | _ => throw .malformed
  | _ =>
    let (k, rest) ← orMalformed (key (text.length + 1) text)
    match rest with
    | '=' :: rest =>
      let (v, rest) ← value (rest.length + 1) room (skipSpace rest)
      pure (← orMalformed (b.pair k v), rest)
    | _ => throw .malformed

/-- Reads statements, one on a line. -/
def statements : (fuel : Nat) → Builder → List Char → Except Problem Builder
  | 0, _, _ => .error .malformed
  | fuel + 1, b, text => do
    let (b, rest) ←
      match skipSpace text with
      | [] => pure (b, [])
      | '\n' :: rest => pure (b, '\n' :: rest)
      | '#' :: rest => pure (b, '#' :: rest)
      | found => statement b found
    match ← orMalformed (skipComment (skipSpace rest)) with
    | [] => pure b
    | '\n' :: rest => statements fuel b rest
    | _ => throw .malformed

/-- A text with every pair of a carriage return and a line feed made a line feed. -/
def unifyLineEnds : List Char → List Char
  | '\r' :: '\n' :: rest => '\n' :: unifyLineEnds rest
  | c :: rest => c :: unifyLineEnds rest
  | [] => []

/-- Reads a text as the entries of a table. -/
def parse (text : String) : Except Problem (List (String × Value)) :=
  let cs := unifyLineEnds text.toList
  (statements (cs.length + 1) {} cs).map (·.entries)

end TestImpact.Toml
