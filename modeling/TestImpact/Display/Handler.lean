import TestImpact.Text.Blank
import TestImpact.Text.Hex
import TestImpact.Text.Lowercase
import TestImpact.Text.Pieces
import TestImpact.Text.Word

/-!
# What handlers are called with

A handler is called with a name and arguments in brackets, or with arguments alone. The
arguments are constants: numbers, texts, `True`, `False` and `None`, and tuples, sets and
dictionaries of them. `isReadable` tells constants from everything else.

The reader goes down one level of the remaining characters at a time and gets as much
fuel as there are characters, because each step that may recurse has taken one.
-/

namespace TestImpact.Handler

/-- What has to be known about a constant in order to put it into a larger one. -/
inductive Constant where
  /-- A number. A sign stands in front of a number without one, and an imaginary number without
  one stands behind a number that is not imaginary. -/
  | number (imaginary signed : Bool)
  | sum
  | text
  | bytes
  | word
  | tuple (isKey : Bool)
  | collection
  deriving DecidableEq, Repr

/-- May a constant be a member of a set, or a key? -/
def Constant.isKey : Constant → Bool
  | .collection => false
  | .tuple isKey => isKey
  | _ => true

/-- The rest of a text behind blanks and remarks. Inside brackets a line may end. -/
def skip (inside : Bool) : List Char → List Char
  | [] => []
  | c :: rest =>
    if c = ' ' || c = '\t' || c = '\x0c' || (inside && (c = '\n' || c = '\r')) then
      skip inside rest
    else if c = '#' then
      let behind := rest.dropWhile (· ≠ '\n')
      if inside then skip inside behind else behind
    else c :: rest
termination_by text => text.length
decreasing_by
  · simp
  · have shorter : (rest.dropWhile (· ≠ '\n')).length ≤ rest.length :=
      (List.dropWhile_suffix _).length_le
    exact Nat.lt_succ_of_le shorter

/-! ## Numbers -/

/-- Takes digits that single `_` may part. -/
def digits? (isDigit : Char → Bool) (text : List Char) : Option (List Char × List Char) :=
  let taken := text.takeWhile fun c => isDigit c || c = '_'
  let groups := Text.pieces '_' taken
  if groups.all (!·.isEmpty) then some (taken.filter (· ≠ '_'), text.drop taken.length) else none

/-- Takes a point and digits behind it. -/
def fraction? : List Char → Option (Bool × List Char)
  | '.' :: rest =>
    if (rest.head?.map Char.isDigit).getD false then
      (digits? Char.isDigit rest).map fun (_, rest) => (true, rest)
    else some (true, rest)
  | text => some (false, text)

/-- Takes an exponent. -/
def exponent? : List Char → Option (Bool × List Char)
  | 'e' :: rest | 'E' :: rest =>
    let digits := match rest with
      | '+' :: rest | '-' :: rest => rest
      | rest => rest
    (digits? Char.isDigit digits).map fun (_, rest) => (true, rest)
  | text => some (false, text)

/-- A number that has ended may not run on into a word. -/
def ended (imaginary : Bool) (rest : List Char) : Option (Constant × List Char) :=
  if (rest.head?.map Text.isWordChar).getD false then none
  else some (.number imaginary false, rest)

/-- Takes a number in a base marked by a letter. -/
def based? (isDigit : Char → Bool) (text : List Char) : Option (Constant × List Char) :=
  let text := match text with
    | '_' :: rest => rest
    | text => text
  (digits? isDigit text).bind fun (_, rest) => ended false rest

/-- Takes a decimal number. A whole number does not begin with a zero. -/
def decimal? (text : List Char) : Option (Constant × List Char) := do
  let (whole, rest) ← if text.head? = some '.' then some ([], text) else digits? Char.isDigit text
  let (hasPoint, rest) ← fraction? rest
  let (hasExponent, rest) ← exponent? rest
  match rest with
  | 'j' :: rest | 'J' :: rest => ended true rest
  | rest =>
    if !hasPoint && !hasExponent && whole.head? = some '0' && !whole.all (· = '0') then none
    else ended false rest

/-- Takes a number. -/
def number? : List Char → Option (Constant × List Char)
  | '0' :: 'x' :: rest | '0' :: 'X' :: rest => based? Hex.isDigit rest
  | '0' :: 'o' :: rest | '0' :: 'O' :: rest => based? (fun c => '0' ≤ c && c ≤ '7') rest
  | '0' :: 'b' :: rest | '0' :: 'B' :: rest => based? (fun c => c = '0' || c = '1') rest
  | text => decimal? text

/-! ## Texts -/

/-- How the letters of a text are read. -/
structure Quoting where
  quote : Char
  triple : Bool
  raw : Bool
  bytes : Bool

/-- Are there so many hexadecimal digits at the beginning of a text? -/
def hexDigits (count : Nat) (text : List Char) : Bool :=
  (text.take count).length = count && (text.take count).all Hex.isDigit

/-- Is what follows a backslash in order? -/
def isEscape (quoting : Quoting) : List Char → Bool
  | 'x' :: rest => hexDigits 2 rest
  | 'u' :: rest => quoting.bytes || hexDigits 4 rest
  | 'U' :: rest => quoting.bytes || (hexDigits 8 rest && Hex.valueOf 16 (rest.take 8) ≤ 0x10ffff)
  | 'N' :: rest =>
    quoting.bytes || (rest.head? = some '\x7b' && (rest.drop 2).contains '\x7d')
  | _ => true

/-- Takes the letters of a text and the quotes behind it. -/
def letters? (quoting : Quoting) : List Char → Option (List Char)
  | [] => none
  | c :: rest =>
    if quoting.bytes && 0x80 ≤ c.toNat then none
    else if c = '\\' then
      match rest with
      | [] => none
      | escaped :: behind =>
        if quoting.bytes && 0x80 ≤ escaped.toNat then none
        else if quoting.raw || isEscape quoting rest then letters? quoting behind
        else none
    else if c = quoting.quote && !quoting.triple then some rest
    else if c = quoting.quote && rest.take 2 = [c, c] then some (rest.drop 2)
    else if c = '\n' && !quoting.triple then none
    else letters? quoting rest

/-- Takes a text behind its marks. -/
def quoted? (raw bytes : Bool) : List Char → Option (Constant × List Char)
  | [] => none
  | quote :: rest =>
    let kind : Constant := if bytes then .bytes else .text
    if quote ≠ '"' && quote ≠ '\'' then none
    else if rest.take 2 = [quote, quote] then
      (letters? ⟨quote, true, raw, bytes⟩ (rest.drop 2)).map (kind, ·)
    else (letters? ⟨quote, false, raw, bytes⟩ rest).map (kind, ·)

/-- Takes a word or a text with marks in front of it. -/
def word? (text : List Char) : Option (Constant × List Char) :=
  let word := text.takeWhile Text.isWordChar
  let rest := text.drop word.length
  match String.ofList word with
  | "True" | "False" | "None" => some (.word, rest)
  | "" => quoted? false false rest
  | marks =>
    match Text.lowercase marks with
    | "u" => quoted? false false rest
    | "r" => quoted? true false rest
    | "b" => quoted? false true rest
    | "br" | "rb" => quoted? true true rest
    | _ => none

/-- Takes the texts of one kind that follow a text: together they are one. -/
def moreTexts (inside : Bool) (kind : Constant) : (fuel : Nat) → List Char →
    Option (Constant × List Char)
  | 0, rest => some (kind, rest)
  | fuel + 1, rest =>
    match skip inside rest with
    | c :: more =>
      if c = '"' || c = '\'' || "uUrRbB".toList.contains c then
        match word? (c :: more) with
        | some (next, behind) =>
          if next = kind then moreTexts inside kind fuel behind else none
        | none => none
      else some (kind, rest)
    | [] => some (kind, rest)

/-! ## Constants -/

mutual

/-- Takes a constant that stands alone. -/
def atom? (fuel : Nat) (inside : Bool) (text : List Char) : Option (Constant × List Char) :=
  match fuel with
  | 0 => none
  | fuel + 1 =>
    match skip inside text with
    | '(' :: rest =>
      match skip true rest with
      | ')' :: rest => some (.tuple true, rest)
      | rest => do
        let (first, rest) ← constant? fuel true rest
        match skip true rest with
        | ')' :: rest => some (first, rest)
        | ',' :: rest => do
          let (members, rest) ← members? fuel ')' rest
          some (.tuple ((first :: members).all Constant.isKey), rest)
        | _ => none
    | '\x7b' :: rest =>
      match skip true rest with
      | '\x7d' :: rest => some (.collection, rest)
      | rest => do
        let (first, rest) ← constant? fuel true rest
        if !first.isKey then none
        else
          match skip true rest with
          | '\x7d' :: rest => some (.collection, rest)
          | ',' :: rest => do
            let (members, rest) ← members? fuel '\x7d' rest
            if members.all Constant.isKey then some (.collection, rest) else none
          | ':' :: rest => do
            let (_, rest) ← constant? fuel true rest
            match skip true rest with
            | '\x7d' :: rest => some (.collection, rest)
            | ',' :: rest => do some (.collection, ← entries? fuel rest)
            | _ => none
          | _ => none
    | '.' :: '.' :: '.' :: rest => some (.word, rest)
    | 's' :: 'e' :: 't' :: rest =>
      match skip inside rest with
      | '(' :: rest =>
        match skip true rest with
        | ')' :: rest => some (.collection, rest)
        | _ => none
      | _ => none
    | c :: rest =>
      if c.isDigit || c = '.' then number? (c :: rest)
      else
        match word? (c :: rest) with
        | some (.text, rest) => moreTexts inside .text rest.length rest
        | some (.bytes, rest) => moreTexts inside .bytes rest.length rest
        | other => other
    | [] => none

/-- Takes a constant, which may have a sign and an imaginary part. -/
def constant? (fuel : Nat) (inside : Bool) (text : List Char) : Option (Constant × List Char) :=
  match fuel with
  | 0 => none
  | fuel + 1 => do
    let (first, rest) ← signed? fuel inside text
    match first, skip inside rest with
    | .number false _, '+' :: rest | .number false _, '-' :: rest => do
      match ← atom? fuel inside rest with
      | (.number true false, rest) => some (.sum, rest)
      | _ => none
    | first, rest => some (first, rest)

/-- Takes a constant that may have a sign. -/
def signed? (fuel : Nat) (inside : Bool) (text : List Char) : Option (Constant × List Char) :=
  match fuel with
  | 0 => none
  | fuel + 1 =>
    match skip inside text with
    | '+' :: rest | '-' :: rest => do
      match ← atom? fuel inside rest with
      | (.number imaginary false, rest) => some (.number imaginary true, rest)
      | _ => none
    | rest => atom? fuel inside rest

/-- Takes the further members of a tuple or a set, up to the closing bracket. -/
def members? (fuel : Nat) (closing : Char) (text : List Char) :
    Option (List Constant × List Char) :=
  match fuel with
  | 0 => none
  | fuel + 1 =>
    match skip true text with
    | [] => none
    | c :: rest =>
      if c = closing then some ([], rest)
      else do
        let (first, rest) ← constant? fuel true (c :: rest)
        match skip true rest with
        | ',' :: rest => do
          let (members, rest) ← members? fuel closing rest
          some (first :: members, rest)
        | d :: rest => if d = closing then some ([first], rest) else none
        | [] => none

/-- Takes the further entries of a dictionary, up to the closing bracket. -/
def entries? (fuel : Nat) (text : List Char) : Option (List Char) :=
  match fuel with
  | 0 => none
  | fuel + 1 =>
    match skip true text with
    | '\x7d' :: rest => some rest
    | rest => do
      let (key, rest) ← constant? fuel true rest
      if !key.isKey then none
      else
        match skip true rest with
        | ':' :: rest => do
          let (_, rest) ← constant? fuel true rest
          match skip true rest with
          | ',' :: rest => entries? fuel rest
          | '\x7d' :: rest => some rest
          | _ => none
        | _ => none

end

/-- Is a text a constant, or several with commas between them? -/
def isConstant : (fuel : Nat) → List Char → Bool
  | 0, _ => false
  | fuel + 1, text =>
    match constant? (4 * text.length + 4) false text with
    | none => false
    | some (_, rest) =>
      match skip false rest with
      | [] => true
      | ',' :: rest => (skip false rest).isEmpty || isConstant fuel rest
      | _ => false

/-- The arguments that a handler is called with: what follows its name, if the text begins with
a name, and otherwise the whole text. -/
def arguments (text : List Char) : List Char :=
  match text.dropWhile fun c => Text.isWordChar c || c = '.' with
  | [] => ['(', ')']
  | '(' :: rest =>
    if rest.getLast? = some ')' && !rest.contains '\n' then '(' :: rest else text
  | _ => text

/-- Can a handler be called with a text? Nothing at all is fine. -/
def isReadable (parameters : String) : Bool :=
  let text := (Text.trim parameters).toList
  parameters = "" || isConstant (text.length + 1) (arguments text)

end TestImpact.Handler
