import TestImpact.Text.Blank

/-!
# Words and marks of the command language

A word is a row of pieces: text as it stands, quoted text, the value of a parameter, or
what a command prints. Blanks end a word, and so do the marks that join commands and the
arrows that redirect their channels. A `#` at the beginning of a word begins a comment.
-/

namespace TestImpact.Shell

/-- A part of a word. Quoted parts are never split. -/
inductive Piece where
  | text (content : String) (quoted : Bool)
  | parameter (name : String) (fallback : Option String) (quoted : Bool)
  /-- What a script prints. -/
  | printed (script : String) (quoted : Bool)
  deriving DecidableEq, Repr

/-- A row of pieces. -/
abbrev Word := List Piece

/-- What stands between commands. -/
inductive Mark where
  | next
  | onSuccess
  | onFailure
  | pipe
  deriving DecidableEq, Repr

/-- What an arrow does with a channel. -/
inductive Arrow where
  | read
  | write
  | append
  | duplicate
  deriving DecidableEq, Repr

/-- The smallest parts of a script that mean something. -/
inductive Token where
  | word (word : Word)
  | mark (mark : Mark)
  | newline
  /-- Redirects a channel to what the next word names. -/
  | arrow (channel : Nat) (arrow : Arrow)
  deriving DecidableEq, Repr

namespace Token

/-- May a character stand at the beginning of a name? -/
def isNameStart (c : Char) : Bool := c.isAlpha || c = '_'

/-- May a character stand in a name? -/
def isNameChar (c : Char) : Bool := c.isAlphanum || c = '_'

/-- The parameters whose names are no words. -/
def specialParameters : List Char := ['@', '*', '#', '?', '$', '!', '-']

/-- Cuts the inside of braces into a name and a fallback. -/
def braced (inside : List Char) (quoted : Bool) : Piece :=
  let name := match inside with
    | c :: _ => if isNameStart c then inside.takeWhile isNameChar else inside.take 1
    | [] => []
  match inside.drop name.length with
  | ':' :: '-' :: fallback => .parameter (String.ofList name) (some (String.ofList fallback)) quoted
  | _ => .parameter (String.ofList name) none quoted

/-- The text up to the parenthesis that closes one that is open, `depth` of them inside it. -/
def enclosed : (depth : Nat) → List Char → List Char
  | _, [] => []
  | 0, ')' :: _ => []
  | depth + 1, ')' :: rest => ')' :: enclosed depth rest
  | depth, '(' :: rest => '(' :: enclosed (depth + 1) rest
  | depth, c :: rest => c :: enclosed depth rest

/-- Reads what follows a dollar sign: a piece, and how many characters it has. -/
def dollar (quoted : Bool) (text : List Char) : Piece × Nat :=
  match text with
  | '\x7b' :: rest =>
    let inside := rest.takeWhile (· ≠ '\x7d')
    (braced inside quoted, inside.length + 2)
  | '(' :: rest =>
    let inside := enclosed 0 rest
    (.printed (String.ofList inside) quoted, inside.length + 2)
  | c :: rest =>
    if isNameStart c then
      let name := c :: rest.takeWhile isNameChar
      (.parameter (String.ofList name) none quoted, name.length)
    else if c.isDigit || specialParameters.contains c then
      (.parameter (String.ofList [c]) none quoted, 1)
    else (.text "$" true, 0)
  | [] => (.text "$" true, 0)

/-- Reads what follows a backquote. -/
def backquoted (quoted : Bool) (text : List Char) : Piece × Nat :=
  let inside := text.takeWhile (· ≠ '\x60')
  (.printed (String.ofList inside) quoted, inside.length + 1)

/-- The characters that a backslash between double quotes takes the meaning from. -/
def special : List Char := ['$', '\x60', '"', '\\']

/-- Reads what follows an opening double quote: its pieces, and how many characters there are with
the closing one. -/
def quotedPieces (text : List Char) : Word × Nat :=
  match text with
  | [] => ([], 0)
  | '"' :: _ => ([], 1)
  | '\\' :: '\n' :: rest => count 2 [] (quotedPieces rest)
  | '\\' :: c :: rest =>
    let shown := if special.contains c then [c] else ['\\', c]
    count 2 [.text (String.ofList shown) true] (quotedPieces rest)
  | '$' :: rest =>
    let (piece, used) := dollar true rest
    count (1 + used) [piece] (quotedPieces (rest.drop used))
  | '\x60' :: rest =>
    let (piece, used) := backquoted true rest
    count (1 + used) [piece] (quotedPieces (rest.drop used))
  | c :: rest => count 1 [.text (String.ofList [c]) true] (quotedPieces rest)
termination_by text.length
decreasing_by all_goals grind
where
  /-- Puts pieces and the number of their characters in front. -/
  count (used : Nat) (pieces : Word) (more : Word × Nat) : Word × Nat :=
    (pieces ++ more.1, used + more.2)

/-- Reads an arrow: its channel if no number names one, what it does, and how many characters it
has. -/
def arrow? : List Char → Option (Nat × Arrow × Nat)
  | '>' :: '>' :: _ => some (1, .append, 2)
  | '>' :: '&' :: _ => some (1, .duplicate, 2)
  | '>' :: _ => some (1, .write, 1)
  | '<' :: _ => some (0, .read, 1)
  | _ => none

/-- Reads a mark or the end of a line, and how many characters it has. -/
def mark? : List Char → Option (Token × Nat)
  | '&' :: '&' :: _ => some (.mark .onSuccess, 2)
  | '|' :: '|' :: _ => some (.mark .onFailure, 2)
  | '|' :: _ => some (.mark .pipe, 1)
  | ';' :: _ => some (.mark .next, 1)
  | '\n' :: _ => some (.newline, 1)
  | _ => none

/-- The word that was read so far as a token; `none` stands for no word. -/
def finished (word : Option Word) : List Token :=
  (word.map Token.word).toList

/-- Adds pieces to the word that is being read. -/
def extended (word : Option Word) (pieces : Word) : Option Word :=
  some (word.getD [] ++ pieces)

/-- The channel that the word in front of an arrow names. -/
def channel? : Option Word → Option Nat
  | some [.text digit false] => digit.toNat?
  | _ => none

/-- What a text begins with: the tokens that are finished, the word that is being read, and how
many characters were read. -/
structure Step where
  finished : List Token := []
  word : Option Word := none
  used : Nat

/-- Reads one thing, behind a word that may have been begun. -/
def step (word : Option Word) (text : List Char) : Step :=
  match mark? text, arrow? text with
  | some (token, used), _ => ⟨finished word ++ [token], none, used⟩
  | none, some (usual, kind, used) =>
    match channel? word with
    | some channel => ⟨[.arrow channel kind], none, used⟩
    | none => ⟨finished word ++ [.arrow usual kind], none, used⟩
  | none, none =>
    match text with
    | '\\' :: '\n' :: _ => ⟨[], word, 2⟩
    | '\\' :: c :: _ => ⟨[], extended word [.text (String.ofList [c]) true], 2⟩
    | '\'' :: rest =>
      let inside := rest.takeWhile (· ≠ '\'')
      ⟨[], extended word [.text (String.ofList inside) true], inside.length + 2⟩
    | '"' :: rest =>
      let (pieces, used) := quotedPieces rest
      ⟨[], extended word (openQuotes pieces), 1 + used⟩
    | '$' :: rest =>
      let (piece, used) := dollar false rest
      ⟨[], extended word [piece], 1 + used⟩
    | '\x60' :: rest =>
      let (piece, used) := backquoted false rest
      ⟨[], extended word [piece], 1 + used⟩
    | c :: rest =>
      if c = ' ' || c = '\t' then ⟨finished word, none, 1⟩
      else if c = '#' && word.isNone then ⟨[], none, 1 + (rest.takeWhile (· ≠ '\n')).length⟩
      else ⟨[], extended word [.text (String.ofList [c]) false], 1⟩
    | [] => ⟨finished word, none, 0⟩
where
  /-- The pieces between double quotes: with nothing between them an empty text. -/
  openQuotes (pieces : Word) : Word :=
    if pieces.isEmpty then [.text "" true] else pieces

/-- Reads the tokens of a text behind a word that may have been begun. -/
def scanFrom (word : Option Word) : List Char → List Token
  | [] => finished word
  | c :: rest =>
    let step := step word (c :: rest)
    step.finished ++ scanFrom step.word (rest.drop (step.used - 1))
termination_by text => text.length
decreasing_by all_goals grind

/-- The tokens of a text. -/
def scan (text : String) : List Token :=
  scanFrom none text.toList

end Token

end TestImpact.Shell
