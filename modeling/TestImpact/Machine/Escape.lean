import TestImpact.Text.Hex
import TestImpact.Text.Utf8

/-!
# Characters behind a backslash

Texts that are printed may name bytes by a backslash and what follows it. Two spellings
of octal numbers are in use: in a format up to three digits follow the backslash, in an
argument a zero stands in front of them. `\c` ends the printing.
-/

namespace TestImpact.Escape

/-- Which spellings are read. -/
structure Dialect where
  /-- Does a zero stand in front of octal digits? -/
  leadingZero : Bool := false
  /-- Are there hexadecimal numbers, `\e` and `\"`? -/
  extended : Bool := false
  deriving DecidableEq, Repr

/-- What a backslash stands for, and how many characters behind it belong to it. -/
inductive Meaning where
  | bytes (content : List UInt8) (used : Nat)
  | stop
  deriving DecidableEq, Repr

/-- The letters for control characters. -/
def letters : List (Char × UInt8) :=
  [('a', 7), ('b', 8), ('f', 12), ('n', 10), ('r', 13), ('t', 9), ('v', 11), ('\\', 92)]

/-- The letters that only the extended dialect knows. -/
def moreLetters : List (Char × UInt8) := [('e', 27), ('"', 34)]

/-- Is a character an octal digit? -/
def isOctal (c : Char) : Bool := '0' ≤ c && c ≤ '7'

/-- Reads an octal number of at most `most` digits, `skipped` characters behind the backslash. -/
def octal (skipped most : Nat) (text : List Char) : Meaning :=
  let digits := ((text.drop skipped).take most).takeWhile isOctal
  .bytes [UInt8.ofNat (Hex.valueOf 8 digits)] (skipped + digits.length)

/-- What a backslash in front of a text stands for. -/
def meaning (dialect : Dialect) (text : List Char) : Meaning :=
  match text with
  | [] => .bytes [92] 0
  | c :: rest =>
    match letters.lookup c, moreLetters.lookup c with
    | some byte, _ => .bytes [byte] 1
    | none, some byte => if dialect.extended then .bytes [byte] 1 else .bytes [92] 0
    | none, none =>
      if c = 'c' then if dialect.leadingZero || dialect.extended then .stop else .bytes [92] 0
      else if c = '0' && dialect.leadingZero then octal 1 3 text
      else if isOctal c then octal 0 3 text
      else if c = 'x' && dialect.extended then
        match (rest.take 2).takeWhile Hex.isDigit with
        | [] => .bytes [92] 0
        | digits => .bytes [UInt8.ofNat (Hex.valueOf 16 digits)] (1 + digits.length)
      else .bytes [92] 0

/-- The bytes of a text with backslashes, and whether printing ends with it. -/
def read (dialect : Dialect) : List Char → List UInt8 × Bool
  | [] => ([], false)
  | '\\' :: rest =>
    match meaning dialect rest with
    | .stop => ([], true)
    | .bytes content used =>
      let (more, stopped) := read dialect (rest.drop used)
      (content ++ more, stopped)
  | c :: rest =>
    let (more, stopped) := read dialect rest
    (Utf8.encodeChar c ++ more, stopped)
termination_by text => text.length
decreasing_by all_goals grind

end TestImpact.Escape
