import TestImpact.Number.Shortest
import TestImpact.Text.Printable

/-!
# Texts in quotes

A message shows a raw text between quotes in a form without line breaks or invisible
characters. Single quotes are used unless the text holds one and no double quote.
-/

namespace TestImpact.Quoted

/-- A code point in hexadecimal digits behind a backslash and a letter for their number. -/
def codeEscape (c : Char) : List Char :=
  let n := c.toNat
  let (letter, width) := if n ≤ 0xff then ('x', 2) else if n ≤ 0xffff then ('u', 4) else ('U', 8)
  '\\' :: letter :: NumberStyle.padZeros width (Nat.toDigits 16 n)

/-- One character between quotes of a kind. -/
def escape (quote c : Char) : List Char :=
  if c = quote || c = '\\' then ['\\', c]
  else
    match c with
    | '\n' => ['\\', 'n']
    | '\r' => ['\\', 'r']
    | '\t' => ['\\', 't']
    | c => if Text.isPrintable c then [c] else codeEscape c

/-- The kind of quotes a text is put between. -/
def quoteFor (text : List Char) : Char :=
  if text.contains '\'' && !text.contains '"' then '"' else '\''

/-- A text between quotes. -/
def write (text : String) : String :=
  let quote := quoteFor text.toList
  String.ofList (quote :: (text.toList.flatMap (escape quote) ++ [quote]))

end TestImpact.Quoted
