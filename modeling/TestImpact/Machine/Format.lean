import TestImpact.Machine.Escape
import TestImpact.Number.Fixed
import TestImpact.Number.Numeral

/-!
# Printing by a format

A format is text with directives in it, each of which prints one argument. As long as
arguments are left the format is used again. A directive without an argument prints as if
it had an empty one, and an argument that should be a number and is none counts as zero.
-/

namespace TestImpact.Format

/-- How one argument is printed. -/
structure Directive where
  leftAligned : Bool := false
  zeroFilled : Bool := false
  signed : Bool := false
  width : Nat := 0
  precision : Option Nat := none
  letter : Char
  deriving DecidableEq, Repr

/-- What a format is made of. -/
inductive Piece where
  | text (content : List UInt8)
  | directive (directive : Directive)
  | stop
  deriving DecidableEq, Repr

/-- The letters of directives. -/
def directiveLetters : List Char := ['s', 'b', 'c', 'd', 'i', 'u', 'o', 'x', 'X']

/-- The number at the beginning of a text and the text behind it. -/
def count (text : List Char) : Nat × List Char :=
  (Numeral.natOf (text.takeWhile Char.isDigit), text.dropWhile Char.isDigit)

/-- Reads a directive behind its percent sign, with the number of characters it has. -/
def directive? (text : List Char) : Option (Directive × Nat) :=
  let flags := text.takeWhile ['-', '0', '+', ' ', '#'].contains
  let (width, rest) := count (text.drop flags.length)
  let (precision, rest) : Option Nat × List Char :=
    match rest with
    | '.' :: rest => let (precision, rest) := count rest; (some precision, rest)
    | _ => (none, rest)
  match rest with
  | letter :: rest =>
    if directiveLetters.contains letter then
      some ({ leftAligned := flags.contains '-', zeroFilled := flags.contains '0'
              signed := flags.contains '+', width, precision, letter }, text.length - rest.length)
    else none
  | [] => none

/-- Reads a format. -/
def pieces (dialect : Escape.Dialect) : List Char → List Piece
  | [] => []
  | '\\' :: rest =>
    match Escape.meaning dialect rest with
    | .stop => [.stop]
    | .bytes content used => .text content :: pieces dialect (rest.drop used)
  | '%' :: '%' :: rest => .text [37] :: pieces dialect rest
  | '%' :: rest =>
    match directive? rest with
    | some (directive, used) => .directive directive :: pieces dialect (rest.drop used)
    | none => .text [37] :: pieces dialect rest
  | c :: rest => .text (Utf8.encodeChar c) :: pieces dialect rest
termination_by text => text.length
decreasing_by all_goals grind

/-- Fills bytes up to a width. -/
def fill (directive : Directive) (padding : UInt8) (content : List UInt8) : List UInt8 :=
  let missing := directive.width - content.length
  if directive.leftAligned then content ++ List.replicate missing 32
  else List.replicate missing padding ++ content

/-- The whole number that an argument stands for: a character behind a quote, an octal number, a
hexadecimal number or a decimal one. An empty argument is zero. -/
def integer? (argument : String) : Option Int :=
  match argument.toList with
  | [] => some 0
  | quote :: c :: _ =>
    if quote = '\'' || quote = '"' then some c.toNat else number? argument.toList
  | text => number? text
where
  /-- The number that a text with an optional sign stands for. -/
  number? (text : List Char) : Option Int :=
    let (negative, digits) := Numeral.signed text
    let base : Nat × List Char := match digits with
      | '0' :: 'x' :: rest => (16, rest)
      | '0' :: c :: rest => (8, c :: rest)
      | _ => (10, digits)
    let valid := base.2.all fun c => (Hex.value? c).any (· < base.1)
    if base.2.isEmpty || !valid then none
    else some (if negative then -Hex.valueOf base.1 base.2 else Hex.valueOf base.1 base.2)

/-- The digits of a number in a base. -/
def digits (base n : Nat) (upper : Bool) : String :=
  let text := String.ofList (Nat.toDigits base n)
  if upper then text.map Char.toUpper else text

/-- A number as a directive prints it. Without a sign it is taken modulo the range of words. -/
def numberText (directive : Directive) (n : Int) : String :=
  let n := if ['u', 'o', 'x', 'X'].contains directive.letter then n % Nat.pow 2 64 else n
  let bare := match directive.letter with
    | 'o' => digits 8 n.natAbs false
    | 'x' => digits 16 n.natAbs false
    | 'X' => digits 16 n.natAbs true
    | _ => digits 10 n.natAbs false
  let filled := Fixed.padLeft '0' (directive.precision.getD 1) bare
  if n < 0 then "-" ++ filled else if directive.signed then "+" ++ filled else filled

/-- What is printed so far. -/
structure Printed where
  content : List UInt8 := []
  /-- The arguments that are no numbers and should be. -/
  wrong : List String := []
  stopped : Bool := false

/-- Adds bytes. -/
def Printed.add (printed : Printed) (content : List UInt8) : Printed :=
  { printed with content := printed.content ++ content }

/-- Prints one argument. -/
def Printed.argument (printed : Printed) (directive : Directive) (argument : String) : Printed :=
  let short (content : List UInt8) : List UInt8 :=
    match directive.precision with
    | some most => content.take most
    | none => content
  match directive.letter with
  | 's' => printed.add (fill directive 32 (short (Utf8.encode argument)))
  | 'c' => printed.add (fill directive 32 ((Utf8.encode argument).take 1))
  | 'b' =>
    let (content, stopped) := Escape.read { leadingZero := true } argument.toList
    { printed.add (fill directive 32 (short content)) with stopped }
  | _ =>
    let padding := if directive.zeroFilled && directive.precision.isNone then 48 else 32
    let text (n : Int) : List UInt8 := fill directive padding (Utf8.encode (numberText directive n))
    match integer? argument with
    | some n => printed.add (text n)
    | none => { printed.add (text 0) with wrong := printed.wrong ++ [argument] }

/-- Prints a format with arguments, each piece once. -/
def Printed.once (printed : Printed) : List Piece → List String → Printed
  | [], _ => printed
  | piece :: rest, arguments =>
    if printed.stopped then printed
    else
      match piece with
      | .text content => (printed.add content).once rest arguments
      | .stop => { printed with stopped := true }
      | .directive directive =>
        (printed.argument directive (arguments.headD "")).once rest arguments.tail

/-- The arguments for each use of a format that takes `size` at a time: at least one use. -/
def uses (size : Nat) (arguments : List String) : List (List String) :=
  if _ : size = 0 ∨ arguments.length ≤ size then [arguments]
  else arguments.take size :: uses size (arguments.drop size)
termination_by arguments.length
decreasing_by simp; omega

/-- Prints a format with all arguments. -/
def print (dialect : Escape.Dialect) (format : String) (arguments : List String) : Printed :=
  let found := pieces dialect format.toList
  let size := found.countP fun | .directive _ => true | _ => false
  (uses size arguments).foldl (fun printed arguments => printed.once found arguments) {}

end TestImpact.Format
