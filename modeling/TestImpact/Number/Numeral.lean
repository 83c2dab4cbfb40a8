import TestImpact.Number.Shortest
import TestImpact.Text.Blank
import TestImpact.Text.DecimalDigit

/-!
# Reading numbers

`Numeral.int?` and `Numeral.float?` read a whole text as a number. Blanks around the
number are ignored, the digits of every script count, and one `_` may stand between
two digits. `decimal?` is the plain form of a number with a point and an exponent
that the other readers share.
-/

namespace TestImpact.Numeral

/-- The value of a list of ASCII digits. -/
def natOf (digits : List Char) : Nat :=
  digits.foldl (fun n c => 10 * n + (c.toNat - '0'.toNat)) 0

/-- Takes out the `_` between digits. A `_` anywhere else makes the text no number. -/
def withoutSeparators : (afterDigit : Bool) → List Char → Option (List Char)
  | _, [] => some []
  | afterDigit, '_' :: rest =>
    match rest with
    | c :: _ => if afterDigit && c.isDigit then withoutSeparators false rest else none
    | [] => none
  | _, c :: rest => (withoutSeparators c.isDigit rest).map (c :: ·)

/-- A sign and what follows it. -/
def signed : List Char → Bool × List Char
  | '-' :: rest => (true, rest)
  | '+' :: rest => (false, rest)
  | text => (false, text)

/-- The most digits a whole number may be written with. -/
def digitLimit : Nat := 4300

/-- Reads a whole number in ASCII digits with an optional sign. -/
def plainInt? (text : List Char) : Option Int :=
  let (negative, digits) := signed text
  if digits.isEmpty || !digits.all Char.isDigit || digitLimit < digits.length then none
  else some (if negative then -(natOf digits : Int) else natOf digits)

/-- A decimal number, still exact. -/
structure Decimal where
  negative : Bool
  digits : Nat
  exponent : Int
  deriving DecidableEq, Repr

/-- The double nearest to a decimal. Exponents far outside the range of doubles are not
computed out. -/
def Decimal.toFloat (d : Decimal) : Float :=
  let leading := d.exponent + (Nat.toDigits 10 d.digits).length
  if d.digits = 0 || leading < -400 then Binary64.ofRatio d.negative ⟨0, 1⟩
  else if 400 < leading then Binary64.ofRatio d.negative ⟨Nat.pow 10 400, 1⟩
  else Binary64.ofRatio d.negative (Binary64.Ratio.ofScaled 10 d.digits d.exponent)

/-- Reads what follows the mantissa: nothing, or `e` and a whole number. -/
def exponent? : List Char → Option Int
  | [] => some 0
  | e :: rest =>
    if e = 'e' || e = 'E' then
      let (negative, digits) := signed rest
      if digits.isEmpty || !digits.all Char.isDigit then none
      else some (if negative then -(natOf digits : Int) else natOf digits)
    else none

/-- Reads a number with an optional sign, point and exponent; a digit must stand before or
behind the point. -/
def decimal? (text : List Char) : Option Decimal :=
  let (negative, body) := signed text
  let whole := body.takeWhile Char.isDigit
  let (places, rest) :=
    match body.drop whole.length with
    | '.' :: behind =>
      let places := behind.takeWhile Char.isDigit
      (places, behind.drop places.length)
    | other => ([], other)
  if whole.isEmpty && places.isEmpty then none
  else (exponent? rest).map fun e =>
    ⟨negative, natOf (whole ++ places), e - places.length⟩

/-- The words for values that are no decimal. -/
def special? (text : List Char) : Option Float :=
  let (negative, word) := signed text
  match String.ofList (word.map Char.toLower) with
  | "inf" | "infinity" =>
    some (Float.ofBits (if negative then 0xfff0000000000000 else 0x7ff0000000000000))
  | "nan" => some (Float.ofBits 0x7ff8000000000000)
  | _ => none

/-- Reads a double: a decimal, or a word such as `inf` or `nan`. -/
def plainFloat? (text : List Char) : Option Float :=
  match decimal? text with
  | some d => some d.toFloat
  | none => special? text

/-- A blank that may stand around a number: every blank but the separators of records. -/
def isMargin (c : Char) : Bool :=
  Text.isBlank c && !(0x1c ≤ c.toNat && c.toNat ≤ 0x1f)

/-- What a number is read from: no margins, plain digits, no separators. -/
def body? (text : String) : Option (List Char) :=
  withoutSeparators false ((Text.trimOf isMargin text.toList).map Text.plainDigit)

/-- Reads a text as a whole number. -/
def int? (text : String) : Option Int :=
  (body? text).bind plainInt?

/-- Reads a text as a double. -/
def float? (text : String) : Option Float :=
  (body? text).bind plainFloat?

end TestImpact.Numeral
