import TestImpact.Number.Binary64
import TestImpact.Number.Shortest

/-!
# Numbers with a fixed count of decimal places

The exact value of a double is rounded to the wanted places, a tie going to the
even digit.
-/

namespace TestImpact.Fixed

/-- An unsigned number of units of the last of `places` places, with its point. -/
def layOut (places units : Nat) : List Char :=
  let digits := NumberStyle.padZeros (places + 1) (Nat.toDigits 10 units)
  let whole := digits.take (digits.length - places)
  if places = 0 then whole else whole ++ '.' :: digits.drop (digits.length - places)

/-- The text of a double with `places` digits behind the point. -/
def write (places : Nat) (x : Float) : String :=
  let sign := if Binary64.isNegative x then "-" else ""
  match Binary64.ratio? x with
  | some r =>
    sign ++ String.ofList
      (layOut places (Binary64.roundDiv (r.numerator * Nat.pow 10 places) r.denominator))
  | none => if Binary64.fractionField x = 0 then sign ++ "inf" else "nan"

/-- A text filled up with `fill` on the left. -/
def padLeft (fill : Char) (width : Nat) (text : String) : String :=
  String.ofList (List.replicate (width - text.length) fill) ++ text

/-- The whole number nearest to the absolute value of a double, a tie going to the even one. -/
def nearest? (x : Float) : Option Nat :=
  (Binary64.ratio? x).map fun r => Binary64.roundDiv r.numerator r.denominator

end TestImpact.Fixed
