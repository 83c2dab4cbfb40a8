import TestImpact.Number.Binary64

/-!
# The shortest decimal that reads back

Of all decimals that round to a given double, `Shortest.decimal?` takes one with
the fewest digits and of those the nearest. It looks at the two decimals around the
value on the grids of one, two, … up to seventeen digits, and the first grid with a
hit wins. How such a decimal is laid out, with or without an exponent, is the choice
of a `NumberStyle`.
-/

namespace TestImpact

/-- Whole digits times a power of ten. -/
structure ScaledDigits where
  digits : Nat
  exponent : Int
  deriving DecidableEq, Repr

namespace Shortest

open Binary64 (Ratio)

/-- The exponent of the leading decimal digit of a positive fraction. -/
def leadingExponent (r : Ratio) : Int :=
  if r.denominator ≤ r.numerator then
    ((Nat.toDigits 10 (r.numerator / r.denominator)).length : Int) - 1
  else -((Nat.toDigits 10 (r.denominator / r.numerator)).length : Int)

/-- The values that round to `significand · 2 ^ exponent`, in quarters of the last binary
place: the width below and above the value, and whether the ends belong to them. -/
structure Rounding where
  value : Ratio
  below : Nat
  above : Nat
  closed : Bool

/-- The neighbourhood of a double. Below a power of two the doubles lie twice as close. -/
def Rounding.of (m : Nat) (q : Int) : Rounding :=
  let unit := Nat.pow 2 q.toNat
  { value := ⟨4 * m * unit, 4 * Nat.pow 2 (-q).toNat⟩
    below := if m = Nat.pow 2 52 && q > -1074 then unit else 2 * unit
    above := 2 * unit
    closed := m % 2 = 0 }

/-- Does `digits · 10 ^ exponent` round to the double? -/
def Rounding.holds (r : Rounding) (d : ScaledDigits) : Bool :=
  let scaled := Ratio.ofScaled 10 d.digits d.exponent
  let place := scaled.numerator * r.value.denominator
  let low := (r.value.numerator - r.below) * scaled.denominator
  let high := (r.value.numerator + r.above) * scaled.denominator
  if r.closed then low ≤ place && place ≤ high else low < place && place < high

/-- The nearer of the two grid points around the value that round to it. -/
def Rounding.onGrid (r : Rounding) (exponent : Int) : Option ScaledDigits :=
  let top := r.value.numerator * Nat.pow 10 (-exponent).toNat
  let bottom := r.value.denominator * Nat.pow 10 exponent.toNat
  let lower : ScaledDigits := ⟨top / bottom, exponent⟩
  let upper : ScaledDigits := ⟨top / bottom + 1, exponent⟩
  let twice := 2 * (top % bottom)
  let upperNearer := bottom < twice || (bottom = twice && lower.digits % 2 = 1)
  let first := if upperNearer then upper else lower
  let second := if upperNearer then lower else upper
  if r.holds first then some first else if r.holds second then some second else none

/-- Looks on finer and finer grids. -/
def search (r : Rounding) : (grids : Nat) → (exponent : Int) → ScaledDigits
  | 0, exponent => ⟨r.value.numerator / r.value.denominator, max exponent 0⟩
  | grids + 1, exponent => (r.onGrid exponent).getD (search r grids (exponent - 1))

/-- Moves trailing zeros of the digits into the exponent. -/
def withoutTrailingZeros : (fuel : Nat) → ScaledDigits → ScaledDigits
  | 0, d => d
  | fuel + 1, d =>
    if d.digits ≠ 0 && d.digits % 10 = 0 then
      withoutTrailingZeros fuel ⟨d.digits / 10, d.exponent + 1⟩
    else d

/-- The shortest decimal for the absolute value of a finite double. -/
def decimal? (x : Float) : Option ScaledDigits :=
  (Binary64.significand? x).map fun (m, q) =>
    if m = 0 then ⟨0, 0⟩
    else
      let rounding := Rounding.of m q
      withoutTrailingZeros 20 (search rounding 17 (leadingExponent rounding.value))

end Shortest

/-- How a decimal is laid out. -/
structure NumberStyle where
  /-- The least exponent of the leading digit that is written without an exponent. -/
  positionalFrom : Int
  /-- From this exponent of the leading digit on, an exponent is written. -/
  exponentFrom : Int
  /-- The least number of digits of a written exponent. -/
  exponentDigits : Nat
  /-- What stands for values that are no number. -/
  nan : String
  /-- What stands for values without bound. -/
  infinity : String

namespace NumberStyle

/-- A text filled up with zeros on the left. -/
def padZeros (width : Nat) (digits : List Char) : List Char :=
  List.replicate (width - digits.length) '0' ++ digits

/-- Digits with a point behind the first, if there are more. -/
def pointed : List Char → List Char
  | [] => ['0']
  | [d] => [d]
  | d :: rest => d :: '.' :: rest

/-- Lays out an unsigned decimal. -/
def layOut (style : NumberStyle) (d : ScaledDigits) : List Char :=
  let digits := Nat.toDigits 10 d.digits
  let leading := d.exponent + digits.length - 1
  if style.positionalFrom ≤ leading && leading < style.exponentFrom then
    if 0 ≤ d.exponent then digits ++ List.replicate d.exponent.toNat '0' ++ ['.', '0']
    else
      let places := (-d.exponent).toNat
      let full := padZeros (places + 1) digits
      full.take (full.length - places) ++ '.' :: full.drop (full.length - places)
  else
    pointed digits ++ 'e' :: (if leading < 0 then '-' else '+') ::
      padZeros style.exponentDigits (Nat.toDigits 10 leading.natAbs)

/-- The text of a double in a style. -/
def write (style : NumberStyle) (x : Float) : String :=
  let sign := if Binary64.isNegative x then "-" else ""
  match Shortest.decimal? x with
  | some d => sign ++ String.ofList (style.layOut d)
  | none => if Binary64.fractionField x = 0 then sign ++ style.infinity else style.nan

/-- Sixteen digits before the point and four zeros behind it are the limits of positional
writing, and an exponent has two digits or more. -/
def plain : NumberStyle := ⟨-4, 16, 2, "nan", "inf"⟩

end NumberStyle

end TestImpact
