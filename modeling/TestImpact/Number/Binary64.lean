/-!
# Double-precision numbers as exact ratios

A finite double is a whole significand times a power of two. `ratio?` reads that
fraction off the bits and `ofRatio` finds the double nearest to any fraction, a tie
going to the even significand, so that everything which reads or writes numbers can
count in whole numbers.
-/

namespace TestImpact.Binary64

/-- Is the sign bit of a double set? -/
def isNegative (x : Float) : Bool :=
  x.toBits >>> 63 = 1

/-- Bits of the exponent field. -/
def exponentField (x : Float) : Nat :=
  (x.toBits.toNat / Nat.pow 2 52) % 2048

/-- Bits of the fraction field. -/
def fractionField (x : Float) : Nat :=
  x.toBits.toNat % Nat.pow 2 52

/-- The significand and the power of two of a finite double, sign aside. -/
def significand? (x : Float) : Option (Nat × Int) :=
  if exponentField x = 2047 then none
  else if exponentField x = 0 then some (fractionField x, -1074)
  else some (Nat.pow 2 52 + fractionField x, (exponentField x : Int) - 1075)

/-- A fraction of whole numbers. -/
structure Ratio where
  numerator : Nat
  denominator : Nat

/-- `significand · base ^ exponent` as a fraction. -/
def Ratio.ofScaled (base significand : Nat) (exponent : Int) : Ratio :=
  ⟨significand * Nat.pow base exponent.toNat, Nat.pow base (-exponent).toNat⟩

/-- The exact absolute value of a finite double. -/
def ratio? (x : Float) : Option Ratio :=
  (significand? x).map fun (m, q) => Ratio.ofScaled 2 m q

/-- A quotient rounded to the nearest whole number, a tie going to the even one. -/
def roundDiv (numerator denominator : Nat) : Nat :=
  let quotient := numerator / denominator
  let twice := 2 * (numerator % denominator)
  if twice < denominator then quotient
  else if denominator < twice then quotient + 1
  else quotient + quotient % 2

/-- The greatest `e` with `2 ^ e` not above the fraction. -/
def Ratio.log2 (r : Ratio) : Int :=
  let guess : Int := (r.numerator.log2 : Int) - r.denominator.log2
  if r.denominator * Nat.pow 2 guess.toNat ≤ r.numerator * Nat.pow 2 (-guess).toNat then guess
  else guess - 1

/-- The double nearest to a fraction, with the given sign. Beyond the greatest double it is
infinite. -/
def ofRatio (negative : Bool) (r : Ratio) : Float :=
  let magnitude : Nat :=
    if r.numerator = 0 then 0
    else
      let exponent := max r.log2 (-1022)
      let shift := 52 - exponent
      let rounded :=
        roundDiv (r.numerator * Nat.pow 2 shift.toNat) (r.denominator * Nat.pow 2 (-shift).toNat)
      min ((exponent + 1022).toNat * Nat.pow 2 52 + rounded) (2047 * Nat.pow 2 52)
  Float.ofBits (UInt64.ofNat (magnitude + if negative then Nat.pow 2 63 else 0))

/-- The double nearest to a whole number. -/
def ofInt (n : Int) : Float :=
  ofRatio (n < 0) ⟨n.natAbs, 1⟩

/-- The value of a double with its sign and nothing behind the point. -/
def truncate? (x : Float) : Option Int :=
  (ratio? x).map fun r =>
    let whole : Int := r.numerator / r.denominator
    if isNegative x then -whole else whole

/-- Is a double a whole number? -/
def isWhole (x : Float) : Bool :=
  match ratio? x with
  | some r => r.numerator % r.denominator = 0
  | none => false

end TestImpact.Binary64
