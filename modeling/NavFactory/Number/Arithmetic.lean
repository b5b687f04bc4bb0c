import NavFactory.Number.Double

/-!
# Sums and products of doubles

The exact result of an operation on finite numbers, rounded to the nearest double.
-/

namespace NavFactory.Number.Double

/-- The double nearest to a ratio with a sign. -/
def ofSignedRatio (num : Int) (den : Nat) : Double := (ofRatio num.natAbs den).withSign (num < 0)

/-- The sum of two numbers. -/
def add (x y : Double) : Double :=
  if x.isNan || y.isNan then nan
  else if x.isInfinite then (if y.isInfinite && x.isNegative != y.isNegative then nan else x)
  else if y.isInfinite then y
  else if x.isZero && y.isZero then (if x.isNegative && y.isNegative then x else zero)
  else
    let (a, b) := x.signedRatio
    let (c, d) := y.signedRatio
    ofSignedRatio (a * d + c * b) (b * d)

/-- The product of a number and a positive integer. -/
def timesInt (x : Double) (n : Nat) : Double :=
  if x.isFinite && !x.isZero then
    let (a, b) := x.signedRatio
    ofSignedRatio (a * n) b
  else x

end NavFactory.Number.Double
