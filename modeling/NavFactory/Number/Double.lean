/-!
# Double-precision numbers

A double is kept as its 64 bits, so that two of them are equal when they are the same number in every respect.
Reading rounds an exact ratio to the nearest double, ties to even.  Writing takes the fewest decimal digits that
read back, and of those the nearest to the number.
-/

namespace NavFactory.Number

/-- A double-precision number, given by its 64 bits. -/
structure Double where
  bits : Nat
deriving DecidableEq

namespace Double

/-- The bits of infinity, which are also the first bits past the largest finite number. -/
def infinityBits : Nat := 0x7FF0000000000000

/-- The weight of the sign bit. -/
def signBit : Nat := 0x8000000000000000

def zero : Double := ⟨0⟩
def infinity : Double := ⟨infinityBits⟩
def nan : Double := ⟨0x7FF8000000000000⟩

/-- Whether the sign bit is set. -/
def isNegative (x : Double) : Bool := signBit ≤ x.bits

/-- The bits without the sign. -/
def magnitude (x : Double) : Nat := x.bits % signBit

def isNan (x : Double) : Bool := infinityBits < x.magnitude
def isInfinite (x : Double) : Bool := x.magnitude == infinityBits
def isFinite (x : Double) : Bool := x.magnitude < infinityBits
def isZero (x : Double) : Bool := x.magnitude == 0

/-- The number with the opposite sign. -/
def neg (x : Double) : Double := if x.isNegative then ⟨x.bits - signBit⟩ else ⟨x.bits + signBit⟩

/-- The number with a given sign. -/
def withSign (negative : Bool) (x : Double) : Double := if negative then ⟨x.magnitude + signBit⟩ else ⟨x.magnitude⟩

/-- A finite magnitude is `m * 2 ^ (e - 1075)` for these `m` and `e`. -/
def significand (x : Double) : Nat × Nat :=
  let exponent := x.magnitude / Nat.pow 2 52
  let fraction := x.magnitude % Nat.pow 2 52
  if exponent == 0 then (fraction, 1) else (fraction + Nat.pow 2 52, exponent)

/-- A finite magnitude as a ratio. -/
def ratio (x : Double) : Nat × Nat :=
  let (m, e) := x.significand
  if 1075 ≤ e then (m * Nat.pow 2 (e - 1075), 1) else (m, Nat.pow 2 (1075 - e))

/-- The nearest integer to a ratio, ties to even. -/
def roundRatio (num den : Nat) : Nat :=
  let q := num / den
  let twice := 2 * (num % den)
  if den < twice || (twice == den && q % 2 == 1) then q + 1 else q

/-- The integer part of the binary logarithm of a positive ratio. -/
def log2Ratio (num den : Nat) : Int :=
  let k : Int := (num.log2 : Int) - den.log2
  let reached := if 0 ≤ k then den * Nat.pow 2 k.toNat ≤ num else den ≤ num * Nat.pow 2 (-k).toNat
  if reached then k else k - 1

/-- The nearest double to a ratio; a ratio past the largest finite number gives infinity. -/
def ofRatio (num den : Nat) : Double :=
  if num == 0 then zero
  else
    let scale := max (log2Ratio num den - 52) (-1074)
    let m :=
      if 0 ≤ scale then roundRatio num (den * Nat.pow 2 scale.toNat)
      else roundRatio (num * Nat.pow 2 (-scale).toNat) den
    let bits := if m < Nat.pow 2 52 then m else (scale + 1075).toNat * Nat.pow 2 52 + (m - Nat.pow 2 52)
    ⟨min bits infinityBits⟩

/-- The number of decimal digits. -/
def digitCount (n : Nat) : Nat := (toString n).length

/-- The nearest double to `digits * 10 ^ exponent`. -/
def ofDecimal (digits : Nat) (exponent : Int) : Double :=
  if digits == 0 then zero
  else
    let top : Int := digitCount digits + exponent
    if 400 < top then infinity
    else if top < -400 then zero
    else if 0 ≤ exponent then ofRatio (digits * Nat.pow 10 exponent.toNat) 1
    else ofRatio digits (Nat.pow 10 (-exponent).toNat)

/-- The nearest double to an integer, if it is finite. -/
def ofInt? (i : Int) : Option Double :=
  let x := if i.natAbs.log2 < 1100 then ofRatio i.natAbs 1 else infinity
  if x.isFinite then some (x.withSign (i < 0)) else none

/-- The decimal exponent of the first digit of a positive ratio. -/
def leadingExponent (num den : Nat) : Int :=
  if den ≤ num then (digitCount (num / den) : Int) - 1
  else
    let k := digitCount (den / num)
    if den ≤ num * Nat.pow 10 (k - 1) then -((k : Int) - 1) else -(k : Int)

/-- Whether `digits * 10 ^ exponent` is read as the magnitude of a number. -/
def readsAs (x : Double) (digits : Nat) (exponent : Int) : Bool := (ofDecimal digits exponent).bits == x.magnitude

/-- Of the two neighbours with a given number of digits, the nearest that reads back. -/
def shortestWith (x : Double) (num den : Nat) (top : Int) (count : Nat) : Option (Nat × Int) :=
  let exponent := top - count + 1
  let (n, d) :=
    if 0 ≤ exponent then (num, den * Nat.pow 10 exponent.toNat) else (num * Nat.pow 10 (-exponent).toNat, den)
  let below := n / d
  let nearest := roundRatio n d
  let other := if nearest == below then below + 1 else below
  if readsAs x nearest exponent then some (nearest, exponent)
  else if readsAs x other exponent then some (other, exponent)
  else none

/-- The fewest digits that read back as the magnitude of a finite positive number, with their exponent. -/
def shortest (x : Double) : Nat × Int :=
  let (num, den) := x.ratio
  let top := leadingExponent num den
  ((List.range 17).findSome? fun k => shortestWith x num den top (k + 1)).getD (num / den, 0)

/-- How a double is written. -/
structure Format where
  /-- The first exponent of the leading digit that is written with a power of ten. -/
  powerFrom : Int
  /-- The last negative exponent of the leading digit that is written with a power of ten. -/
  powerUpTo : Int
  /-- What follows a whole number that is written without a power of ten. -/
  wholeSuffix : String

/-- Numbers from `0.0001` up to `10^16` have no power of ten, and whole ones show a zero after the point. -/
def plain : Format := ⟨16, -5, ".0"⟩

/-- The parts of a complex number are written as plain numbers without a zero after the point. -/
def complexPart : Format := ⟨16, -5, ""⟩

/-- The digits without zeros at the end. -/
def significantDigits (digits : Nat) : List Char :=
  ((toString digits).toList.reverse.dropWhile (· == '0')).reverse

/-- A finite positive number: its significant digits and the exponent of the first. -/
def writeDigits (format : Format) (digits : List Char) (top : Int) : String :=
  let count := digits.length
  let text :=
    if format.powerUpTo < top && top < format.powerFrom then
      if top < 0 then "0." ++ String.ofList (List.replicate (-top - 1).toNat '0' ++ digits)
      else if (count : Int) ≤ top + 1 then
        String.ofList (digits ++ List.replicate (top + 1 - count).toNat '0') ++ format.wholeSuffix
      else String.ofList (digits.take (top + 1).toNat) ++ "." ++ String.ofList (digits.drop (top + 1).toNat)
    else
      let mantissa := match digits with
        | [] => ""
        | [d] => String.singleton d
        | d :: rest => String.singleton d ++ "." ++ String.ofList rest
      let power := toString top.natAbs
      mantissa ++ (if top < 0 then "e-" else "e+") ++ (if power.length < 2 then "0" ++ power else power)
  text

/-- The text of a number. -/
def write (format : Format) (x : Double) : String :=
  if x.isNan then "nan"
  else
    let sign := if x.isNegative then "-" else ""
    if x.isInfinite then sign ++ "inf"
    else if x.isZero then sign ++ "0" ++ format.wholeSuffix
    else
      let (digits, exponent) := x.shortest
      sign ++ writeDigits format (significantDigits digits) (exponent + digitCount digits - 1)

/-- The value of a finite number as a signed ratio. -/
def signedRatio (x : Double) : Int × Nat :=
  let (num, den) := x.ratio
  (if x.isNegative then -(num : Int) else num, den)

/-- Whether two numbers have the same value: zeros of both signs are equal, and no number equals NaN. -/
def sameValue (x y : Double) : Bool := !x.isNan && !y.isNan && (x == y || (x.isZero && y.isZero))

/-- The integer that a number is, if it is one. -/
def toInt? (x : Double) : Option Int :=
  if x.isFinite then
    let (num, den) := x.signedRatio
    if num % den == 0 then some (num / den) else none
  else none

end Double

end NavFactory.Number
