import NavFactory.Source.Tree

/-!
# Number literals

The values of number literals.  A decimal integer has at most 4300 digits; the other bases have no limit.
-/

namespace NavFactory.Source

open Number (Double)

/-- The value of a digit in any base up to sixteen. -/
def digitValue (c : Char) : Nat :=
  if c.isDigit then c.toNat - '0'.toNat else if 'a' ≤ c && c ≤ 'f' then c.toNat - 87 else c.toNat - 55

/-- The number that digits stand for. -/
def digitsValue (base : Nat) (digits : List Char) : Nat := digits.foldl (fun n c => n * base + digitValue c) 0

/-- The largest number of digits of a decimal integer. -/
def maxDecimalDigits : Nat := 4300

/-- The value of decimal digits with an optional fraction and exponent. -/
def decimalValue (text : List Char) : Double :=
  let mantissa := text.takeWhile (· != 'e')
  let exponent := (text.dropWhile (· != 'e')).tail
  let whole := mantissa.takeWhile (· != '.')
  let fraction := (mantissa.dropWhile (· != '.')).tail
  let power : Int := match exponent with
    | '-' :: digits => -(digitsValue 10 digits : Int)
    | '+' :: digits => digitsValue 10 digits
    | digits => digitsValue 10 digits
  Double.ofDecimal (digitsValue 10 (whole ++ fraction)) (power - fraction.length)

/-- The value of a number literal; `none` if it has too many digits. -/
def numeral (text : List Char) : Option Constant :=
  match text.filter (· != '_') with
  | '0' :: 'x' :: digits => some (.int (digitsValue 16 digits))
  | '0' :: 'o' :: digits => some (.int (digitsValue 8 digits))
  | '0' :: 'b' :: digits => some (.int (digitsValue 2 digits))
  | digits =>
    if digits.all Char.isDigit then
      if maxDecimalDigits < digits.length then none else some (.int (digitsValue 10 digits))
    else if digits.getLast? == some 'j' then some (.imaginary (decimalValue digits.dropLast))
    else some (.real (decimalValue digits))

end NavFactory.Source
