import NavFactory.Text.Printable

/-!
# Quoted texts

A text between quotes as the grammar of string literals reads it back.  Single quotes are used unless the text has
single quotes and no double ones.  A printable character stands for itself; a backslash, the quote in use and every
other character are escaped, the latter by two, four or eight hexadecimal digits.
-/

namespace NavFactory.Text

/-- A hexadecimal digit in lower case. -/
def hexDigit (n : Nat) : Char := if n < 10 then Char.ofNat (48 + n) else Char.ofNat (87 + n)

/-- The last `width` hexadecimal digits of a number. -/
def hexDigits : Nat → Nat → List Char
  | 0, _ => []
  | width + 1, n => hexDigits width (n / 16) ++ [hexDigit (n % 16)]

/-- The escape for a character that is not shown as it is. -/
def escapeCode (n : Nat) : List Char :=
  if n < 0x100 then '\\' :: 'x' :: hexDigits 2 n
  else if n < 0x10000 then '\\' :: 'u' :: hexDigits 4 n
  else '\\' :: 'U' :: hexDigits 8 n

/-- A character inside a quoted text. -/
def quoteChar (quote c : Char) : List Char :=
  if c == '\\' || c == quote then ['\\', c]
  else if c == '\t' then ['\\', 't']
  else if c == '\n' then ['\\', 'n']
  else if c == '\r' then ['\\', 'r']
  else if isPrintable c then [c]
  else escapeCode c.toNat

/-- The quote in which a text is written. -/
def chooseQuote (cs : List Char) : Char := if cs.contains '\'' && !cs.contains '"' then '"' else '\''

/-- The characters of a quoted text. -/
def quoteChars (cs : List Char) : List Char :=
  let quote := chooseQuote cs
  quote :: cs.flatMap (quoteChar quote) ++ [quote]

/-- The text between quotes. -/
def quote (s : String) : String := String.ofList (quoteChars s.toList)

/-- A byte inside a quoted byte string. -/
def quoteByte (quote : Char) (b : UInt8) : List Char :=
  if b < 0x80 then quoteChar quote (Char.ofNat b.toNat) else escapeCode b.toNat

/-- The bytes between quotes, after the letter that tells them from a text. -/
def quoteBytes (bs : List UInt8) : String :=
  let quote := chooseQuote (bs.map fun b => Char.ofNat b.toNat)
  String.ofList ('b' :: quote :: bs.flatMap (quoteByte quote) ++ [quote])

end NavFactory.Text
