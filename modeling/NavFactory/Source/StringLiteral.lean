import NavFactory.Source.Tree
import NavFactory.Source.Numeral

/-!
# String literals

Escapes in the bodies of strings and byte strings.  A backslash in front of a character that makes no escape stays
in the text, and one at the end of a line vanishes together with the line break.
-/

namespace NavFactory.Source

/-- Whether a character is a hexadecimal digit. -/
def isHex (c : Char) : Bool := c.isDigit || ('a' ≤ c && c ≤ 'f') || ('A' ≤ c && c ≤ 'F')

/-- Whether a character is an octal digit. -/
def isOctal (c : Char) : Bool := '0' ≤ c && c ≤ '7'

/-- The number that the first `count` characters stand for in hexadecimal, and what follows. -/
def takeHex : Nat → Nat → List Char → Option (Nat × List Char)
  | 0, n, rest => some (n, rest)
  | count + 1, n, c :: rest => if isHex c then takeHex count (n * 16 + digitValue c) rest else none
  | _ + 1, _, [] => none

/-- Up to `count` octal digits, and what follows. -/
def takeOctal : Nat → Nat → List Char → Nat × List Char
  | 0, n, rest => (n, rest)
  | count + 1, n, c :: rest => if isOctal c then takeOctal count (n * 8 + digitValue c) rest else (n, c :: rest)
  | _ + 1, n, [] => (n, [])

/-- The character with a number, if there is one; half of a surrogate pair becomes the replacement character. -/
def charOf (n : Nat) : Option Char :=
  if n.isValidChar then some (Char.ofNat n) else if n < 0x10000 then some '\ufffd' else none

/-- The escapes of one letter. -/
def simpleEscape : Char → Option Char
  | '\\' => some '\\'
  | '\'' => some '\''
  | '"' => some '"'
  | 'a' => some '\x07'
  | 'b' => some '\x08'
  | 'f' => some '\x0c'
  | 'n' => some '\n'
  | 'r' => some '\r'
  | 't' => some '\t'
  | 'v' => some '\x0b'
  | _ => none

/-- The name in braces behind the letter of a named character, and what follows. -/
def takeCharName : List Char → Option (String × List Char)
  | '{' :: rest =>
    let name := rest.takeWhile (· != '\x7d')
    match rest.dropWhile (· != '\x7d') with
    | _ :: after => if name.isEmpty then none else some (String.ofList name, after)
    | [] => none
  | _ => none

/-- The characters of a text, given the names of characters; `none` if an escape is malformed.  `fuel` bounds the
number of characters. -/
def unescapeText (named : String → Option Char) : Nat → List Char → Option (List Char)
  | 0, _ => some []
  | _ + 1, [] => some []
  | fuel + 1, '\\' :: c :: rest =>
    let go := unescapeText named fuel
    let numbered (found : Option (Nat × List Char)) : Option (List Char) := do
      let (n, rest) ← found
      let d ← charOf n
      (go rest).map (d :: ·)
    if c == '\n' then go rest
    else match simpleEscape c with
      | some d => (go rest).map (d :: ·)
      | none =>
        if c == 'x' then numbered (takeHex 2 0 rest)
        else if c == 'u' then numbered (takeHex 4 0 rest)
        else if c == 'U' then numbered (takeHex 8 0 rest)
        else if c == 'N' then do
          let (name, rest) ← takeCharName rest
          let d ← named name
          (go rest).map (d :: ·)
        else if isOctal c then numbered (some (takeOctal 3 0 (c :: rest)))
        else (go rest).map ('\\' :: c :: ·)
  | fuel + 1, c :: rest => (unescapeText named fuel rest).map (c :: ·)

/-- The bytes of a byte string; `none` if an escape is malformed or a character is not ASCII. -/
def unescapeBytes (isRaw : Bool) : Nat → List Char → Option (List UInt8)
  | 0, _ => some []
  | _ + 1, [] => some []
  | fuel + 1, c :: rest =>
    let go := unescapeBytes isRaw fuel
    let byte (n : Nat) : UInt8 := UInt8.ofNat n
    if 0x80 ≤ c.toNat then none
    else if isRaw || c != '\\' then (go rest).map (byte c.toNat :: ·)
    else match rest with
      | [] => some [byte c.toNat]
      | d :: rest =>
        if d == '\n' then go rest
        else match simpleEscape d with
          | some e => (go rest).map (byte e.toNat :: ·)
          | none =>
            if d == 'x' then do
              let (n, rest) ← takeHex 2 0 rest
              (go rest).map (byte n :: ·)
            else if isOctal d then
              let (n, rest) := takeOctal 3 0 (d :: rest)
              (go rest).map (byte n :: ·)
            else (go (d :: rest)).map (byte c.toNat :: ·)

end NavFactory.Source
