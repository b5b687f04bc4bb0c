/-!
# UTF-8

Bytes of a text and back.  Decoding refuses overlong forms, surrogates and code points past the last one, and says
which bytes are wrong: a sequence ends before the first byte that cannot continue it, and the fault covers the
bytes read up to there.
-/

namespace NavFactory.Text

/-- The bytes of a character. -/
def encodeChar (c : Char) : List UInt8 :=
  let n := c.toNat
  let byte (k : Nat) : UInt8 := UInt8.ofNat k
  if n < 0x80 then [byte n]
  else if n < 0x800 then [byte (0xC0 + n / 64), byte (0x80 + n % 64)]
  else if n < 0x10000 then [byte (0xE0 + n / 4096), byte (0x80 + n / 64 % 64), byte (0x80 + n % 64)]
  else [byte (0xF0 + n / 262144), byte (0x80 + n / 4096 % 64), byte (0x80 + n / 64 % 64), byte (0x80 + n % 64)]

/-- The bytes of a text. -/
def encode (s : String) : List UInt8 := s.toList.flatMap encodeChar

/-- What is wrong with a byte sequence. -/
inductive DecodeReason
  | invalidStart
  | invalidContinuation
  | unexpectedEnd
deriving DecidableEq

/-- A fault in a byte sequence: the wrong bytes are those from `start` up to but not including `stop`. -/
structure DecodeFault where
  first : UInt8
  start : Nat
  stop : Nat
  reason : DecodeReason
deriving DecidableEq

/-- The length of the sequence that a byte starts, and the range allowed for its second byte. -/
def leadingByte (b : UInt8) : Option (Nat × UInt8 × UInt8) :=
  if b < 0xC2 then none
  else if b < 0xE0 then some (2, 0x80, 0xBF)
  else if b == 0xE0 then some (3, 0xA0, 0xBF)
  else if b == 0xED then some (3, 0x80, 0x9F)
  else if b < 0xF0 then some (3, 0x80, 0xBF)
  else if b == 0xF0 then some (4, 0x90, 0xBF)
  else if b < 0xF4 then some (4, 0x80, 0xBF)
  else if b == 0xF4 then some (4, 0x80, 0x8F)
  else none

/-- The bits that a byte adds to a sequence. -/
def low6 (b : UInt8) : Nat := b.toNat % 64

/-- Whether a byte goes on with a sequence. -/
def isTail (b : UInt8) : Bool := 0x80 ≤ b && b ≤ 0xBF

/-- The characters of a byte sequence; `position` is that of its first byte. -/
def decodeFrom (position : Nat) : List UInt8 → Except DecodeFault (List Char)
  | [] => .ok []
  | a :: rest =>
    if a < 0x80 then (decodeFrom (position + 1) rest).map (Char.ofNat a.toNat :: ·)
    else
      match leadingByte a with
      | none => .error ⟨a, position, position + 1, .invalidStart⟩
      | some (size, low, high) =>
        match rest with
        | [] => .error ⟨a, position, position + 1, .unexpectedEnd⟩
        | b :: rest =>
          if b < low || high < b then .error ⟨a, position, position + 1, .invalidContinuation⟩
          else if size == 2 then
            (decodeFrom (position + 2) rest).map (Char.ofNat ((a.toNat - 0xC0) * 64 + low6 b) :: ·)
          else
            match rest with
            | [] => .error ⟨a, position, position + 2, .unexpectedEnd⟩
            | c :: rest =>
              if !isTail c then .error ⟨a, position, position + 2, .invalidContinuation⟩
              else if size == 3 then
                (decodeFrom (position + 3) rest).map
                  (Char.ofNat (((a.toNat - 0xE0) * 64 + low6 b) * 64 + low6 c) :: ·)
              else
                match rest with
                | [] => .error ⟨a, position, position + 3, .unexpectedEnd⟩
                | d :: rest =>
                  if !isTail d then .error ⟨a, position, position + 3, .invalidContinuation⟩
                  else
                    (decodeFrom (position + 4) rest).map
                      (Char.ofNat ((((a.toNat - 0xF0) * 64 + low6 b) * 64 + low6 c) * 64 + low6 d) :: ·)

/-- The text of a byte sequence. -/
def decode (bytes : List UInt8) : Except DecodeFault String := (decodeFrom 0 bytes).map String.ofList

end NavFactory.Text
