/-!
# Tokens of documents

The marks and scalars that a settings document is made of.  Blocks that are only indented have tokens for their
start and end, so that the grammar needs no columns.
-/

namespace NavFactory.Document

/-- Why a document has no value. -/
inductive DocumentFault
  /-- The text breaks a rule of the format. -/
  | malformed
  /-- An escape names a code point past the last one. -/
  | codePoint
  /-- An escape names a code point that is no machine integer. -/
  | hugeCodePoint
  /-- A truth value is spelled in no known way. -/
  | truth (text : String)
  /-- A number has no digits. -/
  | emptyNumber
  /-- An integer has digits outside its base. -/
  | integer (base : Nat) (text : String)
  /-- An integer has more digits than may be read. -/
  | tooManyDigits (count : Nat)
  /-- A real number is malformed. -/
  | real (text : String)
  /-- A date or time is malformed. -/
  | noMoment
  /-- A part of a date or time is out of its range. -/
  | momentRange (text : String)
deriving DecidableEq

/-- What a directive says. -/
inductive Directive
  | version (major : Nat)
  | tagHandle (handle replacement : String)
  | other
deriving DecidableEq

/-- A token of a document. -/
inductive Token
  | directive (d : Directive)
  | documentStart
  | documentEnd
  | streamEnd
  | blockSequenceStart
  | blockMappingStart
  | blockEnd
  | flowSequenceStart
  | flowSequenceEnd
  | flowMappingStart
  | flowMappingEnd
  | blockEntry
  | flowEntry
  | key
  | value
  | alias (name : String)
  | anchor (name : String)
  | tag (handle : Option String) (suffix : String)
  | scalar (text : String) (plain : Bool)
  /-- The rest of the text cannot be read. -/
  | fault (f : DocumentFault)
deriving DecidableEq

/-! ### Characters -/

/-- Whether a line ends with the character. -/
def isBreak (c : Char) : Bool := c == '\n' || c == '\u0085' || c == '\u2028' || c == '\u2029'

/-- Whether a line or the text ends here. -/
def endsLine : Option Char → Bool
  | none => true
  | some c => isBreak c

/-- Whether a token can end here: at a space, a line break or the end of the text. -/
def endsWord : Option Char → Bool
  | none => true
  | some c => c == ' ' || isBreak c

/-- Whether an indicator stands for itself here: before a space, a tab, a line break or the end of the text. -/
def endsIndicator : Option Char → Bool
  | none => true
  | some c => c == ' ' || c == '\t' || isBreak c

/-- Whether a character may stand in a name. -/
def isNameChar (c : Char) : Bool := c.isAlphanum || c == '-' || c == '_'

/-- Whether a character may stand in a tag. -/
def isTagChar (c : Char) : Bool := c.isAlphanum || "-;/?:@&=+$,_.!~*'()[]%".toList.contains c

/-- Whether a character may stand in a document at all. -/
def isDocumentChar (c : Char) : Bool :=
  let n := c.toNat
  n == 9 || n == 10 || n == 13 || (0x20 ≤ n && n ≤ 0x7E) || n == 0x85 || (0xA0 ≤ n && n ≤ 0xD7FF) ||
    (0xE000 ≤ n && n ≤ 0xFFFD) || 0x10000 ≤ n

/-- The value of a hexadecimal digit. -/
def hexDigit? (c : Char) : Option Nat :=
  if c.isDigit then some (c.toNat - 48)
  else if 'a' ≤ c && c ≤ 'f' then some (c.toNat - 87)
  else if 'A' ≤ c && c ≤ 'F' then some (c.toNat - 55)
  else none

/-- The number that hexadecimal digits stand for, if all are such digits. -/
def hexNumber? (cs : List Char) : Option Nat :=
  cs.foldlM (fun n c => (hexDigit? c).map fun d => n * 16 + d) 0

end NavFactory.Document
