import NavFactory.Text.CharacterNameTable
import NavFactory.Text.Parts

/-!
# Characters by name

The character that a name of Unicode 14 stands for.  Names that are listed count in any case; those of ideographs and
syllables follow a rule and are written in capitals.
-/

namespace NavFactory.Text

/-! ### Listed names -/

/-- The words of a text between its blanks; an empty text has none. -/
def nameWords (s : String) : List String := if s.isEmpty then [] else parts ' ' s

/-- The number that a digit or a small letter stands for. -/
def smallDigit (c : Char) : Nat := if c.isDigit then c.toNat - 48 else c.toNat - 87

/-- The words of a name that is written as its difference from the name before it. -/
def wordsAfter (before : List String) (entry : String) : List String :=
  match entry.toList with
  | first :: last :: middle =>
    before.take (smallDigit first) ++ nameWords (String.ofList middle) ++
      before.drop (before.length - smallDigit last)
  | _ => before

/-- Looks for a name among successive entries; without success, the words of the last one are returned. -/
def findEntry (name : List String) (code : Nat) (before : List String) : List String → Nat ⊕ List String
  | [] => .inr before
  | entry :: rest =>
    let words := wordsAfter before entry
    if words == name then .inl code else findEntry name (code + 1) words rest

/-- The number that hexadecimal digits in capitals stand for. -/
def capitalHex? (cs : List Char) : Option Nat :=
  if cs.all fun c => c.isDigit || ('A' ≤ c && c ≤ 'F') then
    some (cs.foldl (fun n c => n * 16 + (if c.isDigit then c.toNat - 48 else c.toNat - 55)) 0)
  else none

/-- Looks for a name in rows of entries. -/
def findRow (name : List String) (before : List String) : List String → Nat ⊕ List String
  | [] => .inr before
  | row :: rest => match parts ';' row with
    | [] => findRow name before rest
    | code :: entries => match findEntry name ((capitalHex? code.toList).getD 0) before entries with
      | .inl code => .inl code
      | .inr before => findRow name before rest

/-- The code point of a listed name. -/
def listedCode? (name : String) : Option Nat :=
  (findRow (nameWords name) [] characterNameRows.flatten).getLeft?

/-- The code point of an alias. -/
def aliasCode? (name : String) : Option Nat :=
  (characterAliases.find? fun (_, names) => names.contains name).map (·.1)

/-- The code point of a variation selector by its number. -/
def selectorCode? (name : String) : Option Nat :=
  (List.range 256).findSome? fun n =>
    if name == "VS" ++ toString (n + 1) then some (if n < 16 then 0xFE00 + n else 0xE0100 + (n - 16)) else none

/-! ### Names by rule -/

/-- Characters that are named after their code points: the beginning of the name, and the ranges. -/
def codeNamed : List (String × List (Nat × Nat)) :=
  [("CJK COMPATIBILITY IDEOGRAPH-", [(0xF900, 0xFA6D), (0xFA70, 0xFAD9), (0x2F800, 0x2FA1D)]),
    ("NUSHU CHARACTER-", [(0x1B170, 0x1B2FB)]),
    ("KHITAN SMALL SCRIPT CHARACTER-", [(0x18B00, 0x18CD5)])]

/-- The unified ideographs. -/
def unifiedIdeographs : List (Nat × Nat) :=
  [(0x3400, 0x4DBF), (0x4E00, 0x9FFF), (0x20000, 0x2A6DF), (0x2A700, 0x2B738), (0x2B740, 0x2B81D),
    (0x2B820, 0x2CEA1), (0x2CEB0, 0x2EBE0), (0x30000, 0x3134A)]

/-- What follows a beginning of a text. -/
def afterLead? (lead name : String) : Option (List Char) :=
  if name.startsWith lead then some (name.toList.drop lead.length) else none

/-- The code point in some ranges that four or five digits behind a beginning spell. -/
def codeAfter? (ranges : List (Nat × Nat)) (lead name : String) : Option Nat := do
  let digits ← afterLead? lead name
  let code ← capitalHex? digits
  if (digits.length == 4 || digits.length == 5) && ranges.any fun (first, last) => first ≤ code && code ≤ last then
    some code
  else none

/-- The code point of a character that is named after it. -/
def codeNamed? (name : String) : Option Nat :=
  codeNamed.findSome? fun (lead, ranges) =>
    (codeAfter? ranges lead name).filter fun code =>
      -- no leading zero
      name.length == lead.length + (if code < 0x10000 then 4 else 5)

/-- The parts of syllables, in the order of their code points. -/
def leadingParts : List String :=
  ["G", "GG", "N", "D", "DD", "R", "M", "B", "BB", "S", "SS", "", "J", "JJ", "C", "K", "T", "P", "H"]

@[inherit_doc leadingParts] def vowelParts : List String :=
  ["A", "AE", "YA", "YAE", "EO", "E", "YEO", "YE", "O", "WA", "WAE", "OE", "YO", "U", "WEO", "WE", "WI", "YU", "EU",
    "YI", "I"]

@[inherit_doc leadingParts] def trailingParts : List String :=
  ["", "G", "GG", "GS", "N", "NJ", "NH", "D", "L", "LG", "LM", "LB", "LS", "LT", "LP", "LH", "M", "B", "BS", "S", "SS",
    "NG", "J", "C", "K", "T", "P", "H"]

/-- The longest part that a text starts with, by its place, and what follows. -/
def takePart (parts : List String) (cs : List Char) : Option (Nat × List Char) :=
  let found := parts.zipIdx.filter fun (part, _) => part.toList.isPrefixOf cs
  let longest := found.foldl (fun best (part, i) => match best with
    | some (n, _) => if n < part.length then some (part.length, i) else best
    | none => some (part.length, i)) none
  longest.map fun (n, i) => (i, cs.drop n)

/-- The code point of a syllable. -/
def syllableCode? (name : String) : Option Nat := do
  let cs ← afterLead? "HANGUL SYLLABLE " name
  let (leading, cs) ← takePart leadingParts cs
  let (vowel, cs) ← takePart vowelParts cs
  let (trailing, cs) ← takePart trailingParts cs
  if cs.isEmpty then some (0xAC00 + (leading * 21 + vowel) * 28 + trailing) else none

/-- The character with a name. -/
def characterNamed (name : String) : Option Char :=
  let capitals := name.toUpper
  let code := (syllableCode? name).or <| (codeAfter? unifiedIdeographs "CJK UNIFIED IDEOGRAPH-" name).or <|
    (aliasCode? capitals).or <| (selectorCode? capitals).or <| (codeNamed? capitals).or (listedCode? capitals)
  code.map Char.ofNat

end NavFactory.Text
