import NavFactory.Document.Node
import NavFactory.Number.Arithmetic
import NavFactory.Text.Blank
import NavFactory.Text.Case
import NavFactory.Value

/-!
# Values of documents

The value that the graph of a document stands for.  A reference to an enclosing collection is followed a few levels
deep, which is further than settings are looked at.  Of several faults the one on the outermost level counts, and
of those on one level the first.
-/

namespace NavFactory.Document

open Number (Double)

/-! ### Numbers -/

/-- The digits of an integer in a base, behind the mark of that base if it is written. -/
def dropBaseMark (base : Nat) : List Char → List Char
  | '0' :: m :: rest =>
    let m := m.toLower
    if (base == 2 && m == 'b') || (base == 8 && m == 'o') || (base == 16 && m == 'x') then rest else '0' :: m :: rest
  | cs => cs

/-- The largest number of decimal digits that may be read. -/
def maxDecimalDigits : Nat := 4300

/-- The integer that a text spells in a base. -/
def readInteger (base : Nat) (cs : List Char) : Except DocumentFault Int :=
  let trimmed := Text.trimChars cs
  let digits := dropBaseMark base (match trimmed with
    | '-' :: rest => rest
    | '+' :: rest => rest
    | rest => rest)
  let value := digits.foldlM (fun n c => (hexDigit? c).bind fun d => if d < base then some (n * base + d) else none) 0
  match value with
  | some n =>
    if digits.isEmpty then .error (.integer base (String.ofList cs))
    else if base == 10 && maxDecimalDigits < digits.length then .error (.tooManyDigits digits.length)
    else .ok (if trimmed.head? == some '-' then -(n : Int) else n)
  | none => .error (.integer base (String.ofList cs))

/-- The parts of a text between its colons. -/
def colonParts (cs : List Char) : List (List Char) := cs.splitOn ':'

/-- The integers that several texts spell. -/
def readIntegers : List (List Char) → Except DocumentFault (List Int)
  | [] => .ok []
  | cs :: rest => do
    let n ← readInteger 10 cs
    .ok (n :: (← readIntegers rest))

/-- A sign and what follows it. -/
def splitSign (cs : List Char) : Bool × List Char :=
  match cs with
  | '-' :: rest => (true, rest)
  | '+' :: rest => (false, rest)
  | rest => (false, rest)

/-- The value of an integer: decimal, binary, octal, hexadecimal or to the base sixty. -/
def integerValue (text : String) : Except DocumentFault Int :=
  match text.toList.filter (· != '_') with
  | [] => .error .emptyNumber
  | cs =>
    let (negative, digits) := splitSign cs
    let magnitude : Except DocumentFault Int :=
      match digits with
      | [] => .error .emptyNumber
      | ['0'] => .ok 0
      | '0' :: 'b' :: rest => readInteger 2 rest
      | '0' :: 'x' :: rest => readInteger 16 rest
      | '0' :: _ => readInteger 8 digits
      | _ =>
        if digits.contains ':' then (readIntegers (colonParts digits)).map (·.foldl (fun n d => n * 60 + d) 0)
        else readInteger 10 digits
    magnitude.map fun n => if negative then -n else n

/-- The digits of a decimal number with a fraction and an exponent, as an integer and a power of ten. -/
def readDecimal (cs : List Char) : Option (Nat × Int) :=
  let whole := cs.takeWhile Char.isDigit
  let rest := cs.dropWhile Char.isDigit
  let (fraction, rest) := match rest with
    | '.' :: rest => (rest.takeWhile Char.isDigit, rest.dropWhile Char.isDigit)
    | rest => ([], rest)
  let number (digits : List Char) : Nat := digits.foldl (fun n c => n * 10 + (c.toNat - 48)) 0
  let exponent : Option Int := match rest with
    | [] => some 0
    | e :: rest =>
      let (negative, digits) := splitSign rest
      if e == 'e' && !digits.isEmpty && digits.all Char.isDigit then
        some (if negative then -(number digits : Int) else number digits)
      else none
  if whole.isEmpty && fraction.isEmpty then none
  else exponent.map fun e => (number (whole ++ fraction), e - fraction.length)

/-- The real number that a text in lower case spells. -/
def readReal (cs : List Char) : Except DocumentFault Double :=
  let (negative, digits) := splitSign (Text.trimChars cs)
  let magnitude :=
    if digits == "inf".toList || digits == "infinity".toList then some Double.infinity
    else if digits == "nan".toList then some Double.nan
    else (readDecimal digits).map fun (n, e) => Double.ofDecimal n e
  match magnitude with
  | some x => .ok (x.withSign negative)
  | none => .error (.real (String.ofList cs))

/-- The real numbers that several texts spell. -/
def readReals : List (List Char) → Except DocumentFault (List Double)
  | [] => .ok []
  | cs :: rest => do
    let x ← readReal cs
    .ok (x :: (← readReals rest))

/-- The sum of real numbers that count sixty times as much from one to the next, the last of which counts once. -/
def sumSixtieths (xs : List Double) : Double :=
  (xs.reverse.foldl (fun (sum, base) x => (sum.add (x.timesInt base), base * 60)) (Double.zero, (1 : Nat))).1

/-- The value of a real number. -/
def realValue (text : String) : Except DocumentFault Double :=
  match (text.toList.filter (· != '_')).flatMap Text.lowerChar with
  | [] => .error .emptyNumber
  | cs =>
    let (negative, digits) := splitSign cs
    if digits == ".nan".toList then .ok Double.nan
    else
      let magnitude : Except DocumentFault Double :=
        if digits == ".inf".toList then .ok Double.infinity
        else if digits.contains ':' then (readReals (colonParts digits)).map sumSixtieths
        else readReal digits
      magnitude.map fun x => if negative then x.neg else x

/-! ### Bytes -/

/-- The value of a character in the notation of six bits a character. -/
def sixBits? (c : Char) : Option Nat :=
  if c.isUpper then some (c.toNat - 65)
  else if c.isLower then some (c.toNat - 71)
  else if c.isDigit then some (c.toNat + 4)
  else if c == '+' then some 62
  else if c == '/' then some 63
  else none

/-- The bytes of a text in the notation of six bits a character, which passes over all other characters.  `held` has
the bits that do not fill a byte, `count` says how many characters of a group of four were read, and `pads` how many
signs that fill up the group. -/
def readBytes (held count pads : Nat) : List Char → Option (List UInt8)
  | [] => if count == 0 then some [] else none
  | '=' :: rest =>
    if 2 ≤ count && 4 ≤ count + pads + 1 then some [] else readBytes held count (pads + 1) rest
  | c :: rest =>
    match sixBits? c with
    | none => readBytes held count pads rest
    | some n =>
      match count with
      | 0 => readBytes n 1 0 rest
      | 1 => (readBytes (n % 16) 2 0 rest).map (UInt8.ofNat (held * 4 + n / 16) :: ·)
      | 2 => (readBytes (n % 4) 3 0 rest).map (UInt8.ofNat (held * 16 + n / 4) :: ·)
      | _ => (readBytes 0 0 0 rest).map (UInt8.ofNat (held * 64 + n) :: ·)

/-- The bytes of a text. -/
def binaryValue (text : String) : Except DocumentFault (List UInt8) :=
  if text.toList.any (128 ≤ ·.toNat) then .error .malformed
  else match readBytes 0 0 0 text.toList with
    | some bytes => .ok bytes
    | none => .error .malformed

/-! ### Dates and times -/

private def number (digits : List Char) : Nat := digits.foldl (fun n c => n * 10 + (c.toNat - 48)) 0

/-- Whether a year has a leap day. -/
def isLeapYear (year : Nat) : Bool := year % 4 == 0 && (year % 100 != 0 || year % 400 == 0)

/-- The number of days of a month. -/
def daysOfMonth (year month : Nat) : Nat :=
  if month == 2 then (if isLeapYear year then 29 else 28)
  else if month == 4 || month == 6 || month == 9 || month == 11 then 30
  else 31

/-- A span of minutes as messages show it. -/
def spanText (minutes : Int) : String :=
  let days := Int.fdiv minutes 1440
  let seconds := Int.fmod minutes 1440 * 60
  let parts := (if days == 0 then [] else ["days=" ++ toString days]) ++
    (if seconds == 0 then [] else ["seconds=" ++ toString seconds])
  "datetime.timedelta(" ++ (if parts.isEmpty then "0" else ", ".intercalate parts) ++ ")"

/-- What is out of range in a zone. -/
def zoneProblem? : Option (Char × List Char × List Char) → Option String
  | none => none
  | some (sign, hours, minutes) =>
    let total := number hours * 60 + number minutes
    if total < 1440 then none
    else
      some ("offset must be a timedelta strictly between -timedelta(hours=24) and timedelta(hours=24), not " ++
        spanText (if sign == '-' then -(total : Int) else total) ++ ".")

/-- What is out of range in a date. -/
def dateProblem? (year month day : Nat) : Option String :=
  if year == 0 then some "year 0 is out of range"
  else if month < 1 || 12 < month then some "month must be in 1..12"
  else if day < 1 || daysOfMonth year month < day then some "day is out of range for month"
  else none

/-- What is out of range in a time. -/
def timeProblem? (hour minute second : Nat) : Option String :=
  if 23 < hour then some "hour must be in 0..23"
  else if 59 < minute then some "minute must be in 0..59"
  else if 59 < second then some "second must be in 0..59"
  else none

/-- Checks the text of a date or time. -/
def momentValue (text : String) : Except DocumentFault Value :=
  match momentText? text.toList with
  | none => .error .noMoment
  | some m =>
    let date := dateProblem? (number m.year) (number m.month) (number m.day)
    let problem := match m.time with
      | none => date
      | some (h, mi, s) => ((zoneProblem? m.zone).or date).or (timeProblem? (number h) (number mi) (number s))
    match problem with
    | none => .ok (.moment text)
    | some problem => .error (.momentRange problem)

/-! ### Scalars -/

/-- The text of a scalar.  A mapping stands for the text of the value that it has under the key for that. -/
def scalarText : Nat → Node → Except DocumentFault String
  | 0, _ => .error .malformed
  | fuel + 1, n =>
    match n with
    | .scalar _ text => .ok text
    | .mapping _ entries =>
      match entries.find? fun (key, _) => match key with
        | .scalar .defaultKey _ => true
        | _ => false with
      | some (_, value) => scalarText fuel value
      | none => .error .malformed
    | _ => .error .malformed

/-- The value of a node whose tag is that of a scalar. -/
def scalarValue (tag : Tag) (text : String) : Except DocumentFault Value :=
  match tag with
  | .null => .ok .none
  | .bool => match truthSpellings.lookup (Text.lower text) with
    | some b => .ok (.bool b)
    | none => .error (.truth (Text.lower text))
  | .integer => (integerValue text).map .int
  | .real => (realValue text).map .real
  | .binary => (binaryValue text).map .bytes
  | .moment => momentValue text
  | .text => .ok (.text text)
  | _ => .error .malformed

/-! ### Collections -/

/-- Follows a reference to an enclosing collection; `levels` says how often that is still done, after which the
collection counts as empty. -/
def follow (collections : List (Nat × Node)) (levels : Nat) (n : Node) : Nat × Node :=
  match n with
  | .enclosing id =>
    match levels, collections.lookup id with
    | levels + 1, some n => (levels, n)
    | 0, some (.mapping tag _) => (0, .mapping tag [])
    | _, _ => (0, .sequence .sequence [])
  | n => (levels, n)

/-- Joins several lists if all are there. -/
def joinAll : List (Option (List (Node × Node))) → Option (List (Node × Node))
  | [] => some []
  | none :: _ => none
  | some xs :: rest => (joinAll rest).map (xs ++ ·)

/-- The entries of a mapping with those of the mappings that are merged into it in front; `none` if something else
is to be merged.  Of several mappings to be merged the first one counts most, so that it comes last. -/
def mergedEntries (collections : List (Nat × Node)) :
    Nat → Nat → List (Node × Node) → Option (List (Node × Node))
  | 0, _, _ => none
  | fuel + 1, levels, entries =>
    let merged := entries.filterMap fun (key, value) =>
      match key with
      | .scalar .merge _ =>
        match follow collections levels value with
        | (levels, .mapping _ inner) => some (mergedEntries collections fuel levels inner)
        | (levels, .sequence _ items) =>
          some (joinAll ((items.map fun item =>
            match follow collections levels item with
            | (levels, .mapping _ inner) => mergedEntries collections fuel levels inner
            | _ => none).reverse))
        | _ => some none
      | _ => none
    let own := entries.filterMap fun (key, value) =>
      match key with
      | .scalar .merge _ => none
      | .scalar .defaultKey text => some (.scalar .text text, value)
      | key => some (key, value)
    (joinAll merged).map (· ++ own)

/-- A value with the faults on the way to it, each with its level. -/
abbrev Constructed := Value × List (Nat × DocumentFault)

/-- The result of a step that may fail on a level. -/
def ofExcept (level : Nat) : Except DocumentFault Value → Constructed
  | .ok v => (v, [])
  | .error f => (.none, [(level, f)])

/-- A dictionary with a new entry, whose key must be able to be one. -/
def addEntry (level : Nat) (entries : List (Value × Value)) (key value : Constructed) :
    List (Value × Value) × List (Nat × DocumentFault) :=
  (Value.insertEntry key.1 value.1 entries,
    key.2 ++ (if key.2.isEmpty && !key.1.isHashable then [(level, .malformed)] else []) ++ value.2)

/-- The value of a node that comes up on a given level; what is inside a collection comes up one level further
down.  `fuel` bounds the depth. -/
def construct (collections : List (Nat × Node)) : Nat → Nat → Nat → Node → Constructed
  | 0, _, level, _ => (.none, [(level, .malformed)])
  | fuel + 1, levels, level, n =>
    let (levels, n) := follow collections levels n
    let inner := construct collections fuel levels (level + 1)
    let fault : Constructed := (.none, [(level + 1, .malformed)])
    let entriesOf (entries : List (Node × Node)) : List (Value × Value) × List (Nat × DocumentFault) :=
      match mergedEntries collections fuel levels entries with
      | none => ([], [(level + 1, .malformed)])
      | some entries => entries.foldl (fun (done, faults) (key, value) =>
          let (done, more) := addEntry (level + 1) done (inner key) (inner value)
          (done, faults ++ more)) ([], [])
    let pairsOf (items : List Node) : List Value × List (Nat × DocumentFault) :=
      items.foldl (fun (done, faults) item =>
        match (follow collections levels item).2 with
        | .mapping _ [(key, value)] =>
          let key := inner key
          let value := inner value
          (done ++ [.tuple [key.1, value.1]], faults ++ key.2 ++ value.2)
        | _ => (done, faults ++ [(level + 1, .malformed)])) ([], [])
    match n with
    | .scalar tag text =>
      match tag with
      | .sequence => (.list [], [(level + 1, .malformed)])
      | .orderedMapping => (.list [], [(level + 1, .malformed)])
      | .pairs => (.list [], [(level + 1, .malformed)])
      | .mapping => (.dict [], [(level + 1, .malformed)])
      | .set => (.set [], [(level + 1, .malformed)])
      | tag => ofExcept level (scalarValue tag text)
    | .sequence tag items =>
      match tag with
      | .sequence =>
        let results := items.map inner
        (.list (results.map (·.1)), results.flatMap (·.2))
      | .orderedMapping =>
        let (values, faults) := pairsOf items
        (.list values, faults)
      | .pairs =>
        let (values, faults) := pairsOf items
        (.list values, faults)
      | .mapping => (.dict [], [(level + 1, .malformed)])
      | .set => (.set [], [(level + 1, .malformed)])
      | _ => (.none, [(level, .malformed)])
    | .mapping tag entries =>
      match tag with
      | .mapping =>
        let (entries, faults) := entriesOf entries
        (.dict entries, faults)
      | .set =>
        let (entries, faults) := entriesOf entries
        (.set (entries.map (·.1)), faults)
      | .sequence => (.list [], [(level + 1, .malformed)])
      | .orderedMapping => (.list [], [(level + 1, .malformed)])
      | .pairs => (.list [], [(level + 1, .malformed)])
      | tag => ofExcept level ((scalarText fuel (.mapping tag entries)).bind (scalarValue tag))
    | .enclosing _ => fault

/-- The fault on the outermost level; of several on that level, the first. -/
def firstFault : List (Nat × DocumentFault) → Option (Nat × DocumentFault)
  | [] => none
  | x :: rest => match firstFault rest with
    | some y => some (if y.1 < x.1 then y else x)
    | none => some x

/-- How often a reference to an enclosing collection is followed. -/
def followedLevels : Nat := 3

/-- The value of a graph; a text without a document has none. -/
def Graph.value (g : Graph) : Except DocumentFault Value :=
  match g.root with
  | none => .ok .none
  | some root =>
    let (v, faults) := construct g.collections ((followedLevels + 2) * (g.depth + 1)) followedLevels 0 root
    match firstFault faults with
    | some (_, f) => .error f
    | none => .ok v

/-- The value of the document that a text spells. -/
def valueOfText (text : String) : Except DocumentFault Value := (Graph.ofText text).bind Graph.value

/-! ### Messages -/

/-- What a fault says. -/
def DocumentFault.message : DocumentFault → String
  | malformed => "malformed document"
  | codePoint => "chr() arg not in range(0x110000)"
  | hugeCodePoint => "Python int too large to convert to C int"
  | truth text => Text.quote text
  | emptyNumber => "string index out of range"
  | integer base text =>
    "invalid literal for int() with base " ++ toString base ++ ": " ++
      String.ofList ((Text.quoteChars text.toList).take 200)
  | tooManyDigits count =>
    "Exceeds the limit (" ++ toString maxDecimalDigits ++ " digits) for integer string conversion: value has " ++
      toString count ++ " digits; use sys.set_int_max_str_digits() to increase the limit"
  | real text => "could not convert string to float: " ++ Text.quote text
  | noMoment => "'NoneType' object has no attribute 'groupdict'"
  | momentRange text => text

end NavFactory.Document
