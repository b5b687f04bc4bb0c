import NavFactory.Document.Token

/-!
# Tags of scalars

What a node is: given by its tag, or implied by the text of a plain scalar, whose spelling tells truth values,
numbers, dates and the absence of a value from texts.
-/

namespace NavFactory.Document

/-- What kind of value a node has. -/
inductive Tag
  | null
  | bool
  | integer
  | real
  | binary
  | moment
  | orderedMapping
  | pairs
  | set
  | text
  | sequence
  | mapping
  /-- A key whose mapping is merged into the one around it. -/
  | merge
  /-- A key that stands for the value of its mapping. -/
  | defaultKey
  | unknown
deriving DecidableEq, Inhabited

/-- What the tags of the format start with. -/
def tagNamespace : String := "tag:yaml.org,2002:"

namespace Tag

/-- The tags of the format by name. -/
def names : List (String × Tag) :=
  [("null", .null), ("bool", .bool), ("int", .integer), ("float", .real), ("binary", .binary),
    ("timestamp", .moment), ("omap", .orderedMapping), ("pairs", .pairs), ("set", .set), ("str", .text),
    ("seq", .sequence), ("map", .mapping), ("merge", .merge), ("value", .defaultKey)]

/-- The tag that a text names. -/
def ofText (s : String) : Tag := ((names.map fun (n, t) => (tagNamespace ++ n, t)).lookup s).getD .unknown

end Tag

/-! ### Spellings -/

/-- The spellings of truth values. -/
def truthSpellings : List (String × Bool) :=
  [("yes", true), ("no", false), ("true", true), ("false", false), ("on", true), ("off", false)]

/-- A word in lower case, capitalised, and in upper case. -/
def casings (word : String) : List String :=
  let upper := word.map Char.toUpper
  [word, String.ofList ((upper.toList.take 1) ++ word.toList.drop 1), upper]

/-- Whether a text is a truth value. -/
def isTruth (s : String) : Bool := truthSpellings.any fun (word, _) => (casings word).contains s

/-- Whether a text stands for no value. -/
def isNull (s : String) : Bool := s.isEmpty || s == "~" || (casings "null").contains s

/-- Text without a sign in front. -/
def dropSign : List Char → List Char
  | '-' :: rest => rest
  | '+' :: rest => rest
  | rest => rest

private def isDigitOrLine (c : Char) : Bool := c.isDigit || c == '_'

/-- Digits and low lines that start with a digit, and what follows them. -/
def spanDigits (cs : List Char) : Option (List Char) :=
  match cs with
  | c :: _ => if c.isDigit then some (cs.dropWhile isDigitOrLine) else none
  | [] => none

/-- Whether a text is an exponent or nothing. -/
def isExponent : List Char → Bool
  | [] => true
  | e :: sign :: digits =>
    (e == 'e' || e == 'E') && (sign == '+' || sign == '-') && !digits.isEmpty && digits.all Char.isDigit
  | _ => false

/-- What follows the parts of a number to the base sixty, each behind a colon; there must be one. -/
def dropSixtieths : Nat → List Char → Option (List Char)
  | 0, _ => none
  | fuel + 1, ':' :: a :: rest =>
    let after : Option (List Char) :=
      match rest with
      | b :: more =>
        if b.isDigit && '0' ≤ a && a ≤ '5' then some more else if a.isDigit then some rest else none
      | [] => if a.isDigit then some [] else none
    after.map fun rest => (dropSixtieths fuel rest).getD rest
  | _ + 1, _ => none

/-- Whether a text is a real number. -/
def isReal (s : String) : Bool :=
  let cs := s.toList
  let unsigned := dropSign cs
  let plain := match spanDigits unsigned with
    | some ('.' :: rest) => isExponent (rest.dropWhile isDigitOrLine)
    | _ => false
  let pointFirst := match cs with
    | '.' :: rest => match spanDigits rest with
      | some rest => isExponent rest
      | none => false
    | _ => false
  let sixtieths := match (spanDigits unsigned).bind fun rest => dropSixtieths rest.length rest with
    | some ('.' :: rest) => rest.all isDigitOrLine
    | _ => false
  let infinite := match unsigned with
    | '.' :: rest => (casings "inf").contains (String.ofList rest)
    | _ => false
  plain || pointFirst || sixtieths || infinite || s == ".nan" || s == ".NaN" || s == ".NAN"

/-- Whether a text is an integer. -/
def isInteger (s : String) : Bool :=
  match dropSign s.toList with
  | '0' :: 'b' :: digits => !digits.isEmpty && digits.all fun c => c == '0' || c == '1' || c == '_'
  | '0' :: 'x' :: digits => !digits.isEmpty && digits.all fun c => (hexDigit? c).isSome || c == '_'
  | '0' :: digits => digits.all fun c => ('0' ≤ c && c ≤ '7') || c == '_'
  | c :: rest =>
    let rest := rest.dropWhile isDigitOrLine
    c.isDigit && (rest.isEmpty || dropSixtieths rest.length rest == some [])
  | [] => false

/-! ### Dates and times -/

/-- The parts of a date or time as they are written. -/
structure MomentText where
  year : List Char
  month : List Char
  day : List Char
  /-- Hour, minute and second. -/
  time : Option (List Char × List Char × List Char) := none
  /-- The sign, hour and minute of the zone. -/
  zone : Option (Char × List Char × List Char) := none

/-- At least `least` and at most `most` digits, and what follows them. -/
def takeDigits (least most : Nat) (cs : List Char) : Option (List Char × List Char) :=
  let digits := (cs.take most).takeWhile Char.isDigit
  if digits.length < least then none else some (digits, cs.drop digits.length)

/-- A given character, and what follows it. -/
def dropChar (c : Char) : List Char → Option (List Char)
  | d :: rest => if c == d then some rest else none
  | [] => none

private def isSpaceOrTab (c : Char) : Bool := c == ' ' || c == '\t'

/-- The zone behind a time: a letter, or a sign with hours and perhaps minutes. -/
def zoneText (cs : List Char) : Option (Option (Char × List Char × List Char)) :=
  match cs.dropWhile isSpaceOrTab with
  | [] => if cs.isEmpty then some none else none
  | ['Z'] => some none
  | sign :: rest =>
    if sign == '-' || sign == '+' then do
      let (hours, rest) ← takeDigits 1 2 rest
      match rest with
      | [] => some (some (sign, hours, []))
      | ':' :: rest => do
        let (minutes, rest) ← takeDigits 2 2 rest
        if rest.isEmpty then some (some (sign, hours, minutes)) else none
      | _ => none
    else none

/-- The parts of a date, or of a date with a time. -/
def momentText? (cs : List Char) : Option MomentText := do
  let (year, rest) ← takeDigits 4 4 cs
  let rest ← dropChar '-' rest
  let (month, rest) ← takeDigits 1 2 rest
  let rest ← dropChar '-' rest
  let (day, rest) ← takeDigits 1 2 rest
  match rest with
  | [] => some ⟨year, month, day, none, none⟩
  | c :: after => do
    let rest ← if c == 'T' || c == 't' then some after
      else if isSpaceOrTab c then some (rest.dropWhile isSpaceOrTab) else none
    let (hour, rest) ← takeDigits 1 2 rest
    let rest ← dropChar ':' rest
    let (minute, rest) ← takeDigits 2 2 rest
    let rest ← dropChar ':' rest
    let (second, rest) ← takeDigits 2 2 rest
    let rest := match rest with
      | '.' :: fraction => fraction.dropWhile Char.isDigit
      | rest => rest
    let zone ← zoneText rest
    some ⟨year, month, day, some (hour, minute, second), zone⟩

/-- Whether a text is a date or time by its spelling: a date alone has all its digits. -/
def isMoment (s : String) : Bool :=
  match momentText? s.toList with
  | some m => m.time.isSome || (m.month.length == 2 && m.day.length == 2)
  | none => false

/-- The tag that a plain text implies.  A line break at its end does not count. -/
def impliedTag (s : String) : Tag :=
  let s := match s.toList.reverse with
    | '\n' :: rest => String.ofList rest.reverse
    | _ => s
  if isTruth s then .bool
  else if isNull s then .null
  else if isReal s then .real
  else if isInteger s then .integer
  else if isMoment s then .moment
  else if s == "<<" then .merge
  else if s == "=" then .defaultKey
  else .text

end NavFactory.Document
