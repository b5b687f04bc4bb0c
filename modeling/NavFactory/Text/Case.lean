import NavFactory.Text.CaseTable

/-!
# Case mappings

Full mappings of whole texts to lower case, to upper case, and to a capital followed by lower case.  A capital
sigma becomes the final form exactly when a letter with a case stands before it and none after it, with the
case-ignorable characters passed over on both sides.
-/

namespace NavFactory.Text

/-- The image of a code point under runs of code points that move together. -/
def runImage : List CaseRun → Nat → Option Nat
  | [], _ => none
  | (low, high, step, image) :: rest, n =>
    if low ≤ n && n ≤ high && (n - low) % step == 0 then some (image + (n - low)) else runImage rest n

/-- The image of a character above ASCII under a full mapping. -/
def fullImage (runs : List CaseRun) (expansions : List (Nat × List Nat)) (c : Char) : Option (List Char) :=
  match expansions.find? (fun entry => entry.1 == c.toNat) with
  | some (_, image) => some (image.map Char.ofNat)
  | none => (runImage runs c.toNat).map fun n => [Char.ofNat n]

/-- The lower-case form of a character, taken alone. -/
def lowerChar (c : Char) : List Char :=
  if c.toNat < 0x80 then [c.toLower] else (fullImage lowerRuns lowerExpansions c).getD [c]

/-- The upper-case form of a character. -/
def upperChar (c : Char) : List Char :=
  if c.toNat < 0x80 then [c.toUpper] else (fullImage upperRuns upperExpansions c).getD [c]

/-- The form of a character at the start of a capitalised word. -/
def titleChar (c : Char) : List Char :=
  if c.toNat < 0x80 then [c.toUpper] else (fullImage titleRuns titleExpansions c).getD (upperChar c)

private def isCased (c : Char) : Bool := classOf Char.isAlpha casedRanges c

private def isCaseIgnorable (c : Char) : Bool := caseIgnorableRanges.holds c.toNat

/-- Whether the nearest character that is not case-ignorable has a case. -/
def nearestIsCased (cs : List Char) : Bool :=
  match cs.dropWhile isCaseIgnorable with
  | [] => false
  | c :: _ => isCased c

/-- Lower-case form; `before` holds the characters already passed, nearest first. -/
def lowerFrom (before : List Char) : List Char → List Char
  | [] => []
  | c :: rest =>
    let image :=
      if c == 'Σ' then (if nearestIsCased before && !nearestIsCased rest then ['ς'] else ['σ']) else lowerChar c
    image ++ lowerFrom (c :: before) rest

/-- The text in lower case. -/
def lower (s : String) : String := String.ofList (lowerFrom [] s.toList)

/-- The text in upper case. -/
def upper (s : String) : String := String.ofList (s.toList.flatMap upperChar)

/-- The first character as a capital, the others in lower case. -/
def capitalize (s : String) : String :=
  match s.toList with
  | [] => ""
  | c :: rest => String.ofList (titleChar c ++ lowerFrom [c] rest)

end NavFactory.Text
