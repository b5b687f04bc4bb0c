import NavFactory.Text.CompositionTable

/-!
# Composed compatibility form

Two spellings of one name are the same identifier when they agree after compatibility decomposition, ordering of
the combining marks and canonical composition.
-/

namespace NavFactory.Text

/-- The rows of a table text: maximal runs of characters other than the space. -/
def tableRows (text : String) : List (List Char) :=
  let step (c : Char) (rows : List (List Char)) : List (List Char) :=
    if c == ' ' then [] :: rows
    else match rows with
      | [] => [[c]]
      | row :: rest => (c :: row) :: rest
  (text.toList.foldr step [[]]).filter (!·.isEmpty)

/-- Characters with their full decompositions. -/
def decompositions : List (Char × List Char) :=
  (decompositionRows.flatMap tableRows).filterMap fun
    | c :: image => some (c, image)
    | [] => none

/-- Pairs of characters with the character they compose. -/
def compositions : List ((Char × Char) × Char) :=
  (compositionRows.flatMap tableRows).filterMap fun
    | [first, second, composed] => some ((first, second), composed)
    | _ => none

/-- The ordering class of a character, zero for all but combining marks. -/
def markClass (c : Char) : Nat :=
  match markOrder.find? (fun (low, high, _) => low ≤ c.toNat && c.toNat ≤ high) with
  | some (_, _, order) => order
  | none => 0

/-- The full decomposition of a character; a Hangul syllable falls apart into its two or three letters. -/
def decomposeChar (c : Char) : List Char :=
  let n := c.toNat
  if n < 0x80 then [c]
  else if 0xAC00 ≤ n && n ≤ 0xD7A3 then
    let k := n - 0xAC00
    let trail := if k % 28 == 0 then [] else [Char.ofNat (0x11A7 + k % 28)]
    Char.ofNat (0x1100 + k / 588) :: Char.ofNat (0x1161 + k % 588 / 28) :: trail
  else ((decompositions.find? (·.1 == c)).map (·.2)).getD [c]

/-- Puts a mark behind those of its own and lower classes that follow a starter. -/
def insertMark (c : Char) : List Char → List Char
  | [] => [c]
  | d :: rest => if markClass c < markClass d then c :: d :: rest else d :: insertMark c rest

/-- Sorts each run of combining marks by class and keeps the order within a class. -/
def orderMarks : List Char → List Char → List Char
  | run, [] => run
  | run, c :: rest => if markClass c == 0 then run ++ c :: orderMarks [] rest else orderMarks (insertMark c run) rest

/-- The character that two neighbours compose, if any. -/
def composePair (first second : Char) : Option Char :=
  let a := first.toNat
  let b := second.toNat
  if 0x1100 ≤ a && a ≤ 0x1112 && 0x1161 ≤ b && b ≤ 0x1175 then
    some (Char.ofNat (0xAC00 + ((a - 0x1100) * 21 + (b - 0x1161)) * 28))
  else if 0xAC00 ≤ a && a ≤ 0xD7A3 && (a - 0xAC00) % 28 == 0 && 0x11A8 ≤ b && b ≤ 0x11C2 then
    some (Char.ofNat (a + (b - 0x11A7)))
  else (compositions.find? (·.1 == (first, second))).map (·.2)

/-- Composition after a starter: `blocked` holds the characters that stayed behind the starter, in reverse. -/
def composeFrom (starter : Char) (blocked : List Char) : List Char → List Char
  | [] => starter :: blocked.reverse
  | c :: rest =>
    let previous := match blocked with
      | [] => 0
      | b :: _ => markClass b
    let reachable := blocked.isEmpty || (previous ≠ 0 && previous < markClass c)
    match if reachable then composePair starter c else none with
    | some composed => composeFrom composed blocked rest
    | none =>
      if markClass c == 0 then starter :: blocked.reverse ++ composeFrom c [] rest
      else composeFrom starter (c :: blocked) rest

/-- The composed compatibility form of an identifier. -/
def composed (s : String) : String :=
  if s.toList.all (·.toNat < 0x80) then s
  else match orderMarks [] (s.toList.flatMap decomposeChar) with
    | [] => ""
    | c :: rest => String.ofList (composeFrom c [] rest)

end NavFactory.Text
