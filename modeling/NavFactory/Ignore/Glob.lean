/-!
# Glob patterns

A pattern is a list of pieces: a star stands for any characters, a question mark for any one, brackets for one of a
set or, after an exclamation mark, for one outside it.  No character is special in the name that is matched, not
even a slash.
-/

namespace NavFactory

/-- A part of a glob pattern. -/
inductive GlobPiece
  | many
  | one
  | exactly (c : Char)
  | oneOf (ranges : List (Char × Char))
  | noneOf (ranges : List (Char × Char))
deriving DecidableEq

/-- A glob pattern. -/
abbrev Glob := List GlobPiece

namespace Glob

/-! ### Sets in brackets -/

/-- Cuts a set at the hyphens that make ranges: the one behind the first character, or behind the second after a
negation, and then each that has two characters since the last.  `chunk` is the current part in reverse, and
`passed` the number of characters that a hyphen has to wait for. -/
def rangeChunks (chunk : List Char) : Nat → List Char → List (List Char)
  | _, [] => [chunk.reverse]
  | 0, c :: rest => if c == '-' then chunk.reverse :: rangeChunks [] 2 rest else rangeChunks (c :: chunk) 0 rest
  | passed + 1, c :: rest => rangeChunks (c :: chunk) passed rest

/-- A hyphen that ends a set stands for itself. -/
def joinFinalHyphen : List (List Char) → List (List Char)
  | [] => []
  | [chunk, []] => [chunk ++ ['-']]
  | chunk :: rest => chunk :: joinFinalHyphen rest

/-- Drops the ends of ranges that run backwards, from the last one on. -/
def dropEmptyRanges : List (List Char) → List (List Char)
  | [] => []
  | chunk :: rest =>
    match dropEmptyRanges rest with
    | [] => [chunk]
    | next :: more =>
      match chunk.getLast?, next with
      | some low, high :: others =>
        if high < low then (chunk.dropLast ++ others) :: more else chunk :: next :: more
      | _, _ => chunk :: next :: more

/-- The characters and ranges of a set whose parts stand between range hyphens; `low` is the open start of a range. -/
def rangesOf (low : Option Char) : List (List Char) → List (Char × Char)
  | [] => (low.map fun c => (c, c)).toList
  | chunk :: rest =>
    let (start, chunk) : List (Char × Char) × List Char := match low, chunk with
      | some l, h :: others => ([(l, h)], others)
      | some l, [] => ([(l, l)], [])
      | none, chunk => ([], chunk)
    if rest.isEmpty then start ++ chunk.map fun c => (c, c)
    else start ++ chunk.dropLast.map (fun c => (c, c)) ++ rangesOf chunk.getLast? rest

/-- The piece for the text between brackets. -/
def setPiece (text : List Char) : GlobPiece :=
  let chunks :=
    if text.contains '-' then
      dropEmptyRanges (joinFinalHyphen (rangeChunks [] (if text.head? == some '!' then 2 else 1) text))
    else [text]
  match chunks with
  | [[]] => .oneOf []
  | [['!']] => .one
  | ('!' :: chunk) :: rest => .noneOf (rangesOf none (chunk :: rest))
  | chunks => .oneOf (rangesOf none chunks)

/-- The text between a bracket that has been read and the one that closes it, and what follows; a closing bracket
at the very start, or after an exclamation mark there, belongs to the text. -/
def bracketText (rest : List Char) : Option (List Char × List Char) :=
  let (start, rest) : List Char × List Char := match rest with
    | '!' :: ']' :: rest => (['!', ']'], rest)
    | '!' :: rest => (['!'], rest)
    | ']' :: rest => ([']'], rest)
    | rest => ([], rest)
  match rest.dropWhile (· != ']') with
  | _ :: after => some (start ++ rest.takeWhile (· != ']'), after)
  | [] => none

/-! ### Patterns -/

/-- The pieces of a pattern.  A bracket that is not closed stands for itself.  `fuel` bounds the number of pieces. -/
def piecesOf : Nat → List Char → Glob
  | 0, _ => []
  | _ + 1, [] => []
  | fuel + 1, '*' :: rest => .many :: piecesOf fuel (rest.dropWhile (· == '*'))
  | fuel + 1, '?' :: rest => .one :: piecesOf fuel rest
  | fuel + 1, '[' :: rest =>
    match bracketText rest with
    | some (text, after) => setPiece text :: piecesOf fuel after
    | none => .exactly '[' :: piecesOf fuel rest
  | fuel + 1, c :: rest => .exactly c :: piecesOf fuel rest

/-- The pattern that a text spells. -/
def ofText (text : String) : Glob := piecesOf (text.length + 1) text.toList

/-- A list and all that is left of it when characters are taken from its front. -/
def suffixes : List Char → List (List Char)
  | [] => [[]]
  | c :: rest => (c :: rest) :: suffixes rest

/-- Whether a character lies in one of the ranges. -/
def inRanges (ranges : List (Char × Char)) (c : Char) : Bool := ranges.any fun (low, high) => low ≤ c && c ≤ high

/-- Whether a piece stands for a character. -/
def pieceHolds (c : Char) : GlobPiece → Bool
  | .many => true
  | .one => true
  | .exactly d => c == d
  | .oneOf ranges => inRanges ranges c
  | .noneOf ranges => !inRanges ranges c

/-- Whether a pattern stands for a name. -/
def accepts : Glob → List Char → Bool
  | [], name => name.isEmpty
  | .many :: rest, name => (suffixes name).any (accepts rest)
  | _ :: _, [] => false
  | piece :: rest, c :: name => pieceHolds c piece && accepts rest name

/-- Whether a pattern, given as a text, stands for a name. -/
def matchesText (pattern name : String) : Bool := accepts (ofText pattern) name.toList

end Glob

end NavFactory
