import NavFactory.Diff.Matching
import NavFactory.Text.Lines

/-!
# Unified differences

The difference of two texts as a patch: hunks of lines that are kept, removed or added, with up to three kept lines
around each change.  Lines keep their breaks, and a last line without one gets none.
-/

namespace NavFactory.Diff

/-- A run of lines on both sides, from the first line up to but not including the last one: kept as they are, or
those on the left replaced by those on the right. -/
structure Run where
  kept : Bool
  left : Nat
  leftEnd : Nat
  right : Nat
  rightEnd : Nat
deriving DecidableEq

/-- The run between two positions, if there is one. -/
def changeRun (left leftEnd right rightEnd : Nat) : List Run :=
  if left < leftEnd || right < rightEnd then [⟨false, left, leftEnd, right, rightEnd⟩] else []

/-- The runs from a position on each side up to the ends. -/
def runsFrom (left right leftEnd rightEnd : Nat) : List Block → List Run
  | [] => changeRun left leftEnd right rightEnd
  | b :: rest =>
    changeRun left b.left right b.right ++
      ⟨true, b.left, b.left + b.size, b.right, b.right + b.size⟩ ::
      runsFrom (b.left + b.size) (b.right + b.size) leftEnd rightEnd rest

/-- Blocks that follow each other on both sides become one. -/
def joinBlocks : List Block → List Block
  | [] => []
  | b :: rest =>
    match joinBlocks rest with
    | c :: more =>
      if b.left + b.size == c.left && b.right + b.size == c.right then ⟨b.left, b.right, b.size + c.size⟩ :: more
      else b :: c :: more
    | [] => [b]

/-- The runs of two sequences of lines. -/
def runs (left right : List String) : List Run :=
  runsFrom 0 0 left.length right.length (joinBlocks (blocks left right))

/-- How many kept lines stand around a change. -/
def contextSize : Nat := 3

/-- The end of a kept run that stands before a change. -/
def Run.tail (r : Run) : Run :=
  if r.kept then { r with left := max r.left (r.leftEnd - contextSize), right := max r.right (r.rightEnd - contextSize) }
  else r

/-- The start of a kept run that stands behind a change. -/
def Run.head (r : Run) : Run :=
  if r.kept then
    { r with leftEnd := min r.leftEnd (r.left + contextSize), rightEnd := min r.rightEnd (r.right + contextSize) }
  else r

/-- A change with what stands around it. -/
abbrev Hunk := List Run

/-- The hunks of several runs; `hunk` holds those of the current one in reverse. -/
def hunksFrom (hunk : Hunk) : List Run → List Hunk
  | [] => if hunk.any (!·.kept) then [hunk.reverse] else []
  | r :: rest =>
    if r.kept && 2 * contextSize < r.leftEnd - r.left then
      (r.head :: hunk).reverse :: hunksFrom [r.tail] rest
    else hunksFrom (r :: hunk) rest

/-- Runs without the kept lines that are far from the first and the last change. -/
def trimRuns : List Run → List Run
  | [] => []
  | first :: rest =>
    match (first.tail :: rest).reverse with
    | [] => []
    | last :: before => (last.head :: before).reverse

/-- The hunks of two sequences of lines. -/
def hunks (left right : List String) : List Hunk := hunksFrom [] (trimRuns (runs left right))

/-! ### Text -/

/-- A range of lines: where it starts and how long it is.  An empty range starts with the line in front of it. -/
def rangeText (start stop : Nat) : String :=
  let length := stop - start
  if length == 1 then toString (start + 1)
  else toString (if length == 0 then start else start + 1) ++ "," ++ toString length

/-- The lines from one position up to another. -/
def slice (lines : List String) (start stop : Nat) : List String := (lines.take stop).drop start

/-- The lines of a run with their marks. -/
def Run.lines (r : Run) (left right : List String) : List String :=
  if r.kept then (slice left r.left r.leftEnd).map (" " ++ ·)
  else (slice left r.left r.leftEnd).map ("-" ++ ·) ++ (slice right r.right r.rightEnd).map ("+" ++ ·)

/-- The lines of a hunk under the ranges that it covers. -/
def hunkLines (left right : List String) (hunk : Hunk) : List String :=
  match hunk.head?, hunk.getLast? with
  | some first, some last =>
    ("@@ -" ++ rangeText first.left last.leftEnd ++ " +" ++ rangeText first.right last.rightEnd ++ " @@\n") ::
      hunk.flatMap fun r => r.lines left right
  | _, _ => []

/-- The lines of a patch, none if the sides are the same. -/
def patchLines (fileName : String) (left right : List String) : List String :=
  match hunks left right with
  | [] => []
  | found => ["--- a/" ++ fileName ++ "\n", "+++ b/" ++ fileName ++ "\n"] ++ found.flatMap (hunkLines left right)

/-- The lines of a text with their breaks. -/
def textLines (s : String) : List String := (Text.lines s.toList).map String.ofList

/-- The patch that turns one text into another. -/
def unified (fileName before after : String) : String :=
  String.join (patchLines fileName (textLines before) (textLines after))

end NavFactory.Diff
