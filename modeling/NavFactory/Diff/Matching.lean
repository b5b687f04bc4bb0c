import NavFactory.Sorted

/-!
# Matching blocks

Two sequences of lines are compared by their longest common block, and then in the same way in front of it and
behind it.  In a long sequence a line that makes up more than a hundredth of it cannot start a block, but a block
is extended over such lines.
-/

namespace NavFactory.Diff

/-- Lines that two sequences share: where they start on each side, and how many they are. -/
structure Block where
  left : Nat
  right : Nat
  size : Nat
deriving DecidableEq

/-- A line of the right side, and whether it is too frequent to start a block. -/
abbrev MarkedLine := String × Bool

/-- The length from which on frequent lines are passed over. -/
def longLength : Nat := 200

/-- The lines of the right side with their marks. -/
def markFrequent (lines : List String) : List MarkedLine :=
  let frequent := if lines.length < longLength then [] else
    (dedupe lines).filter fun line => lines.length / 100 + 1 < lines.count line
  lines.map fun line => (line, frequent.contains line)

/-- The lengths of the common blocks that end with a given line on the left and each line on the right; `before` has
those for the line in front of it on the left, and `diagonal` the one for the line in front on both sides. -/
def nextLengths (line : String) : Nat → List Nat → List MarkedLine → List Nat
  | _, _, [] => []
  | diagonal, before, (other, frequent) :: rest =>
    (if line == other && !frequent then diagonal + 1 else 0) ::
      nextLengths line (before.headD 0) before.tail rest

/-- The better of a block and those that end at given lengths on the right from `position` on, with the left side
ending before `stop`; of two of one size the earlier counts. -/
def betterBlock (stop position : Nat) (best : Block) : List Nat → Block
  | [] => best
  | size :: rest =>
    let best := if best.size < size then ⟨stop - size, position + 1 - size, size⟩ else best
    betterBlock stop (position + 1) best rest

/-- The longest block, when the lines on the left from `stop` on have not been looked at. -/
def longestFrom (right : List MarkedLine) (stop : Nat) (before : List Nat) (best : Block) : List String → Block
  | [] => best
  | line :: rest =>
    let lengths := nextLengths line 0 before right
    longestFrom right (stop + 1) lengths (betterBlock (stop + 1) 0 best lengths) rest

/-- How many lines two sequences have in common at their start. -/
def commonStart : List String → List MarkedLine → Nat
  | a :: as, (b, _) :: bs => if a == b then commonStart as bs + 1 else 0
  | _, _ => 0

/-- The longest block, extended on both sides over frequent lines. -/
def longestBlock (left : List String) (right : List MarkedLine) : Block :=
  let best := longestFrom right 0 [] ⟨0, 0, 0⟩ left
  let before := commonStart (left.take best.left).reverse (right.take best.right).reverse
  let behind := commonStart (left.drop (best.left + best.size)) (right.drop (best.right + best.size))
  ⟨best.left - before, best.right - before, before + best.size + behind⟩

/-- The common blocks in order, for sequences that start at given positions.  `fuel` bounds the number of lines on
the left. -/
def blocksFrom : Nat → Nat → Nat → List String → List MarkedLine → List Block
  | 0, _, _, _, _ => []
  | fuel + 1, i, j, left, right =>
    let best := longestBlock left right
    if best.size == 0 then []
    else
      blocksFrom fuel i j (left.take best.left) (right.take best.right) ++
        ⟨i + best.left, j + best.right, best.size⟩ ::
        blocksFrom fuel (i + best.left + best.size) (j + best.right + best.size)
          (left.drop (best.left + best.size)) (right.drop (best.right + best.size))

/-- The common blocks of two sequences. -/
def blocks (left right : List String) : List Block :=
  blocksFrom (left.length + 1) 0 0 left (markFrequent right)

end NavFactory.Diff
