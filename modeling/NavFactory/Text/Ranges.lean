/-!
# Ranges of code points

A class of characters is kept as the increasing list of its closed ranges.  `Ranges.holds` looks a code point up
and stops at the first range that begins after it.
-/

namespace NavFactory.Text

/-- Closed ranges of code points, in increasing order. -/
abbrev Ranges := List (Nat × Nat)

/-- Whether a code point lies in one of the ranges. -/
def Ranges.holds : Ranges → Nat → Bool
  | [], _ => false
  | (low, high) :: rest, n => if n < low then false else if n ≤ high then true else Ranges.holds rest n

/-- A class that is given by a rule up to `0x7F` and by ranges above. -/
def classOf (ascii : Char → Bool) (above : Ranges) (c : Char) : Bool :=
  if c.toNat < 0x80 then ascii c else above.holds c.toNat

end NavFactory.Text
