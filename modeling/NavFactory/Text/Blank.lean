/-!
# Blank characters and line breaks

Two classes that are easily confused: the blanks that trimming removes, and the breaks at which a text is cut into
lines.  The file and group separators belong to both, the unit separator and the spaces only to the first.
-/

namespace NavFactory.Text

/-- Whether trimming removes the character. -/
def isBlank (c : Char) : Bool :=
  let n := c.toNat
  (9 ≤ n && n ≤ 13) || (0x1C ≤ n && n ≤ 0x20) || n == 0x85 || n == 0xA0 || n == 0x1680 ||
    (0x2000 ≤ n && n ≤ 0x200A) || n == 0x2028 || n == 0x2029 || n == 0x202F || n == 0x205F || n == 0x3000

/-- Whether a line ends with the character; a carriage return takes a line feed after it along. -/
def isLineBreak (c : Char) : Bool :=
  let n := c.toNat
  (10 ≤ n && n ≤ 13) || (0x1C ≤ n && n ≤ 0x1E) || n == 0x85 || n == 0x2028 || n == 0x2029

/-- The characters without the blanks at their end. -/
def trimRightChars (cs : List Char) : List Char :=
  cs.foldr (fun c rest => if rest.isEmpty && isBlank c then [] else c :: rest) []

/-- The characters without the blanks at both ends. -/
def trimChars (cs : List Char) : List Char := trimRightChars (cs.dropWhile isBlank)

/-- The text without the blanks at both ends. -/
def trim (s : String) : String := String.ofList (trimChars s.toList)

/-- The text without the blanks at its end. -/
def trimRight (s : String) : String := String.ofList (trimRightChars s.toList)

/-- Whether every character is blank. -/
def isBlankText (s : String) : Bool := s.toList.all isBlank

end NavFactory.Text
