import NavFactory.Text.Blank

/-!
# Lines

A text is cut after every line break, and each line keeps its break, so that joining the lines gives the text
back.  `normalizeBreaks` is the form in which a file on disk is compared: each of its three newline spellings
becomes a line feed.
-/

namespace NavFactory.Text

/-- Lines with their breaks; `line` holds the characters read since the last break, in reverse. -/
def linesFrom (line : List Char) : List Char → List (List Char)
  | [] => if line.isEmpty then [] else [line.reverse]
  | '\r' :: '\n' :: rest => ('\n' :: '\r' :: line).reverse :: linesFrom [] rest
  | c :: rest =>
    if isLineBreak c then (c :: line).reverse :: linesFrom [] rest else linesFrom (c :: line) rest

/-- The lines of a text, each with its break. -/
def lines (cs : List Char) : List (List Char) := linesFrom [] cs

/-- The lines of a text without their breaks. -/
def bareLines (cs : List Char) : List (List Char) :=
  (lines cs).map fun line => (line.reverse.dropWhile isLineBreak).reverse

/-- Every newline becomes a line feed, whether it was spelled as a line feed, a carriage return or both. -/
def normalizeBreaks : List Char → List Char
  | [] => []
  | '\r' :: '\n' :: rest => '\n' :: normalizeBreaks rest
  | '\r' :: rest => '\n' :: normalizeBreaks rest
  | c :: rest => c :: normalizeBreaks rest

/-- Joining the lines of a text gives the text back. -/
theorem flatten_linesFrom (line cs : List Char) : (linesFrom line cs).flatten = line.reverse ++ cs := by
  fun_induction linesFrom line cs with
  | case1 line h => simp_all
  | case2 line h => simp
  | case3 line rest ih => simp [ih]
  | case4 line c rest h hb ih => simp [ih]
  | case5 line c rest h hb ih => simp [ih]

/-- Joining the lines of a text gives the text back. -/
theorem flatten_lines (cs : List Char) : (lines cs).flatten = cs := by
  simp [lines, flatten_linesFrom]

end NavFactory.Text
