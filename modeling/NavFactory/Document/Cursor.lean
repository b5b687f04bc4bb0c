import NavFactory.Document.Token

/-!
# Position in a document

The characters that are still to be read, with the place where they start.
-/

namespace NavFactory.Document

/-- A place in the text of a document. -/
structure Cursor where
  rest : List Char
  index : Nat := 0
  line : Nat := 0
  column : Nat := 0

namespace Cursor

/-- The character that is `n` places ahead. -/
def peek (c : Cursor) (n : Nat := 0) : Option Char := c.rest[n]?

/-- The place behind a character. -/
def step (line column : Nat) (ch : Char) : Nat × Nat :=
  if isBreak ch then (line + 1, 0) else if ch == '\uFEFF' then (line, column) else (line, column + 1)

/-- The place behind the next characters. -/
def advance (c : Cursor) : Nat → Cursor
  | 0 => c
  | n + 1 =>
    match c.rest with
    | [] => c
    | ch :: rest =>
      let (line, column) := step c.line c.column ch
      advance ⟨rest, c.index + 1, line, column⟩ n

/-- Reads the characters that pass a test. -/
def takeWhile (c : Cursor) (test : Char → Bool) : List Char × Cursor :=
  let text := c.rest.takeWhile test
  (text, c.advance text.length)

/-- The place behind the characters that pass a test. -/
def skipWhile (c : Cursor) (test : Char → Bool) : Cursor := (c.takeWhile test).2

/-- The place behind spaces. -/
def skipSpaces (c : Cursor) : Cursor := c.skipWhile (· == ' ')

/-- The place behind a comment, if there is one. -/
def skipComment (c : Cursor) : Cursor := if c.peek == some '#' then c.skipWhile (!isBreak ·) else c

/-- Reads a line break if there is one.  The next-line character counts as a line feed. -/
def takeBreak (c : Cursor) : Option Char × Cursor :=
  match c.rest with
  | ch :: _ =>
    if ch == '\n' || ch == '\u0085' then (some '\n', c.advance 1)
    else if isBreak ch then (some ch, c.advance 1)
    else (none, c)
  | [] => (none, c)

/-- Whether the marks that separate documents stand here. -/
def atSeparator (c : Cursor) : Bool :=
  match c.rest with
  | a :: b :: d :: rest => ((a == '-' && b == '-' && d == '-') || (a == '.' && b == '.' && d == '.')) && endsIndicator rest.head?
  | _ => false

end Cursor

end NavFactory.Document
