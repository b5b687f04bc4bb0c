import NavFactory.Text.Identifier

/-!
# Tokens of source text

Source text is cut into names, keywords, numbers, strings, symbols and the layout tokens that stand for the ends of
logical lines and for changes of the indentation.
-/

namespace NavFactory.Source

/-- A string literal before its escapes are read. -/
structure StringToken where
  isBytes : Bool := false
  isRaw : Bool := false
  isFormat : Bool := false
  isUnicode : Bool := false
  body : List Char
deriving DecidableEq

/-- What a token is. -/
inductive TokenKind
  | name (text : String)
  | keyword (text : String)
  | number (text : List Char)
  | string (literal : StringToken)
  | symbol (text : String)
  | newline
  | indent
  | dedent
  | finish
deriving DecidableEq

/-- A token with the line on which it starts and the number of brackets that are open behind it. -/
structure Token where
  kind : TokenKind
  line : Nat
  depth : Nat := 0
deriving DecidableEq

/-- Why no more tokens follow. -/
inductive LexEnd
  /-- The text was read to its end. -/
  | complete
  /-- The text was read to its end inside a bracket that was opened on a line. -/
  | unclosed (line : Nat)
  /-- A character or literal on a line is malformed. -/
  | malformed (line : Nat)
  /-- The layout is wrong on a line, perhaps inside a bracket that was opened on another line. -/
  | layout (line : Nat) (opened : Option Nat)
deriving DecidableEq

end NavFactory.Source
