import NavFactory.Text.IdentifierTable

/-!
# Identifiers

A name may stand in generated code where the grammar asks for an identifier exactly when `isIdentifier` holds of
it.  Reserved words are identifiers by this test; `isReserved` tells them apart.
-/

namespace NavFactory.Text

/-- Whether a character may start an identifier. -/
def startsIdentifier (c : Char) : Bool :=
  classOf (fun c => c.isAlpha || c == '_') identifierStart c

/-- Whether a character may continue an identifier. -/
def continuesIdentifier (c : Char) : Bool :=
  classOf (fun c => c.isAlphanum || c == '_') identifierStart c ||
    classOf (fun _ => false) identifierExtra c

/-- Whether the characters form an identifier. -/
def identifierChars : List Char → Bool
  | [] => false
  | c :: rest => startsIdentifier c && rest.all continuesIdentifier

/-- Whether a text is an identifier. -/
def isIdentifier (s : String) : Bool := identifierChars s.toList

/-- The words that the grammar of Python reserves. -/
def reservedWords : List String :=
  ["False", "None", "True", "and", "as", "assert", "async", "await", "break", "class", "continue", "def", "del",
    "elif", "else", "except", "finally", "for", "from", "global", "if", "import", "in", "is", "lambda", "nonlocal",
    "not", "or", "pass", "raise", "return", "try", "while", "with", "yield"]

/-- Whether a text is a reserved word. -/
def isReserved (s : String) : Bool := reservedWords.contains s

end NavFactory.Text
