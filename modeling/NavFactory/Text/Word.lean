import NavFactory.Text.WordTable

/-!
# Word characters

Letters, numbers and the underscore; all other characters of a parameter key become underscores.
-/

namespace NavFactory.Text

/-- Whether a character is a letter, a number or the underscore. -/
def isWordChar (c : Char) : Bool :=
  classOf (fun c => c.isAlphanum || c == '_') wordRanges c

/-- Whether a character is a digit of any script, superscripts and circled digits included. -/
def isDigitChar (c : Char) : Bool := classOf Char.isDigit digitRanges c

end NavFactory.Text
