import NavFactory.Text.Lines

/-!
# Chunks of templates

A template is text with outputs in double braces, tags in braces with percent signs, and comments in braces with
number signs.  A tag or comment swallows the line break behind it, and the blanks before it if nothing else stands
in front of it on its line; a minus sign inside the braces swallows all blanks on its side.
-/

namespace NavFactory.Template

/-- A part of a template. -/
inductive Chunk
  | text (s : List Char)
  | output (code : List Char)
  | tag (code : List Char)
deriving DecidableEq

private def isSpace (c : Char) : Bool := c == ' ' || c == '\t'

/-- The characters before a mark of two characters and those behind it. -/
def splitAtMark (a b : Char) : List Char → Option (List Char × List Char)
  | [] => none
  | [_] => none
  | c :: d :: rest =>
    if c == a && d == b then some ([], rest)
    else (splitAtMark a b (d :: rest)).map fun (before, after) => (c :: before, after)

/-- Text in front of a tag, without the blanks that start its last line; `none` stands for the start of a line. -/
def stripLineStart (atLineStart : Bool) (text : List Char) : List Char :=
  let kept := (text.reverse.dropWhile isSpace).reverse
  match kept.getLast? with
  | none => if atLineStart then [] else text
  | some c => if c == '\n' then kept else text

private def stripEnd (text : List Char) : List Char := Text.trimRightChars text

/-- The text behind a tag, without the line break that follows at once. -/
def stripBreak : List Char → List Char
  | '\n' :: rest => rest
  | rest => rest

/-- The code of a mark with its signs for blanks: whether blanks before and behind it are swallowed. -/
def markSigns (code : List Char) : Bool × List Char × Bool :=
  let (before, code) := match code with
    | '-' :: rest => (true, rest)
    | '+' :: rest => (false, rest)
    | code => (false, code)
  match code.reverse with
  | '-' :: rest => (before, rest.reverse, true)
  | _ => (before, code, false)

/-- The chunks of a template; `none` if a mark is not closed.  `text` holds the characters since the last mark, in
reverse, and `atLineStart` tells whether that mark ended its line. -/
def chunks : Nat → Bool → List Char → List Char → Option (List Chunk)
  | 0, _, _, _ => none
  | _ + 1, _, text, [] => some [.text text.reverse]
  | fuel + 1, _, text, '{' :: '{' :: rest => do
    let (code, rest) ← splitAtMark '\x7d' '\x7d' rest
    let (before, code, behind) := markSigns code
    let text := if before then stripEnd text.reverse else text.reverse
    let rest := if behind then rest.dropWhile Text.isBlank else rest
    let more ← chunks fuel false [] rest
    some (.text text :: .output code :: more)
  | fuel + 1, atLineStart, text, '{' :: '%' :: rest => do
    let (code, rest) ← splitAtMark '%' '\x7d' rest
    let (before, code, behind) := markSigns code
    let text := if before then stripEnd text.reverse else stripLineStart atLineStart text.reverse
    let stripped := if behind then rest.dropWhile Text.isBlank else stripBreak rest
    let more ← chunks fuel (stripped.length < rest.length) [] stripped
    some (.text text :: .tag code :: more)
  | fuel + 1, atLineStart, text, '{' :: '#' :: rest => do
    let (code, rest) ← splitAtMark '#' '\x7d' rest
    let (before, _, behind) := markSigns code
    let text := if before then stripEnd text.reverse else stripLineStart atLineStart text.reverse
    let stripped := if behind then rest.dropWhile Text.isBlank else stripBreak rest
    let more ← chunks fuel (stripped.length < rest.length) [] stripped
    some (.text text :: more)
  | fuel + 1, atLineStart, text, c :: rest => chunks fuel atLineStart (c :: text) rest

/-- A template without the line break at its end. -/
def withoutFinalBreak (cs : List Char) : List Char := if cs.getLast? == some '\n' then cs.dropLast else cs

/-- The chunks of a template. -/
def chunksOf (source : String) : Option (List Chunk) :=
  let cs := withoutFinalBreak (Text.normalizeBreaks source.toList)
  chunks (cs.length + 1) true [] cs

end NavFactory.Template
