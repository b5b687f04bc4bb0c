import NavFactory.Source.Token
import NavFactory.Text.Composition
import NavFactory.Text.Lines
import NavFactory.Text.Printable

/-!
# Cutting source text into tokens

`tokenize` reads the whole text.  Lines inside brackets and lines that hold only blanks and comments have no layout;
any other line is compared with the lines around it, once with tabs as wide as eight columns and once with tabs as
wide as one, and the two comparisons must agree.
-/

namespace NavFactory.Source

open Text (isReserved)

/-! ### Numbers -/

/-- A run of digits with single underscores between them, after its first digit; `none` if an underscore is not
followed by a digit. -/
def digitTail (isDigit : Char → Bool) : List Char → Option (List Char × List Char)
  | '_' :: c :: rest => if isDigit c then (digitTail isDigit rest).map fun (t, r) => ('_' :: c :: t, r) else none
  | ['_'] => none
  | c :: rest => if isDigit c then (digitTail isDigit rest).map fun (t, r) => (c :: t, r) else some ([], c :: rest)
  | [] => some ([], [])

private def isHexDigit (c : Char) : Bool := c.isDigit || ('a' ≤ c && c ≤ 'f') || ('A' ≤ c && c ≤ 'F')
private def isOctalDigit (c : Char) : Bool := '0' ≤ c && c ≤ '7'
private def isBinaryDigit (c : Char) : Bool := c == '0' || c == '1'

/-- Whether a character belongs to a name or to a run of characters that is meant as one. -/
def isNameStart (c : Char) : Bool := c.isAlpha || c == '_' || 0x80 ≤ c.toNat

@[inherit_doc isNameStart] def isNamePart (c : Char) : Bool := isNameStart c || c.isDigit

/-- Whether the characters behind a number are a keyword that may follow it without a blank. -/
def keywordFollows : List Char → Bool
  | 'a' :: 'n' :: 'd' :: _ => true
  | 'e' :: 'l' :: 's' :: 'e' :: _ => true
  | 'f' :: 'o' :: 'r' :: _ => true
  | 'i' :: 'f' :: _ => true
  | 'i' :: 'n' :: _ => true
  | 'i' :: 's' :: _ => true
  | 'o' :: 'r' :: _ => true
  | 'n' :: 'o' :: 't' :: _ => true
  | _ => false

/-- A number must not run into a name. -/
def numberEnds (rest : List Char) : Bool :=
  keywordFollows rest || match rest with
    | [] => true
    | c :: _ => !isNamePart c

/-- A number with its rest, if the number ends properly. -/
def finishNumber (text rest : List Char) : Option (List Char × List Char) :=
  if numberEnds rest then some (text, rest) else none

/-- The digits behind the base of a number, `0x` for instance. -/
def basedNumber (isDigit : Char → Bool) (start : List Char) (cs : List Char) : Option (List Char × List Char) := do
  let cs := match cs with
    | '_' :: rest => rest
    | cs => cs
  match cs with
  | c :: rest =>
    if isDigit c then
      let (tail, rest) ← digitTail isDigit rest
      if rest.head?.any Char.isDigit then none else finishNumber (start ++ c :: tail) rest
    else none
  | [] => none

/-- The imaginary unit behind a number, if there is one. -/
def imaginaryPart (text : List Char) : List Char → Option (List Char × List Char)
  | 'j' :: rest => finishNumber (text ++ ['j']) rest
  | 'J' :: rest => finishNumber (text ++ ['j']) rest
  | rest => finishNumber text rest

/-- The digits of an exponent, after its letter and sign. -/
def exponentDigits (text digits : List Char) : Option (List Char × List Char) := do
  match digits with
  | c :: rest =>
    if c.isDigit then
      let (tail, rest) ← digitTail Char.isDigit rest
      imaginaryPart (text ++ c :: tail) rest
    else none
  | [] => none

/-- The exponent of a number and what may follow it. -/
def exponentPart (text : List Char) : List Char → Option (List Char × List Char)
  | c :: rest =>
    if c == 'e' || c == 'E' then
      match rest with
      | '+' :: digits => exponentDigits (text ++ ['e', '+']) digits
      | '-' :: digits => exponentDigits (text ++ ['e', '-']) digits
      | d :: _ => if d.isDigit then exponentDigits (text ++ ['e']) rest else finishNumber text (c :: rest)
      | [] => finishNumber text (c :: rest)
    else imaginaryPart text (c :: rest)
  | [] => some (text, [])

/-- The digits behind the point of a number. -/
def fractionPart (text : List Char) (cs : List Char) : Option (List Char × List Char) :=
  match cs with
  | c :: rest =>
    if c.isDigit then do
      let (tail, rest) ← digitTail Char.isDigit rest
      exponentPart (text ++ c :: tail) rest
    else exponentPart text cs
  | [] => some (text, [])

/-- The part of a number behind its integer digits. -/
def afterInteger (text : List Char) : List Char → Option (List Char × List Char)
  | '.' :: rest => fractionPart (text ++ ['.']) rest
  | rest => exponentPart text rest

/-- Whether the text of a number is made of digits and underscores only. -/
private def isPlainInteger (text : List Char) : Bool := text.all fun c => c.isDigit || c == '_'

/-- A number that starts with a digit; a number that starts with zero has another digit only if it is zero itself or
has a fraction, an exponent or an imaginary unit. -/
def takeNumber : List Char → Option (List Char × List Char)
  | '0' :: c :: rest =>
    if c == 'x' || c == 'X' then basedNumber isHexDigit ['0', 'x'] rest
    else if c == 'o' || c == 'O' then basedNumber isOctalDigit ['0', 'o'] rest
    else if c == 'b' || c == 'B' then basedNumber isBinaryDigit ['0', 'b'] rest
    else do
      let (tail, rest) ← digitTail Char.isDigit (c :: rest)
      let (text, rest) ← afterInteger ('0' :: tail) rest
      if isPlainInteger text && text.any (fun c => c != '0' && c != '_') then none else some (text, rest)
  | c :: rest => do
    let (tail, rest) ← digitTail Char.isDigit rest
    afterInteger (c :: tail) rest
  | [] => none

/-! ### Strings -/

/-- The body of a string up to its closing quote, and what follows; `none` if it is not closed. -/
def takeString (quote : Char) (triple : Bool) : List Char → Option (List Char × List Char)
  | [] => none
  | '\\' :: c :: rest => (takeString quote triple rest).map fun (body, rest) => ('\\' :: c :: body, rest)
  | c :: rest =>
    if c == quote then
      if triple then
        if rest.take 2 == [quote, quote] then some ([], rest.drop 2)
        else (takeString quote triple rest).map fun (body, rest) => (c :: body, rest)
      else some ([], rest)
    else if !triple && c == '\n' then none
    else (takeString quote triple rest).map fun (body, rest) => (c :: body, rest)

/-- A string from its opening quote on. -/
def openString : List Char → Option (List Char × List Char)
  | a :: b :: c :: rest =>
    if b == a then if c == a then takeString a true rest else some ([], c :: rest)
    else takeString a false (b :: c :: rest)
  | a :: b :: rest => if b == a then some ([], rest) else takeString a false (b :: rest)
  | _ => none

/-- Whether a character opens a string. -/
def isQuote (c : Char) : Bool := c == '"' || c == '\''

/-- Marks the meaning of a letter in front of a string, if it may stand there. -/
def stringLetter (c : Char) (s : StringToken) : Option StringToken :=
  let plain := !s.isBytes && !s.isRaw && !s.isFormat && !s.isUnicode
  if (c == 'b' || c == 'B') && !s.isBytes && !s.isUnicode && !s.isFormat then some { s with isBytes := true }
  else if (c == 'u' || c == 'U') && plain then some { s with isUnicode := true }
  else if (c == 'r' || c == 'R') && !s.isRaw && !s.isUnicode then some { s with isRaw := true }
  else if (c == 'f' || c == 'F') && !s.isFormat && !s.isBytes && !s.isUnicode then some { s with isFormat := true }
  else none

/-- The letters in front of a string, with the string from its quote on; `none` if no string starts here. -/
def stringStart (s : StringToken) : List Char → Option (StringToken × List Char)
  | [] => none
  | c :: rest =>
    if isQuote c then some (s, c :: rest)
    else match stringLetter c s with
      | some s => stringStart s rest
      | none => none

/-! ### Symbols -/

/-- Symbols of more than one character, longest first. -/
def longSymbols : List (List Char) :=
  ["**=", "//=", ">>=", "<<=", "...", "!=", "%=", "&=", "**", "*=", "+=", "-=", "->", "//", "/=", ":=", "<<", "<=",
    "<>", "==", ">=", ">>", "@=", "^=", "|="].map String.toList

/-- What follows a text, if the characters start with it. -/
def afterStart : List Char → List Char → Option (List Char)
  | [], rest => some rest
  | c :: start, d :: rest => if c == d then afterStart start rest else none
  | _ :: _, [] => none

/-- A symbol of more than one character and what follows it. -/
def takeLongSymbol (cs : List Char) : Option (List Char × List Char) :=
  longSymbols.findSome? fun symbol => (afterStart symbol cs).map fun rest => (symbol, rest)

/-- The bracket that closes a bracket. -/
def closingBracket : Char → Option Char
  | '(' => some ')'
  | '[' => some ']'
  | '{' => some '\x7d'
  | _ => none

/-- Whether a character closes a bracket. -/
def isClosing (c : Char) : Bool := c == ')' || c == ']' || c == '\x7d'

/-! ### Layout -/

/-- The two widths of an indentation. -/
structure Width where
  wide : Nat
  narrow : Nat
deriving DecidableEq

/-- What stands at the start of a line. -/
inductive LineStart
  | content (width : Width) (line : Nat) (rest : List Char)
  /-- A backslash that is not at the end of its line. -/
  | fault (line : Nat)
  /-- A backslash at the end of the last line. -/
  | cutOff (line : Nat)
deriving DecidableEq

/-- The blanks at the start of a line.  Behind a backslash at the end of a line the indentation goes on with that of
the first such line, which counts if it is not zero. -/
def lineStart (line : Nat) (carried : Nat) (width : Width) : List Char → LineStart
  | ' ' :: rest => lineStart line carried ⟨width.wide + 1, width.narrow + 1⟩ rest
  | '\t' :: rest => lineStart line carried ⟨(width.wide / 8 + 1) * 8, width.narrow + 1⟩ rest
  | '\x0c' :: rest => lineStart line carried ⟨0, 0⟩ rest
  | '\\' :: '\n' :: rest =>
    if rest.isEmpty then .cutOff line
    else lineStart (line + 1) (if carried == 0 then width.wide else carried) width rest
  | '\\' :: _ => .fault line
  | rest => .content (if carried == 0 then width else ⟨carried, carried⟩) line rest

/-- Layout tokens for a line of a given width, with the indentations that are then open; the innermost comes
first. -/
def layout (width : Width) (line : Nat) : List Width → Option (List Token × List Width)
  | [] => none
  | top :: below =>
    if width.wide == top.wide then if width.narrow == top.narrow then some ([], top :: below) else none
    else if top.wide < width.wide then
      if width.narrow ≤ top.narrow || 99 ≤ below.length then none
      else some ([⟨.indent, line, 0⟩], width :: top :: below)
    else if below.isEmpty then none
    else (layout width line below).bind fun (tokens, open_) =>
      if tokens.any (·.kind == .indent) then none else some (⟨.dedent, line, 0⟩ :: tokens, open_)

/-! ### The scan -/

/-- Where the scan of a text stands. -/
structure Scan where
  line : Nat := 1
  atLineStart : Bool := true
  /-- Indentations that are open, innermost first. -/
  widths : List Width := [⟨0, 0⟩]
  /-- Brackets that are open, innermost first, with their lines. -/
  brackets : List (Char × Nat) := []
deriving DecidableEq

/-- The number of line breaks in a text. -/
def lineBreaks (cs : List Char) : Nat := (cs.filter (· == '\n')).length

/-- The line of the innermost bracket that is open. -/
def Scan.opened? (s : Scan) : Option Nat := s.brackets.head?.map (·.2)

/-- The end of a scan that comes to a fault in the layout. -/
def Scan.misplaced (s : Scan) (line : Nat) : LexEnd := .layout line s.opened?

/-- The end of a scan whose last line goes on behind the end of the text. -/
def Scan.cutOff (s : Scan) (line : Nat) : LexEnd :=
  match s.opened? with
  | some opened => .unclosed opened
  | none => .layout line none

/-- One step of the scan: tokens, the state after it and the rest of the text, or the end of the scan. -/
def scanStep (s : Scan) (cs : List Char) : List Token × (LexEnd ⊕ Scan × List Char) :=
  let depth := s.brackets.length
  let token (kind : TokenKind) : Token := ⟨kind, s.line, depth⟩
  if s.atLineStart then
    match lineStart s.line 0 ⟨0, 0⟩ cs with
    | .fault line => ([], .inl (s.misplaced line))
    | .cutOff line => ([], .inl (s.cutOff line))
    | .content width line rest =>
      -- the line behind the last break does not count
      let line := if rest.isEmpty then line - 1 else line
      let next := { s with line := line, atLineStart := false }
      let blank := match rest with
        | c :: _ => c == '#' || c == '\n'
        | [] => false
      if depth ≠ 0 then ([], .inr (next, rest))
      else if blank then
        let rest := rest.dropWhile (· != '\n')
        ([], .inr ({ s with line := line + 1 }, rest.tail))
      else
        match layout width line s.widths with
        | none => ([], .inl (s.misplaced line))
        | some (tokens, widths) => (tokens, .inr ({ next with widths := widths }, rest))
  else
    match cs with
    | [] =>
      match s.opened? with
      | some line => ([], .inl (.unclosed line))
      | none => ([token .finish], .inl .complete)
    | c :: rest =>
      if c == ' ' || c == '\t' || c == '\x0c' then ([], .inr (s, rest))
      else if c == '#' then ([], .inr (s, rest.dropWhile (· != '\n')))
      else if c == '\n' then
        let next := { s with line := s.line + 1, atLineStart := true }
        if depth ≠ 0 then ([], .inr (next, rest)) else ([token .newline], .inr (next, rest))
      else if c == '\\' then
        match rest with
        | '\n' :: after =>
          if after.isEmpty then ([], .inl (s.cutOff s.line))
          else ([], .inr ({ s with line := s.line + 1 }, after))
        | _ => ([], .inl (s.misplaced s.line))
      else
        match stringStart { body := [] } cs with
        | some (literal, quoted) =>
          match openString quoted with
          | none => ([], .inl (.malformed s.line))
          | some (body, after) =>
            ([token (.string { literal with body := body })],
              .inr ({ s with line := s.line + lineBreaks body }, after))
        | none =>
          if isNameStart c then
            let text := cs.takeWhile isNamePart
            let after := cs.dropWhile isNamePart
            let word := String.ofList text
            if isReserved word then ([token (.keyword word)], .inr (s, after))
            else if Text.identifierChars text then ([token (.name (Text.composed word))], .inr (s, after))
            else ([], .inl (.malformed s.line))
          else if c.isDigit || (c == '.' && rest.head?.any Char.isDigit) then
            match if c == '.' then fractionPart ['.'] rest else takeNumber cs with
            | some (text, after) => ([token (.number text)], .inr (s, after))
            | none => ([], .inl (.malformed s.line))
          else
            match takeLongSymbol cs with
            | some (symbol, after) => ([token (.symbol (String.ofList symbol))], .inr (s, after))
            | none =>
              let symbol (kind : Scan) : List Token × (LexEnd ⊕ Scan × List Char) :=
                ([⟨.symbol (String.singleton c), s.line, kind.brackets.length⟩], .inr (kind, rest))
              match closingBracket c with
              | some closing =>
                if 200 ≤ depth then ([], .inl (.malformed s.line))
                else symbol { s with brackets := (closing, s.line) :: s.brackets }
              | none =>
                if isClosing c then
                  match s.brackets with
                  | (closing, _) :: outer =>
                    if closing == c then symbol { s with brackets := outer } else ([], .inl (.malformed s.line))
                  | [] => ([], .inl (.malformed s.line))
                else if Text.isPrintable c then symbol s
                else ([], .inl (.malformed s.line))

/-- Steps of the scan until it ends; `read` holds the tokens so far, last first, and `fuel` bounds the steps. -/
def scan : Nat → Scan → List Token → List Char → List Token × LexEnd
  | 0, s, read, _ => (read.reverse, s.misplaced s.line)
  | fuel + 1, s, read, cs =>
    match scanStep s cs with
    | (tokens, .inl finish) => ((tokens.reverse ++ read).reverse, finish)
    | (tokens, .inr (next, rest)) => scan fuel next (tokens.reverse ++ read) rest

/-- The text with line feeds for all newlines, and with one at its end. -/
def withFinalBreak (cs : List Char) : List Char :=
  let cs := Text.normalizeBreaks cs
  if cs.getLast? == some '\n' then cs else cs ++ ['\n']

/-- The tokens of a text.  Each step reads a character or follows a step that read a line break. -/
def tokenize (cs : List Char) : List Token × LexEnd :=
  let cs := withFinalBreak cs
  scan (2 * cs.length + 2) {} [] cs

end NavFactory.Source
