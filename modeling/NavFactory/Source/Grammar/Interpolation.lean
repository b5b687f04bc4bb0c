import NavFactory.Source.Grammar.Rules
import NavFactory.Source.Lexer
import NavFactory.Source.StringLiteral
import NavFactory.Text.CharacterName

/-!
# Runs of string literals

String literals that stand side by side are one literal.  A formatted string holds fields in braces, and the format
of a field may hold fields in turn, once.  The expression of a field ends at the first colon, exclamation mark,
equals sign or closing brace that stands outside its own brackets and strings.
-/

namespace NavFactory.Source

/-- The line of a fault inside a string; none if it counts at the token behind the run of strings. -/
abbrev StringFault := Option Nat

/-- What a run of strings holds so far: pieces, last first, where no two texts stand side by side. -/
def appendText (text : List Char) : List Piece → List Piece
  | .text s :: rest => .text (s ++ String.ofList text) :: rest
  | pieces => if text.isEmpty then pieces else .text (String.ofList text) :: pieces

/-- How the text of a formatted string goes on behind a literal part. -/
inductive LiteralEnd
  /-- A doubled brace, which was read as one. -/
  | doubled
  /-- A field or the end of the text. -/
  | boundary
deriving DecidableEq

/-- A literal part of a formatted string, with the rest behind it.  Braces are doubled at the outer level only. -/
def takeLiteral (outer isRaw : Bool) : Nat → List Char → Except StringFault (List Char × LiteralEnd × List Char)
  | 0, rest => .ok ([], .boundary, rest)
  | _ + 1, [] => .ok ([], .boundary, [])
  | fuel + 1, c :: rest =>
    let more (taken : List Char) (rest : List Char) : Except StringFault (List Char × LiteralEnd × List Char) := do
      let (text, finish, rest) ← takeLiteral outer isRaw fuel rest
      .ok (taken ++ text, finish, rest)
    let brace (start : List Char) (c : Char) (rest : List Char) :
        Except StringFault (List Char × LiteralEnd × List Char) :=
      if outer && rest.head? == some c then .ok (start ++ [c], .doubled, rest.tail)
      else if outer && c == '\x7d' then .error none
      else .ok (start, .boundary, c :: rest)
    if !isRaw && c == '\\' then
      match rest with
      | [] => more [c] []
      | 'N' :: '{' :: rest =>
        let name := rest.takeWhile (· != '\x7d')
        match rest.dropWhile (· != '\x7d') with
        | close :: after => more (['\\', 'N', '{'] ++ name ++ [close]) after
        | [] => more (['\\', 'N', '{'] ++ name) []
      | d :: rest => if d == '{' || d == '\x7d' then brace [c] d rest else more [c, d] rest
    else if c == '{' || c == '\x7d' then brace [] c rest
    else more [c] rest

/-- Where the scan of a field stands: the string that is open, with its length of quotes, and the open brackets. -/
structure FieldScan where
  quote : Option (Char × Bool) := none
  brackets : List Char := []

/-- The expression of a field, with the rest from the character that ends it on. -/
def takeField : Nat → FieldScan → List Char → Except StringFault (List Char × List Char)
  | 0, _, _ => .error none
  | _ + 1, _, [] => .error none
  | fuel + 1, s, c :: rest =>
    let more (taken : List Char) (s : FieldScan) (rest : List Char) : Except StringFault (List Char × List Char) := do
      let (text, rest) ← takeField fuel s rest
      .ok (taken ++ text, rest)
    let tripled := match rest with
      | d :: e :: _ => d == c && e == c
      | _ => false
    if c == '\\' then .error none
    else match s.quote with
      | some (quote, triple) =>
        if c == quote then
          if triple then
            if tripled then more [c, c, c] { s with quote := none } (rest.drop 2) else more [c] s rest
          else more [c] { s with quote := none } rest
        else more [c] s rest
      | none =>
        if c == '"' || c == '\'' then
          if tripled then more [c, c, c] { s with quote := some (c, true) } (rest.drop 2)
          else more [c] { s with quote := some (c, false) } rest
        else match closingBracket c with
          | some closing =>
            if 200 ≤ s.brackets.length then .error none
            else more [c] { s with brackets := closing :: s.brackets } rest
          | none =>
            let followed := rest.head? == some '='
            if c == '#' then .error none
            else if s.brackets.isEmpty && (c == '!' || c == ':' || c == '\x7d' || c == '=' || c == '<' || c == '>') then
              if followed && (c == '!' || c == '=' || c == '<' || c == '>') then more [c, '='] s rest.tail
              else if c == '<' || c == '>' then more [c] s rest
              else .ok ([], c :: rest)
            else if c == ')' || c == ']' || c == '\x7d' then
              match s.brackets with
              | closing :: outer => if closing == c then more [c] { s with brackets := outer } rest else .error none
              | [] => .error none
            else more [c] s rest

private def isFieldBlank (c : Char) : Bool := c == ' ' || c == '\t' || c == '\n' || c == '\x0c' || c == '\r'

private def breaksIn (cs : List Char) : Nat := (cs.filter (· == '\n')).length

/-- Parses the expression of a field, which starts on a line. -/
def fieldExpression (parse : Parser Expr) (line : Nat) (text : List Char) : Except StringFault Expr :=
  if text.all isFieldBlank then .error none
  else
    let (tokens, finish) := tokenize ('(' :: text ++ [')'])
    let tokens := tokens.map fun t => { t with line := t.line + line - 1 }
    let finish : LexEnd := match finish with
      | .complete => .complete
      | .unclosed n => .unclosed (n + line - 1)
      | .malformed n => .malformed (n + line - 1)
      | .layout n opened => .layout (n + line - 1) (opened.map (· + line - 1))
    match parse tokens with
    | .ok (e, _) => .ok e
    | .error f => .error (some (f.line tokens finish))

/-- The conversion behind an exclamation mark. -/
def takeConversion : List Char → Except StringFault (Option Conversion × List Char)
  | '!' :: c :: rest =>
    if c == 's' then .ok (some .str, rest)
    else if c == 'r' then .ok (some .repr, rest)
    else if c == 'a' then .ok (some .ascii, rest)
    else .error none
  | ['!'] => .error none
  | rest => .ok (none, rest)

/-- The character that is meant by the text of a literal part. -/
def decodeLiteral (isRaw : Bool) (text : List Char) : Except StringFault (List Char) :=
  if isRaw then .ok text
  else match unescapeText Text.characterNamed (text.length + 1) text with
    | some chars => .ok chars
    | none => .error none

/-- The pieces of a formatted string from a position on; `line` is the line of that position, `level` counts the
formats around it, and `read` holds the pieces so far, last first. -/
def formatPieces (parse : Parser Expr) (isRaw : Bool) :
    Nat → Nat → Nat → List Piece → List Char → Except StringFault (List Piece × List Char)
  | 0, _, _, _, _ => .error none
  | fuel + 1, level, line, read, cs => do
    let (literal, finish, rest) ← takeLiteral (level == 0) isRaw (cs.length + 1) cs
    let read := appendText (← decodeLiteral isRaw literal) read
    let line := line + breaksIn (cs.take (cs.length - rest.length))
    match finish with
    | .doubled => formatPieces parse isRaw fuel level line read rest
    | .boundary =>
      match rest with
      | '{' :: inside =>
        if 2 ≤ level then .error none
        else do
          let (text, after) ← takeField (inside.length + 1) {} inside
          let value ← fieldExpression parse line text
          let (shown, after) := match after with
            | '=' :: more =>
              let blanks := more.takeWhile isFieldBlank
              (text ++ '=' :: blanks, more.dropWhile isFieldBlank)
            | after => ([], after)
          let (conversion, after) ← takeConversion after
          let read := appendText shown read
          let (spec, after) ← match after with
            | ':' :: more => do
              let line := line + breaksIn (inside.take (inside.length - more.length))
              let (pieces, after) ← formatPieces parse isRaw fuel (level + 1) line [] more
              .ok (some pieces, after)
            | after => .ok (none, after)
          match after with
          | '\x7d' :: more =>
            let conversion := if !shown.isEmpty && spec.isNone && conversion.isNone then some .repr else conversion
            let line := line + breaksIn (inside.take (inside.length - more.length))
            formatPieces parse isRaw fuel level line (.field value conversion spec :: read) more
          | _ => .error none
      | rest => .ok (read.reverse, rest)

/-- The value of a run of string literals on given lines. -/
def joinStrings (parse : Parser Expr) (line : Nat) (run : List (Nat × StringToken)) : Except StringFault Expr :=
  match run with
  | [] => .error none
  | (_, first) :: _ =>
    if run.all (·.2.isBytes) then do
      let parts ← run.mapM fun (_, t) =>
        match unescapeBytes t.isRaw (t.body.length + 1) t.body with
        | some bytes => .ok bytes
        | none => .error none
      .ok (.constant line (.bytes parts.flatten))
    else if run.any (·.2.isBytes) then .error none
    else do
      let pieces ← run.foldlM (fun read (line, t) =>
        if t.isFormat then do
          let (pieces, rest) ← formatPieces parse t.isRaw (t.body.length + 2) 0 line [] t.body
          if rest.isEmpty then
            .ok (pieces.foldl (fun read piece => match piece with
              | .text s => appendText s.toList read
              | piece => piece :: read) read)
          else .error none
        else do
          .ok (appendText (← decodeLiteral t.isRaw t.body) read)) ([] : List Piece)
      if run.any (·.2.isFormat) then .ok (.format line pieces.reverse)
      else
        let text := match pieces with
          | [.text s] => s
          | _ => ""
        .ok (.constant line (.text text first.isUnicode))

end NavFactory.Source
