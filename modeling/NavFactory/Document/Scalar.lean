import NavFactory.Document.Cursor
import NavFactory.Text.Utf8

/-!
# Scalars, tags and directives of documents

The texts of scalars in their five styles: plain, in single or double quotes, literal and folded.
-/

namespace NavFactory.Document

/-! ### Names and tags -/

/-- A name behind the mark of an anchor or alias. -/
def takeAnchorName (c : Cursor) : Except DocumentFault (String × Cursor) :=
  let (name, c) := (c.advance 1).takeWhile isNameChar
  let ended := match c.peek with
    | none => true
    | some ch => endsIndicator (some ch) || "?:,]\x7d%@`".toList.contains ch
  if name.isEmpty || !ended then .error .malformed else .ok (String.ofList name, c)

/-- The bytes of escapes with percent signs. -/
def takeEscapedBytes : List Char → Except DocumentFault (List UInt8 × List Char)
  | '%' :: a :: b :: rest =>
    match hexDigit? a, hexDigit? b with
    | some h, some l => do
      let (bytes, rest) ← takeEscapedBytes rest
      .ok (UInt8.ofNat (h * 16 + l) :: bytes, rest)
    | _, _ => .error .malformed
  | '%' :: _ => .error .malformed
  | rest => .ok ([], rest)

/-- The text of a tag, up to the first character that cannot stand in one; `fuel` bounds its length. -/
def takeTagChars : Nat → List Char → Except DocumentFault (List Char × List Char)
  | 0, rest => .ok ([], rest)
  | fuel + 1, '%' :: rest => do
    let (bytes, rest) ← takeEscapedBytes ('%' :: rest)
    match Text.decode bytes with
    | .ok text => do
      let (more, rest) ← takeTagChars fuel rest
      .ok (text.toList ++ more, rest)
    | .error _ => .error .malformed
  | fuel + 1, ch :: rest =>
    if isTagChar ch then do
      let (more, rest) ← takeTagChars fuel rest
      .ok (ch :: more, rest)
    else .ok ([], ch :: rest)
  | _ + 1, [] => .ok ([], [])

/-- A tag without its handle. -/
def takeTagText (c : Cursor) : Except DocumentFault (String × Cursor) := do
  let (text, rest) ← takeTagChars c.rest.length c.rest
  if text.isEmpty then .error .malformed
  else .ok (String.ofList text, c.advance (c.rest.length - rest.length))

/-- A handle of tags: an exclamation mark, or a name between two of them. -/
def takeTagHandle (c : Cursor) : Except DocumentFault (String × Cursor) :=
  if c.peek != some '!' then .error .malformed
  else if c.peek 1 == some ' ' then .ok ("!", c.advance 1)
  else
    let (name, after) := (c.advance 1).takeWhile isNameChar
    if after.peek == some '!' then .ok ("!" ++ String.ofList name ++ "!", after.advance 1) else .error .malformed

/-- A tag with its mark. -/
def takeTag (c : Cursor) : Except DocumentFault (Token × Cursor) := do
  let (token, c) ←
    if c.peek 1 == some '<' then do
      let (text, c) ← takeTagText (c.advance 2)
      if c.peek == some '>' then .ok (Token.tag none text, c.advance 1) else .error .malformed
    else if endsIndicator (c.peek 1) then .ok (Token.tag none "!", c.advance 1)
    else if ((c.advance 1).rest.takeWhile fun ch => !endsWord (some ch)).contains '!' then do
      let (handle, c) ← takeTagHandle c
      let (text, c) ← takeTagText c
      .ok (Token.tag (some handle) text, c)
    else do
      let (text, c) ← takeTagText (c.advance 1)
      .ok (Token.tag (some "!") text, c)
  if endsWord c.peek then .ok (token, c) else .error .malformed

/-! ### Directives -/

/-- The digits of a version. -/
def takeVersionNumber (c : Cursor) : Except DocumentFault (Nat × Cursor) :=
  let (digits, c) := c.takeWhile Char.isDigit
  if digits.isEmpty then .error .malformed
  else .ok (digits.foldl (fun n d => n * 10 + (d.toNat - 48)) 0, c)

/-- What a directive says behind its name. -/
def takeDirectiveValue (name : String) (c : Cursor) : Except DocumentFault (Directive × Cursor) :=
  if name == "YAML" then do
    let (major, c) ← takeVersionNumber c.skipSpaces
    if c.peek != some '.' then .error .malformed
    else do
      let (_, c) ← takeVersionNumber (c.advance 1)
      if endsWord c.peek then .ok (.version major, c) else .error .malformed
  else if name == "TAG" then do
    let (handle, c) ← takeTagHandle c.skipSpaces
    if c.peek != some ' ' then .error .malformed
    else do
      let (replacement, c) ← takeTagText c.skipSpaces
      if endsWord c.peek then .ok (.tagHandle handle replacement, c) else .error .malformed
  else .ok (.other, c.skipWhile (!isBreak ·))

/-- The rest of a line that holds at most a comment, with its break. -/
def takeLineEnd (c : Cursor) : Except DocumentFault Cursor :=
  let c := c.skipSpaces.skipComment
  if endsLine c.peek then .ok c.takeBreak.2 else .error .malformed

/-- A directive with its mark. -/
def takeDirective (c : Cursor) : Except DocumentFault (Token × Cursor) := do
  let (name, c) := (c.advance 1).takeWhile isNameChar
  if name.isEmpty || !endsWord c.peek then .error .malformed
  else do
    let (directive, c) ← takeDirectiveValue (String.ofList name) c
    .ok (.directive directive, ← takeLineEnd c)

/-! ### Block scalars -/

/-- What a block scalar does with the breaks at its end. -/
inductive Chomping
  | clip
  | strip
  | keep
deriving DecidableEq

/-- The breaks and leading spaces of lines in front of the first one with text, and the widest of their indents;
`fuel` bounds the number of characters. -/
def takeLeadingBreaks : Nat → Cursor → List Char × Nat × Cursor
  | 0, c => ([], 0, c)
  | fuel + 1, c =>
    match c.takeBreak with
    | (some b, c) =>
      let (breaks, width, c) := takeLeadingBreaks fuel c
      (b :: breaks, width, c)
    | (none, c) =>
      if c.peek == some ' ' then
        let c := c.advance 1
        let (breaks, width, after) := takeLeadingBreaks fuel c
        (breaks, max width c.column, after)
      else ([], 0, c)

/-- The place behind spaces, but not further than a column. -/
def skipIndent (c : Cursor) (indent : Nat) : Cursor :=
  c.advance ((c.rest.take (indent - c.column)).takeWhile (· == ' ')).length

/-- The breaks of empty lines under an indent; `fuel` bounds their number. -/
def takeIndentedBreaks (indent : Nat) : Nat → Cursor → List Char × Cursor
  | 0, c => ([], c)
  | fuel + 1, c =>
    match (skipIndent c indent).takeBreak with
    | (some b, c) =>
      let (breaks, c) := takeIndentedBreaks indent fuel c
      (b :: breaks, c)
    | (none, c) => ([], c)

/-- The lines of a block scalar.  `breaks` are those of the empty lines in front; the text is returned with the last
line's break and the breaks of the empty lines behind it.  `fuel` bounds the number of lines. -/
def takeBlockLines (folded : Bool) (indent : Nat) :
    Nat → List Char → Cursor → List Char × List Char × List Char × Cursor
  | 0, breaks, c => ([], [], breaks, c)
  | fuel + 1, breaks, c =>
    if c.column != indent || c.rest.isEmpty then ([], [], breaks, c)
    else
      let startsBlank := c.peek == some ' ' || c.peek == some '\t'
      let (line, c) := c.takeWhile (!isBreak ·)
      let (lineBreak, c) := c.takeBreak
      let (more, c) := takeIndentedBreaks indent c.rest.length c
      if c.column == indent && !c.rest.isEmpty then
        let nextBlank := c.peek == some ' ' || c.peek == some '\t'
        let joint :=
          if folded && lineBreak == some '\n' && !startsBlank && !nextBlank then
            if more.isEmpty then [' '] else []
          else lineBreak.toList
        let (text, lastBreak, last, c) := takeBlockLines folded indent fuel more c
        (breaks ++ line ++ joint ++ text, lastBreak, last, c)
      else (breaks ++ line, lineBreak.toList, more, c)

/-- The signs behind the mark of a block scalar: what happens to its last breaks, and its indent if that is given. -/
def takeBlockSigns (c : Cursor) : Except DocumentFault (Chomping × Option Nat × Cursor) :=
  let chomping (c : Cursor) : Option (Chomping × Cursor) :=
    match c.peek with
    | some '+' => some (.keep, c.advance 1)
    | some '-' => some (.strip, c.advance 1)
    | _ => none
  let width (c : Cursor) : Option (Nat × Cursor) :=
    match c.peek with
    | some d => if d.isDigit then some (d.toNat - 48, c.advance 1) else none
    | none => none
  let (chomp, increment, c) : Chomping × Option Nat × Cursor :=
    match chomping c with
    | some (chomp, c) => match width c with
      | some (n, c) => (chomp, some n, c)
      | none => (chomp, none, c)
    | none => match width c with
      | some (n, c) => match chomping c with
        | some (chomp, c) => (chomp, some n, c)
        | none => (.clip, some n, c)
      | none => (.clip, none, c)
  if increment == some 0 || !endsWord c.peek then .error .malformed else .ok (chomp, increment, c)

/-- A block scalar under a parent with a given indent. -/
def takeBlockScalar (folded : Bool) (parent : Int) (c : Cursor) : Except DocumentFault (Token × Cursor) := do
  let (chomp, increment, c) ← takeBlockSigns (c.advance 1)
  let c ← takeLineEnd c
  let least := max 1 (parent + 1).toNat
  let (breaks, indent, c) : List Char × Nat × Cursor :=
    match increment with
    | none =>
      let (breaks, width, c) := takeLeadingBreaks c.rest.length c
      (breaks, max least width, c)
    | some n =>
      let indent := least + n - 1
      let (breaks, c) := takeIndentedBreaks indent c.rest.length c
      (breaks, indent, c)
  let (text, lastBreak, last, c) := takeBlockLines folded indent (c.rest.length + 1) breaks c
  let ending := match chomp with
    | .strip => []
    | .clip => lastBreak
    | .keep => lastBreak ++ last
  .ok (.scalar (String.ofList (text ++ ending)) false, c)

/-! ### Quoted scalars -/

/-- The breaks of empty lines between the lines of a quoted scalar; `fuel` bounds their number. -/
def takeQuotedBreaks : Nat → Cursor → Except DocumentFault (List Char × Cursor)
  | 0, c => .ok ([], c)
  | fuel + 1, c =>
    if c.atSeparator then .error .malformed
    else
      match (c.skipWhile fun ch => ch == ' ' || ch == '\t').takeBreak with
      | (some b, c) => do
        let (breaks, c) ← takeQuotedBreaks fuel c
        .ok (b :: breaks, c)
      | (none, c) => .ok ([], c)

/-- A line break inside a scalar as part of its text: a single one becomes a space. -/
def foldBreaks (lineBreak : Char) (breaks : List Char) : List Char :=
  if lineBreak != '\n' then lineBreak :: breaks else if breaks.isEmpty then [' '] else breaks

/-- What a letter behind a backslash stands for. -/
def escapedChar (c : Char) : Option Char :=
  match c with
  | '0' => some '\x00'
  | 'a' => some '\x07'
  | 'b' => some '\x08'
  | 't' => some '\t'
  | '\t' => some '\t'
  | 'n' => some '\n'
  | 'v' => some '\x0b'
  | 'f' => some '\x0c'
  | 'r' => some '\r'
  | 'e' => some '\x1b'
  | ' ' => some ' '
  | '"' => some '"'
  | '\\' => some '\\'
  | '/' => some '/'
  | 'N' => some '\u0085'
  | '_' => some '\u00a0'
  | 'L' => some '\u2028'
  | 'P' => some '\u2029'
  | _ => none

/-- How many hexadecimal digits follow a letter behind a backslash. -/
def escapeLength (c : Char) : Option Nat :=
  match c with
  | 'x' => some 2
  | 'u' => some 4
  | 'U' => some 8
  | _ => none

/-- The character of a code point; one that stands for no character becomes the replacement character. -/
def codeChar (n : Nat) : Except DocumentFault Char :=
  if 0x7FFFFFFF < n then .error .hugeCodePoint
  else if 0x10FFFF < n then .error .codePoint
  else if 0xD800 ≤ n && n ≤ 0xDFFF then .ok '\uFFFD'
  else .ok (Char.ofNat n)

/-- An escape behind its backslash. -/
def takeEscape (c : Cursor) : Except DocumentFault (List Char × Cursor) :=
  match c.peek with
  | none => .error .malformed
  | some ch =>
    match escapedChar ch, escapeLength ch with
    | some d, _ => .ok ([d], c.advance 1)
    | none, some length =>
      let digits := (c.rest.drop 1).take length
      if digits.length < length then .error .malformed
      else
        match hexNumber? digits with
        | some n => (codeChar n).map fun d => ([d], c.advance (length + 1))
        | none => .error .malformed
    | none, none =>
      match c.takeBreak with
      | (some _, c) => takeQuotedBreaks (c.rest.length + 1) c
      | (none, _) => .error .malformed

/-- The rest of a quoted scalar, with its closing quote; `fuel` bounds the number of characters. -/
def takeQuotedRest (double : Bool) : Nat → Cursor → Except DocumentFault (List Char × Cursor)
  | 0, _ => .error .malformed
  | fuel + 1, c =>
    match c.rest with
    | [] => .error .malformed
    | '\'' :: rest =>
      if double then (takeQuotedRest double fuel (c.advance 1)).map fun (text, c) => ('\'' :: text, c)
      else if rest.head? == some '\'' then
        (takeQuotedRest double fuel (c.advance 2)).map fun (text, c) => ('\'' :: text, c)
      else .ok ([], c.advance 1)
    | '"' :: _ =>
      if double then .ok ([], c.advance 1)
      else (takeQuotedRest double fuel (c.advance 1)).map fun (text, c) => ('"' :: text, c)
    | '\\' :: _ =>
      if double then do
        let (text, c) ← takeEscape (c.advance 1)
        let (more, c) ← takeQuotedRest double fuel c
        .ok (text ++ more, c)
      else (takeQuotedRest double fuel (c.advance 1)).map fun (text, c) => ('\\' :: text, c)
    | ch :: _ =>
      if ch == ' ' || ch == '\t' || isBreak ch then do
        let (blanks, c) := c.takeWhile fun ch => ch == ' ' || ch == '\t'
        match c.takeBreak with
        | (some b, c) => do
          let (breaks, c) ← takeQuotedBreaks (c.rest.length + 1) c
          let (more, c) ← takeQuotedRest double fuel c
          .ok (foldBreaks b breaks ++ more, c)
        | (none, c) => do
          let (more, c) ← takeQuotedRest double fuel c
          .ok (blanks ++ more, c)
      else (takeQuotedRest double fuel (c.advance 1)).map fun (text, c) => (ch :: text, c)

/-- A scalar in quotes. -/
def takeQuotedScalar (double : Bool) (c : Cursor) : Except DocumentFault (Token × Cursor) := do
  let (text, c) ← takeQuotedRest double (c.rest.length + 1) (c.advance 1)
  .ok (.scalar (String.ofList text) false, c)

/-! ### Plain scalars -/

/-- Whether a plain scalar ends in front of a character and what follows it. -/
def endsPlain (inFlow : Bool) (ch : Char) (next : Option Char) : Bool :=
  endsIndicator (some ch) ||
    (ch == ':' && (endsIndicator next || (inFlow && (next.map fun d => ",[]\x7b\x7d".toList.contains d).getD false))) ||
    (inFlow && ",?[]\x7b\x7d".toList.contains ch)

/-- The part of a plain scalar on one line, up to the first blank. -/
def plainRun (inFlow : Bool) : List Char → List Char
  | [] => []
  | ch :: rest => if endsPlain inFlow ch rest.head? then [] else ch :: plainRun inFlow rest

/-- The breaks and spaces in front of the next line of a plain scalar; `none` if the document ends there.  `fuel`
bounds the number of characters. -/
def takePlainBreaks : Nat → Cursor → Option (List Char) × Cursor
  | 0, c => (some [], c)
  | fuel + 1, c =>
    if c.peek == some ' ' then takePlainBreaks fuel (c.advance 1)
    else
      match c.takeBreak with
      | (some b, c) =>
        if c.atSeparator then (none, c)
        else
          let (breaks, c) := takePlainBreaks fuel c
          (breaks.map (b :: ·), c)
      | (none, c) => (some [], c)

/-- The blanks behind a part of a plain scalar: their text, whether they cross a line, and what follows. -/
def takePlainSpaces (c : Cursor) : List Char × Bool × Cursor :=
  let (spaces, c) := c.takeWhile (· == ' ')
  match c.takeBreak with
  | (some b, c) =>
    if c.atSeparator then ([], true, c)
    else
      match takePlainBreaks (c.rest.length + 1) c with
      | (some breaks, c) => (foldBreaks b breaks, true, c)
      | (none, c) => ([], true, c)
  | (none, c) => (spaces, false, c)

/-- The rest of a plain scalar behind blanks, and whether it crosses a line; `fuel` bounds the number of parts. -/
def takePlainRest (inFlow : Bool) (indent : Int) :
    Nat → List Char → Bool → Cursor → List Char × Bool × Cursor
  | 0, _, crossed, c => ([], crossed, c)
  | fuel + 1, spaces, crossed, c =>
    if c.peek == some '#' then ([], crossed, c)
    else
      let run := plainRun inFlow c.rest
      if run.isEmpty then ([], crossed, c)
      else
        let (next, nextCrossed, c) := takePlainSpaces (c.advance run.length)
        if next.isEmpty || c.peek == some '#' || (!inFlow && (c.column : Int) < indent) then
          (spaces ++ run, nextCrossed, c)
        else
          let (more, crossed, c) := takePlainRest inFlow indent fuel next nextCrossed c
          (spaces ++ run ++ more, crossed, c)

/-- A plain scalar under a parent with a given indent, and whether a line was crossed at its end. -/
def takePlainScalar (inFlow : Bool) (parent : Int) (c : Cursor) : Token × Bool × Cursor :=
  let (text, crossed, c) := takePlainRest inFlow (parent + 1) (c.rest.length + 1) [] false c
  (.scalar (String.ofList text) true, crossed, c)

end NavFactory.Document
