import NavFactory.Document.Scalar

/-!
# Lexer of documents

Cuts a document into tokens.  A text in front of a colon is a key, which shows only when the colon is read, so that
the token for a key is put in afterwards; the same holds for the start of a block that a key begins.
-/

namespace NavFactory.Document

/-- A place where a key may have started. -/
structure SimpleKey where
  /-- How many tokens came before it. -/
  tokens : Nat
  /-- Whether there must be a key here, because the text stands at the indent of its block. -/
  required : Bool
  index : Nat
  line : Nat
  column : Nat

/-- What the lexer knows between two tokens. -/
structure Lexer where
  cursor : Cursor
  /-- The indent of the current block, less than none outside of all blocks. -/
  indent : Int := -1
  /-- The indents of the blocks around. -/
  indents : List Int := []
  /-- How many brackets are open. -/
  flowLevel : Nat := 0
  allowKey : Bool := true
  /-- Places where a key may have started, by the number of brackets around them. -/
  keys : List (Nat × SimpleKey) := []
  /-- The tokens read, the last first. -/
  tokens : List Token := []

namespace Lexer

/-- Adds a token. -/
def push (l : Lexer) (t : Token) : Lexer := { l with tokens := t :: l.tokens }

/-- Puts a token behind the first `n`. -/
def insertToken (l : Lexer) (n : Nat) (t : Token) : Lexer :=
  let later := l.tokens.length - n
  { l with tokens := l.tokens.take later ++ t :: l.tokens.drop later }

/-- The column as it is compared with indents. -/
def column (l : Lexer) : Int := l.cursor.column

def inFlow (l : Lexer) : Bool := l.flowLevel != 0

/-! ### Keys -/

/-- How far a key may be from its colon. -/
def maxKeyLength : Nat := 1024

/-- Gives up the places whose line has ended or that are too far away. -/
def dropStaleKeys (l : Lexer) : Except DocumentFault Lexer :=
  let isStale (k : SimpleKey) : Bool := k.line != l.cursor.line || maxKeyLength < l.cursor.index - k.index
  if l.keys.any fun (_, k) => isStale k && k.required then .error .malformed
  else .ok { l with keys := l.keys.filter fun (_, k) => !isStale k }

/-- Gives up the place for a key inside the current brackets. -/
def removeKey (l : Lexer) : Except DocumentFault Lexer :=
  match l.keys.lookup l.flowLevel with
  | some k => if k.required then .error .malformed else .ok { l with keys := l.keys.filter (·.1 != l.flowLevel) }
  | none => .ok l

/-- Notes that a key may start here. -/
def saveKey (l : Lexer) : Except DocumentFault Lexer :=
  if l.allowKey then do
    let l ← l.removeKey
    let key : SimpleKey :=
      ⟨l.tokens.length, !l.inFlow && l.indent == l.column, l.cursor.index, l.cursor.line, l.cursor.column⟩
    .ok { l with keys := (l.flowLevel, key) :: l.keys }
  else .ok l

/-! ### Indents -/

/-- Ends the blocks that are indented more than a column; `indents` are those around the current one. -/
def endBlocks (column : Int) (indent : Int) (tokens : List Token) : List Int → Int × List Int × List Token
  | [] => (indent, [], tokens)
  | outer :: indents =>
    if column < indent then endBlocks column outer (.blockEnd :: tokens) indents else (indent, outer :: indents, tokens)

/-- Ends the blocks that are indented more than a column, unless brackets are open. -/
def unwind (l : Lexer) (column : Int) : Lexer :=
  if l.inFlow then l
  else
    let (indent, indents, tokens) := endBlocks column l.indent l.tokens l.indents
    { l with indent, indents, tokens }

/-- Starts a block at a column, if it is indented more than the current one. -/
def addIndent (l : Lexer) (column : Int) : Bool × Lexer :=
  if l.indent < column then (true, { l with indents := l.indent :: l.indents, indent := column }) else (false, l)

/-! ### Blanks between tokens -/

/-- The place of the next token; a new line allows a key.  `fuel` bounds the number of lines. -/
def skipBlanks : Nat → Lexer → Lexer
  | 0, l => l
  | fuel + 1, l =>
    match l.cursor.skipSpaces.skipComment.takeBreak with
    | (some _, c) => skipBlanks fuel { l with cursor := c, allowKey := l.allowKey || !l.inFlow }
    | (none, c) => { l with cursor := c }

/-- The place of the first token, behind a mark of the byte order. -/
def skipByteOrder (l : Lexer) : Lexer :=
  if l.cursor.index == 0 && l.cursor.peek == some '\uFEFF' then { l with cursor := l.cursor.advance 1 } else l

/-! ### Tokens -/

/-- Reads a token that may be the start of a key. -/
def readContent (l : Lexer) (t : Token) (c : Cursor) (allowKey : Bool := false) : Except DocumentFault Lexer := do
  let l ← l.saveKey
  .ok ({ l with allowKey, cursor := c }.push t)

/-- Reads the mark of a document, at which all blocks end. -/
def readDocumentMark (l : Lexer) (t : Token) (c : Cursor) : Except DocumentFault Lexer := do
  let l ← (l.unwind (-1)).removeKey
  .ok ({ l with allowKey := false, cursor := c }.push t)

/-- Reads an opening bracket. -/
def readFlowStart (l : Lexer) (t : Token) : Except DocumentFault Lexer := do
  let l ← l.saveKey
  .ok ({ l with flowLevel := l.flowLevel + 1, allowKey := true, cursor := l.cursor.advance 1 }.push t)

/-- Reads a closing bracket. -/
def readFlowEnd (l : Lexer) (t : Token) : Except DocumentFault Lexer := do
  let l ← l.removeKey
  .ok ({ l with flowLevel := l.flowLevel - 1, allowKey := false, cursor := l.cursor.advance 1 }.push t)

/-- Reads a comma. -/
def readFlowEntry (l : Lexer) : Except DocumentFault Lexer := do
  let l ← l.removeKey
  .ok ({ l with allowKey := true, cursor := l.cursor.advance 1 }.push .flowEntry)

/-- Starts a block for an indicator at the current column if there is none; indicators that need one stand where a
key could. -/
def startBlock (l : Lexer) (t : Token) : Except DocumentFault Lexer :=
  if l.inFlow then .ok l
  else if !l.allowKey then .error .malformed
  else match l.addIndent l.column with
    | (true, l) => .ok (l.push t)
    | (false, l) => .ok l

/-- Reads the dash of a sequence. -/
def readBlockEntry (l : Lexer) : Except DocumentFault Lexer := do
  let l ← l.startBlock .blockSequenceStart
  let l ← { l with allowKey := true }.removeKey
  .ok ({ l with cursor := l.cursor.advance 1 }.push .blockEntry)

/-- Reads the question mark of a key. -/
def readKey (l : Lexer) : Except DocumentFault Lexer := do
  let l ← l.startBlock .blockMappingStart
  let l ← { l with allowKey := !l.inFlow }.removeKey
  .ok ({ l with cursor := l.cursor.advance 1 }.push .key)

/-- Reads the colon of a value; if it ends a key, the tokens for the key are put in front of it. -/
def readValue (l : Lexer) : Except DocumentFault Lexer := do
  let l ←
    match l.keys.lookup l.flowLevel with
    | some key =>
      let l := { l with keys := l.keys.filter (·.1 != l.flowLevel), allowKey := false }.insertToken key.tokens .key
      if l.inFlow then .ok l
      else match l.addIndent key.column with
        | (true, l) => .ok (l.insertToken key.tokens .blockMappingStart)
        | (false, l) => .ok l
    | none => do
      let l ← l.startBlock .blockMappingStart
      { l with allowKey := !l.inFlow }.removeKey
  .ok ({ l with cursor := l.cursor.advance 1 }.push .value)

/-- Reads a block scalar. -/
def readBlockScalar (l : Lexer) (folded : Bool) : Except DocumentFault Lexer := do
  let l ← { l with allowKey := true }.removeKey
  let (t, c) ← takeBlockScalar folded l.indent l.cursor
  .ok ({ l with cursor := c }.push t)

/-- Whether a plain scalar starts with a character, given the one behind it. -/
def startsPlain (l : Lexer) (ch : Char) (next : Option Char) : Bool :=
  !(endsIndicator (some ch) || "-?:,[]\x7b\x7d#&*!|>'\"%@`".toList.contains ch) ||
    (!endsIndicator next && (ch == '-' || (!l.inFlow && (ch == '?' || ch == ':'))))

/-- Reads what starts with a character. -/
def readToken (l : Lexer) (ch : Char) : Except DocumentFault Lexer :=
  let c := l.cursor
  let next := c.peek 1
  if ch == '%' && c.column == 0 then do
    let l ← (l.unwind (-1)).removeKey
    let (t, c) ← takeDirective c
    .ok ({ l with allowKey := false, cursor := c }.push t)
  else if c.column == 0 && c.atSeparator then
    l.readDocumentMark (if ch == '-' then .documentStart else .documentEnd) (c.advance 3)
  else if ch == '[' then l.readFlowStart .flowSequenceStart
  else if ch == '{' then l.readFlowStart .flowMappingStart
  else if ch == ']' then l.readFlowEnd .flowSequenceEnd
  else if ch == '\x7d' then l.readFlowEnd .flowMappingEnd
  else if ch == ',' then l.readFlowEntry
  else if ch == '-' && endsIndicator next then l.readBlockEntry
  else if ch == '?' && (l.inFlow || endsIndicator next) then l.readKey
  else if ch == ':' && (l.inFlow || endsIndicator next) then l.readValue
  else if ch == '*' then do
    let (name, c) ← takeAnchorName c
    l.readContent (.alias name) c
  else if ch == '&' then do
    let (name, c) ← takeAnchorName c
    l.readContent (.anchor name) c
  else if ch == '!' then do
    let (t, c) ← takeTag c
    l.readContent t c
  else if ch == '|' && !l.inFlow then l.readBlockScalar false
  else if ch == '>' && !l.inFlow then l.readBlockScalar true
  else if ch == '\'' || ch == '"' then do
    let (t, c) ← takeQuotedScalar (ch == '"') c
    l.readContent t c
  else if l.startsPlain ch next then
    let (t, crossed, c) := takePlainScalar l.inFlow l.indent c
    l.readContent t c crossed
  else .error .malformed

/-- Reads the end of the document, at which all blocks end. -/
def readEnd (l : Lexer) : Except DocumentFault Lexer := do
  let l ← (l.unwind (-1)).removeKey
  .ok (l.push .streamEnd)

/-- The tokens read, up to a fault. -/
def endWith (l : Lexer) (f : DocumentFault) : List Token := (Token.fault f :: l.tokens).reverse

/-- The tokens from a place on; `fuel` bounds their number. -/
def tokensFrom : Nat → Lexer → List Token
  | 0, l => l.endWith .malformed
  | fuel + 1, l =>
    let l := skipBlanks (l.cursor.rest.length + 1) l.skipByteOrder
    match l.dropStaleKeys with
    | .error f => l.endWith f
    | .ok l =>
      let l := l.unwind l.column
      match l.cursor.rest with
      | [] => match l.readEnd with
        | .ok l => l.tokens.reverse
        | .error f => l.endWith f
      | ch :: _ => match l.readToken ch with
        | .ok l => tokensFrom fuel l
        | .error f => l.endWith f

end Lexer

/-- The tokens of a document, whose newlines are line feeds. -/
def tokensOf (text : String) : List Token :=
  if text.toList.all isDocumentChar then Lexer.tokensFrom (text.length + 1) ⟨⟨text.toList, 0, 0, 0⟩, -1, [], 0, true, [], []⟩
  else [.fault .malformed]

end NavFactory.Document
