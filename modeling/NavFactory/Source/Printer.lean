import NavFactory.Source.Tree
import NavFactory.Value

/-!
# Printing expressions

An expression as messages show it: in one line, with parentheses only where an operator binds too loosely for its
place, and with blanks in fixed places.  The text of a field of a formatted string must not hold a backslash; if
that cannot be avoided the expression has no text.
-/

namespace NavFactory.Source

open Number (Double)

/-- Why an expression has no text. -/
inductive PrintFault
  | backslash
  | digits
deriving DecidableEq

def PrintFault.message : PrintFault → String
  | backslash => "Unable to avoid backslash in f-string expression part"
  | digits => Value.DigitLimit.exceeded.message

/-- How tightly the parts of an expression are bound, from assignments to atoms. -/
abbrev Binding := Nat

namespace Binding

def named : Binding := 1
def tuple : Binding := 2
def yielding : Binding := 3
def test : Binding := 4
def disjunction : Binding := 5
def conjunction : Binding := 6
def negation : Binding := 7
def comparison : Binding := 8
def operand : Binding := 9
def factor : Binding := 15
def power : Binding := 16
def await : Binding := 17
def atom : Binding := 18

/-- The next tighter binding. -/
def tighter (b : Binding) : Binding := if b < atom then b + 1 else b

end Binding

def UnaryOperator.text : UnaryOperator → String
  | plus => "+"
  | minus => "-"
  | invert => "~"
  | negate => "not "

def UnaryOperator.binding : UnaryOperator → Binding
  | negate => Binding.negation
  | _ => Binding.factor

def BinaryOperator.text : BinaryOperator → String
  | add => "+"
  | sub => "-"
  | mult => "*"
  | matMult => "@"
  | div => "/"
  | mod => "%"
  | pow => "**"
  | leftShift => "<<"
  | rightShift => ">>"
  | bitOr => "|"
  | bitXor => "^"
  | bitAnd => "&"
  | floorDiv => "//"

def BinaryOperator.binding : BinaryOperator → Binding
  | bitOr => 9
  | bitXor => 10
  | bitAnd => 11
  | leftShift => 12
  | rightShift => 12
  | add => 13
  | sub => 13
  | mult => 14
  | matMult => 14
  | div => 14
  | mod => 14
  | floorDiv => 14
  | pow => Binding.power

def Comparison.text : Comparison → String
  | equal => "=="
  | notEqual => "!="
  | less => "<"
  | lessEqual => "<="
  | greater => ">"
  | greaterEqual => ">="
  | is => "is"
  | isNot => "is not"
  | isIn => "in"
  | notIn => "not in"

def Conversion.letter : Conversion → String
  | str => "s"
  | repr => "r"
  | ascii => "a"

/-! ### Quotes that need no escapes -/

/-- A kind of quotes. -/
abbrev Quotes := List Char

def allQuotes : List Quotes := [['\''], ['"'], ['"', '"', '"'], ['\'', '\'', '\'']]

/-- Whether characters contain others in a row. -/
def containsChars (part : List Char) : List Char → Bool
  | [] => part.isEmpty
  | c :: rest => part.isPrefixOf (c :: rest) || containsChars part rest

/-- A character of a text whose line breaks and tabs may stay. -/
def escapeSparingly (escapeBreaks : Bool) (c : Char) : List Char :=
  if !escapeBreaks && (c == '\n' || c == '\t') then [c]
  else if c == '\\' then ['\\', '\\']
  else if c == '\n' then ['\\', 'n']
  else if c == '\t' then ['\\', 't']
  else if c == '\r' then ['\\', 'r']
  else if Text.isPrintable c then [c]
  else Text.escapeCode c.toNat

/-- The first quotes that do not start with the character at the end of the text, if there are any. -/
def preferOther (last : Char) (quotes : List Quotes) : List Quotes :=
  quotes.filter (·.head? != some last) ++ quotes.filter (·.head? == some last)

/-- A text with as few escapes as may be, and the quotes that can stand around it. -/
def spareEscapes (quotes : List Quotes) (escapeBreaks : Bool) (cs : List Char) : List Char × List Quotes :=
  let escaped := cs.flatMap (escapeSparingly escapeBreaks)
  let possible := if escaped.contains '\n' then quotes.filter (·.length == 3) else quotes
  match possible.filter fun q => !containsChars q escaped with
  | [] =>
    let quoted := Text.quoteChars cs
    let mark := Text.chooseQuote cs
    (quoted.tail.dropLast, [(quotes.find? (·.contains mark)).getD [mark]])
  | possible =>
    match escaped.getLast? with
    | none => (escaped, possible)
    | some last =>
      let possible := preferOther last possible
      if (possible.headD []).head? == some last then (escaped.dropLast ++ ['\\', last], possible)
      else (escaped, possible)

/-- A text in quotes, with as few escapes as may be. -/
def quoteSparingly (cs : List Char) : String :=
  let (text, quotes) := spareEscapes allQuotes false cs
  let quote := quotes.headD []
  String.ofList (quote ++ text ++ quote)

/-- The parts of a formatted string put together: `true` marks a literal part.  The result is `none` if no quotes
suit all parts. -/
def joinParts (quotes : List Quotes) : List (String × Bool) → Option (List Char × List Quotes)
  | [] => some ([], quotes)
  | (part, isLiteral) :: rest =>
    let (text, possible) := spareEscapes quotes isLiteral part.toList
    if possible.any quotes.contains then
      (joinParts possible rest).map fun (more, quotes) => (text ++ more, quotes)
    else none

/-- A part of a formatted string between three single quotes, with all escapes. -/
def escapePart (part : String) : List Char :=
  (part.toList.flatMap (Text.quoteChar '\''))

/-- A formatted string from its parts. -/
def quoteParts (parts : List (String × Bool)) : String :=
  match joinParts allQuotes parts with
  | some (text, quotes) =>
    let quote := quotes.headD []
    String.ofList (quote ++ text ++ quote)
  | none =>
    let quote : Quotes := ['\'', '\'', '\'']
    String.ofList (quote ++ parts.flatMap (fun part => escapePart part.1) ++ quote)

/-- The braces of a literal part, doubled. -/
def doubleBraces (s : String) : String :=
  String.ofList (s.toList.flatMap fun c => if c == '{' || c == '\x7d' then [c, c] else [c])

/-! ### Expressions -/

/-- A number that overflows is written with an exponent that overflows again. -/
def shownReal (format : Double.Format) (x : Double) : String :=
  if x.isInfinite then (if x.isNegative then "-" else "") ++ "1e309" else Double.write format x

/-- A literal; `plain` tells that a text must do without backslashes if that is possible. -/
def printConstant (plain : Bool) : Constant → Except PrintFault String
  | .none => .ok "None"
  | .bool b => .ok (if b then "True" else "False")
  | .ellipsis => .ok "..."
  | .int n => match Value.shownInt n with
    | .ok s => .ok s
    | .error _ => .error .digits
  | .real x => .ok (shownReal Double.plain x)
  | .imaginary x => .ok (shownReal Double.complexPart x ++ "j")
  | .text s marked =>
    let text := if plain then quoteSparingly s.toList else Text.quote s
    .ok (if marked then "u" ++ text else text)
  | .bytes bs => .ok (Text.quoteBytes bs)

/-- Parentheses around a text, if they are needed. -/
def parenthesized (needed : Bool) (s : String) : String := if needed then "(" ++ s ++ ")" else s

/-- Items with commas; a single item has one behind it. -/
def commaItems : List String → String
  | [s] => s ++ ","
  | items => ", ".intercalate items

/-- Whether an expression is an integer, for which the dot of an attribute must stand apart. -/
def isIntegerLiteral : Expr → Bool
  | .constant _ (.int _) => true
  | .constant _ (.bool _) => true
  | _ => false

mutual

/-- The text of an expression in a place that binds its parts with a given strength. -/
def printExpr (plain : Bool) (place : Binding) : Expr → Except PrintFault String
  | .name _ id => .ok id
  | .constant _ c => printConstant plain c
  | .format _ pieces =>
    if plain then do
      let parts ← printPieces pieces
      .ok ("f" ++ quoteSparingly (String.join (parts.map (·.1))).toList)
    else do .ok ("f" ++ quoteParts (← printPieces pieces))
  | .attribute _ value id => do
    let text ← printExpr plain Binding.atom value
    .ok (text ++ (if isIntegerLiteral value then " ." else ".") ++ id)
  | .subscript _ value index => do
    let text ← printExpr plain Binding.atom value
    let inside ← match index with
      | .tuple _ (item :: items) => do .ok (commaItems (← printAll plain (item :: items)))
      | index => printExpr plain Binding.test index
    .ok (text ++ "[" ++ inside ++ "]")
  | .call _ function arguments keywords => do
    let text ← printExpr plain Binding.atom function
    let positional ← printAll plain arguments
    let named ← printKeywords plain keywords
    .ok (text ++ "(" ++ ", ".intercalate (positional ++ named) ++ ")")
  | .starred _ value => do .ok ("*" ++ (← printExpr plain Binding.operand value))
  | .unary _ op operand => do
    let text ← printExpr plain op.binding operand
    .ok (parenthesized (op.binding < place) (op.text ++ text))
  | .binary _ op left right => do
    let b := op.binding
    let isPower := op == .pow
    let l ← printExpr plain (if isPower then b.tighter else b) left
    let r ← printExpr plain (if isPower then b else b.tighter) right
    .ok (parenthesized (b < place) (l ++ " " ++ op.text ++ " " ++ r))
  | .conjunction _ operands => do
    let texts ← printTighter plain Binding.conjunction operands
    .ok (parenthesized (Binding.conjunction < place) (" and ".intercalate texts))
  | .disjunction _ operands => do
    let texts ← printTighter plain Binding.disjunction operands
    .ok (parenthesized (Binding.disjunction < place) (" or ".intercalate texts))
  | .compare _ left rest => do
    let l ← printExpr plain Binding.comparison.tighter left
    let more ← printComparisons plain rest
    .ok (parenthesized (Binding.comparison < place) (l ++ more))
  | .conditional _ test yes no => do
    let y ← printExpr plain Binding.test.tighter yes
    let t ← printExpr plain Binding.test.tighter test
    let n ← printExpr plain Binding.test no
    .ok (parenthesized (Binding.test < place) (y ++ " if " ++ t ++ " else " ++ n))
  | .lambda _ parameters body => do
    let ps ← printParameters plain parameters
    let b ← printExpr plain Binding.test body
    .ok (parenthesized (Binding.test < place) ("lambda" ++ (if ps.isEmpty then "" else " " ++ ps) ++ ": " ++ b))
  | .list _ items => do .ok ("[" ++ ", ".intercalate (← printAll plain items) ++ "]")
  | .tuple _ items => do
    .ok (parenthesized (items.isEmpty || Binding.tuple < place) (commaItems (← printAll plain items)))
  | .set _ items => do .ok ("\x7b" ++ ", ".intercalate (← printAll plain items) ++ "\x7d")
  | .dict _ entries => do .ok ("\x7b" ++ ", ".intercalate (← printEntries plain entries) ++ "\x7d")
  | .listOf _ item loops => do
    .ok ("[" ++ (← printExpr plain Binding.test item) ++ (← printClauses plain loops) ++ "]")
  | .setOf _ item loops => do
    .ok ("\x7b" ++ (← printExpr plain Binding.test item) ++ (← printClauses plain loops) ++ "\x7d")
  | .generator _ item loops => do
    .ok ("(" ++ (← printExpr plain Binding.test item) ++ (← printClauses plain loops) ++ ")")
  | .dictOf _ key value loops => do
    let k ← printExpr plain Binding.test key
    let v ← printExpr plain Binding.test value
    .ok ("\x7b" ++ k ++ ": " ++ v ++ (← printClauses plain loops) ++ "\x7d")
  | .slice _ lower upper step => do
    let l ← printOptional plain "" lower
    let u ← printOptional plain "" upper
    let s ← printOptional plain ":" step
    .ok (l ++ ":" ++ u ++ s)
  | .await _ value => do
    .ok (parenthesized (Binding.await < place) ("await " ++ (← printExpr plain Binding.atom value)))
  | .yield _ none => .ok (parenthesized (Binding.yielding < place) "yield")
  | .yield _ (some value) => do
    .ok (parenthesized (Binding.yielding < place) ("yield " ++ (← printExpr plain Binding.atom value)))
  | .yieldFrom _ value => do
    .ok (parenthesized (Binding.yielding < place) ("yield from " ++ (← printExpr plain Binding.atom value)))
  | .assigned _ id value => do
    .ok (parenthesized (Binding.named < place) (id ++ " := " ++ (← printExpr plain Binding.atom value)))

/-- The texts of several expressions. -/
def printAll (plain : Bool) : List Expr → Except PrintFault (List String)
  | [] => .ok []
  | e :: rest => do .ok ((← printExpr plain Binding.test e) :: (← printAll plain rest))

/-- The texts of operands, each of which binds tighter than the one before it. -/
def printTighter (plain : Bool) (b : Binding) : List Expr → Except PrintFault (List String)
  | [] => .ok []
  | e :: rest => do
    .ok ((← printExpr plain b.tighter e) :: (← printTighter plain b.tighter rest))

/-- The operators and operands of a comparison behind the first. -/
def printComparisons (plain : Bool) : List (Comparison × Expr) → Except PrintFault String
  | [] => .ok ""
  | (op, e) :: rest => do
    let text ← printExpr plain Binding.comparison.tighter e
    .ok (" " ++ op.text ++ " " ++ text ++ (← printComparisons plain rest))

/-- An expression behind a text, if there is one. -/
def printOptional (plain : Bool) (before : String) : Option Expr → Except PrintFault String
  | none => .ok ""
  | some e => do .ok (before ++ (← printExpr plain Binding.test e))

/-- The texts of named arguments. -/
def printKeywords (plain : Bool) : List (Option String × Expr) → Except PrintFault (List String)
  | [] => .ok []
  | (id, e) :: rest => do
    let text ← printExpr plain Binding.test e
    let named := match id with
      | none => "**" ++ text
      | some id => id ++ "=" ++ text
    .ok (named :: (← printKeywords plain rest))

/-- The texts of the entries of a dictionary. -/
def printEntries (plain : Bool) : List (Option Expr × Expr) → Except PrintFault (List String)
  | [] => .ok []
  | (none, e) :: rest => do
    .ok (("**" ++ (← printExpr plain Binding.operand e)) :: (← printEntries plain rest))
  | (some k, e) :: rest => do
    let key ← printExpr plain Binding.test k
    let value ← printExpr plain Binding.test e
    .ok ((key ++ ": " ++ value) :: (← printEntries plain rest))

/-- The text of one loop of a comprehension. -/
def printClause (plain : Bool) : Clause → Except PrintFault String
  | .mk isAsync target source conditions => do
    let t ← printExpr plain Binding.tuple target
    let s ← printExpr plain Binding.test.tighter source
    let c ← printConditions plain conditions
    .ok ((if isAsync then " async for " else " for ") ++ t ++ " in " ++ s ++ c)

/-- The conditions of a loop. -/
def printConditions (plain : Bool) : List Expr → Except PrintFault String
  | [] => .ok ""
  | e :: rest => do
    .ok (" if " ++ (← printExpr plain Binding.test.tighter e) ++ (← printConditions plain rest))

/-- The loops of a comprehension. -/
def printClauses (plain : Bool) : List Clause → Except PrintFault String
  | [] => .ok ""
  | c :: rest => do .ok ((← printClause plain c) ++ (← printClauses plain rest))

/-- A parameter with its default. -/
def printArgument (plain : Bool) : Argument → Except PrintFault String
  | .mk _ id _ default => do .ok (id ++ (← printOptional plain "=" default))

def printArguments (plain : Bool) : List Argument → Except PrintFault (List String)
  | [] => .ok []
  | a :: rest => do .ok ((← printArgument plain a) :: (← printArguments plain rest))

/-- The parameters of a function without a name. -/
def printParameters (plain : Bool) : Parameters → Except PrintFault String
  | .mk positionalOnly regular rest keywordOnly keywords => do
    let first ← printArguments plain positionalOnly
    let second ← printArguments plain regular
    let star := match rest with
      | some (.mk _ id _ _) => ["*" ++ id]
      | none => if keywordOnly.isEmpty then [] else ["*"]
    let named ← printArguments plain keywordOnly
    let double := match keywords with
      | some (.mk _ id _ _) => ["**" ++ id]
      | none => []
    .ok (", ".intercalate
      (first ++ (if first.isEmpty then [] else ["/"]) ++ second ++ star ++ named ++ double))

/-- A piece of a formatted string, before it is quoted as a whole. -/
def printPiece : Piece → Except PrintFault (String × Bool)
  | .text s => .ok (doubleBraces s, true)
  | .field value conversion spec => do
    let text ← printExpr true Binding.test.tighter value
    if text.contains '\\' then .error .backslash
    else
      let blank := if text.startsWith "\x7b" then " " else ""
      let shown := match conversion with
        | some c => "!" ++ c.letter
        | none => ""
      let form ← printSpec spec
      .ok ("\x7b" ++ blank ++ text ++ shown ++ form ++ "\x7d", false)

/-- The format of a field. -/
def printSpec : Option (List Piece) → Except PrintFault String
  | none => .ok ""
  | some pieces => do
    let parts ← printPieces pieces
    .ok (":" ++ String.join (parts.map (·.1)))

/-- The pieces of a formatted string. -/
def printPieces : List Piece → Except PrintFault (List (String × Bool))
  | [] => .ok []
  | p :: rest => do .ok ((← printPiece p) :: (← printPieces rest))

end

/-- The text of an expression. -/
def Expr.text (e : Expr) : Except PrintFault String := printExpr false Binding.test e

end NavFactory.Source
