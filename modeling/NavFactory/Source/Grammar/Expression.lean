import NavFactory.Source.Grammar.Interpolation
import NavFactory.Source.Grammar.Target

/-!
# Expressions

The rules for expressions, from operators that bind loosely to those that bind tightly and back through brackets.
-/

namespace NavFactory.Source.Rules

open NavFactory.Source.Parser

/-! ### Lists of tokens that start or end something -/

/-- Whether an expression can start with a token. -/
def startsExpression (t : Token) : Bool :=
  match t.kind with
  | .name _ => true
  | .number _ => true
  | .string _ => true
  | .keyword k => ["None", "True", "False", "not", "lambda", "await"].contains k
  | .symbol s => ["(", "[", "\x7b", "-", "+", "~", "..."].contains s
  | _ => false

/-- Whether a list of expressions without brackets ends in front of a token. -/
def endsList (t : Token) : Bool :=
  match t.kind with
  | .keyword _ => !startsExpression t
  | .symbol s => s != "*" && !startsExpression t
  | .newline => true
  | .finish => true
  | _ => false

/-- Whether a bracket is closed by a token. -/
def closes (bracket : String) (t : Token) : Bool := t.kind == .symbol bracket

/-! ### Operators -/

/-- Operands with operators that group to the left. -/
def leftChain (r : Rules) (operator : String → Option BinaryOperator) (operand : Parser Expr) : Parser Expr := do
  let start ← here
  let first ← operand
  r.parts (fun left => do
    match (← peek).kind with
    | .symbol s =>
      match operator s with
      | some op => do
        let _ ← next
        let right ← operand
        pure (.binary start op left right, true)
      | none => pure (left, false)
    | _ => pure (left, false)) first

def sumOperator : String → Option BinaryOperator
  | "+" => some .add
  | "-" => some .sub
  | _ => none

def productOperator : String → Option BinaryOperator
  | "*" => some .mult
  | "/" => some .div
  | "//" => some .floorDiv
  | "%" => some .mod
  | "@" => some .matMult
  | _ => none

def shiftOperator : String → Option BinaryOperator
  | "<<" => some .leftShift
  | ">>" => some .rightShift
  | _ => none

/-- The operator of an augmented assignment. -/
def augmentedOperator : String → Option BinaryOperator
  | "+=" => some .add
  | "-=" => some .sub
  | "*=" => some .mult
  | "@=" => some .matMult
  | "/=" => some .div
  | "%=" => some .mod
  | "&=" => some .bitAnd
  | "|=" => some .bitOr
  | "^=" => some .bitXor
  | "<<=" => some .leftShift
  | ">>=" => some .rightShift
  | "**=" => some .pow
  | "//=" => some .floorDiv
  | _ => none

def signOperator : String → Option UnaryOperator
  | "+" => some .plus
  | "-" => some .minus
  | "~" => some .invert
  | _ => none

/-- A comparison operator, one or two tokens long. -/
def comparison : Parser (Option Comparison) := do
  match (← peek).kind with
  | .symbol "==" => do let _ ← next; pure (some .equal)
  | .symbol "!=" => do let _ ← next; pure (some .notEqual)
  | .symbol "<" => do let _ ← next; pure (some .less)
  | .symbol "<=" => do let _ ← next; pure (some .lessEqual)
  | .symbol ">" => do let _ ← next; pure (some .greater)
  | .symbol ">=" => do let _ ← next; pure (some .greaterEqual)
  | .keyword "in" => do let _ ← next; pure (some .isIn)
  | .keyword "not" => do
    let _ ← next
    keyword "in"
    pure (some .notIn)
  | .keyword "is" => do
    let _ ← next
    if ← acceptKeyword "not" then pure (some .isNot) else pure (some .is)
  | _ => pure none

/-- Operands with a word between them. -/
def wordChain (r : Rules) (word : String) (operand : Parser Expr) (build : Nat → List Expr → Expr) : Parser Expr := do
  let start ← here
  let first ← operand
  let operands ← r.parts (fun operands => do
    if ← acceptKeyword word then do
      let e ← operand
      pure (e :: operands, true)
    else pure (operands, false)) [first]
  match operands with
  | [e] => pure e
  | operands => pure (build start operands.reverse)

/-! ### Loops of comprehensions -/

/-- Refuses an expression that is not a target. -/
def checkTarget (use : TargetUse) (e : Expr) : Parser Unit :=
  match invalidTarget use e with
  | some line => failAt line
  | none => pure ()

/-- Items with commas between them: one item without a comma stands for itself, any other number for a tuple. -/
def tupleOf (r : Rules) (ends : Token → Bool) (item : Parser Expr) : Parser Expr := do
  let start ← here
  let (items, trailing) ← separated r.fuel "," ends item
  match items, trailing with
  | [e], false => pure e
  | items, _ => pure (.tuple start items)

/-- Whether a comprehension goes on with a loop. -/
def seesLoop : Parser Bool := do
  match (← peek).kind with
  | .keyword "for" => pure true
  | .keyword "async" => pure true
  | _ => pure false

/-- An expression that may start with a star. -/
def starred (operand item : Parser Expr) : Parser Expr := do
  let start ← here
  if ← acceptSymbol "*" then do
    let e ← operand
    pure (.starred start e)
  else item

/-- The targets of a loop, with the word that follows them.  Where they cannot be read, a mistake in them as
expressions counts. -/
def loopHead (r : Rules) : Parser Expr := fun ts =>
  let targets : Parser Expr := do
    let e ← tupleOf r endsList (starred r.operand r.operand)
    checkTarget .loop e
    keyword "in"
    pure e
  match targets ts with
  | .error (.unexpected line left) =>
    match tupleOf r endsList (starred r.operand r.expression) ts with
    | .error (.mistake line left) => .error (.mistake line left)
    | _ => .error (.unexpected line left)
  | result => result

/-- The loops of a comprehension. -/
def clauses (r : Rules) : Parser (List Clause) := do
  let found ← iterate (fun found => do
    if ← seesLoop then do
      let isAsync ← acceptKeyword "async"
      keyword "for"
      let target ← loopHead r
      let e ← r.disjunction
      let conditions ← iterate (fun conditions => do
        if ← acceptKeyword "if" then do
          let c ← r.disjunction
          pure (c :: conditions, true)
        else pure (conditions, false)) r.fuel []
      pure (Clause.mk isAsync target e conditions.reverse :: found, true)
    else pure (found, false)) r.fuel []
  pure found.reverse

/-- Refuses a loop that stands where none may; the fault is that of a line. -/
def refuseLoop {α : Type} (r : Rules) (line : Nat) : Parser α := fun ts =>
  match clauses r ts with
  | .ok _ => failAt line ts
  | .error (.mistake line left) => .error (.mistake line left)
  | .error .exhausted => .error .exhausted
  | .error (.unexpected ..) => fail ts

/-- Whether a list in brackets ends in front of a token, be it by a loop that must not stand there. -/
def endsItems (bracket : String) (t : Token) : Bool :=
  closes bracket t || t.kind == .keyword "for" || t.kind == .keyword "async"

/-! ### Parameters -/

/-- What has been read of a list of parameters; the lists are in reverse. -/
structure ParameterList where
  positionalOnly : List Argument := []
  regular : List Argument := []
  rest : Option Argument := none
  keywordOnly : List Argument := []
  keywords : Option Argument := none
  sawSlash : Bool := false
  sawStar : Bool := false
  sawDefault : Bool := false
  /-- A star without a name needs a parameter behind it. -/
  bareStar : Option Nat := none

/-- A name of a parameter, with a type where those are allowed. -/
def parameterName (annotated : Bool) (hint : Parser Expr) : Parser (Nat × String × Option Expr) := do
  let line ← here
  let id ← name
  if annotated then do
    let a ← optional (acceptSymbol ":") hint
    pure (line, id, a)
  else pure (line, id, none)

/-- Reads a parameter that has no mark. -/
def plainParameter (r : Rules) (annotated : Bool) (ends : Token → Bool) (p : ParameterList) : Parser ParameterList := do
  let (line, id, a) ← parameterName annotated r.expression
  let equals ← here
  if ← acceptSymbol "=" then do
    if (← seesSymbol ",") || (← seesSymbol ")") || (← seesSymbol ":") then failAt equals
    else do
      let value ← r.expression
      let argument := Argument.mk line id a (some value)
      if p.sawStar then pure { p with keywordOnly := argument :: p.keywordOnly, bareStar := none }
      else pure { p with regular := argument :: p.regular, sawDefault := true }
  else
    let argument := Argument.mk line id a none
    if p.sawStar then pure { p with keywordOnly := argument :: p.keywordOnly, bareStar := none }
    else if p.sawDefault && ((← seesSymbol ",") || ends (← peek)) then failAt line
    else pure { p with regular := argument :: p.regular }

/-- Reads one parameter or mark. -/
def parameter (r : Rules) (annotated : Bool) (ends : Token → Bool) (p : ParameterList) : Parser ParameterList := do
  let line ← here
  if p.keywords.isSome then fail
  else if ← seesSymbol "/" then
    if p.sawSlash || p.sawStar || p.regular.isEmpty then fail
    else do
      let _ ← next
      pure { p with positionalOnly := p.regular, regular := [], sawSlash := true }
  else if ← seesSymbol "*" then
    if p.sawStar then fail
    else do
      let _ ← next
      if ← seesSymbol "," then pure { p with sawStar := true, bareStar := some line }
      else do
        let starHint := do
          let start ← here
          if ← acceptSymbol "*" then do
            let e ← r.expression
            pure (Expr.starred start e)
          else r.expression
        match (← peek).kind with
        | .name _ => do
          let (line, id, a) ← parameterName annotated starHint
          if ← seesSymbol "=" then fail
          else pure { p with sawStar := true, rest := some (.mk line id a none) }
        | _ => failAt line
  else if ← acceptSymbol "**" then do
    if p.bareStar.isSome then failAt (p.bareStar.getD line)
    else do
      let (line, id, a) ← parameterName annotated r.expression
      if ← seesSymbol "=" then fail
      else pure { p with keywords := some (.mk line id a none) }
  else plainParameter r annotated ends p

/-- The parameters of a function, up to the token that ends them. -/
def parameters (r : Rules) (annotated : Bool) (ends : Token → Bool) : Parser Parameters := do
  let p ← if ends (← peek) then pure {} else iterate (fun p => do
    let p ← parameter r annotated ends p
    if ← acceptSymbol "," then pure (p, !ends (← peek)) else pure (p, false)) r.fuel ({} : ParameterList)
  match p.bareStar with
  | some line => failAt line
  | none =>
    pure (.mk p.positionalOnly.reverse p.regular.reverse p.rest p.keywordOnly.reverse p.keywords)

/-! ### Atoms -/

/-- The string tokens that come next. -/
def stringRun (r : Rules) : Parser (List (Nat × StringToken)) := do
  let run ← iterate (fun run => do
    let t ← peek
    match t.kind with
    | .string literal => do
      let _ ← next
      pure ((t.line, literal) :: run, true)
    | _ => pure (run, false)) r.fuel []
  pure run.reverse

/-- Whether an expression stands behind the next token, be it only a shortened one, and then a token that may.  A
mistake in the expression counts as it is. -/
def followedBy (full shortened : Parser Expr) (goesOn : Token → Bool) : Parser Bool := fun ts =>
  let fits : Except Fault (Expr × List Token) → Bool
    | .ok (_, t :: _) => goesOn t
    | _ => false
  match full ts.tail with
  | .error (.mistake line left) => .error (.mistake line left)
  | .error _ => .ok (fits (shortened ts.tail), ts)
  | result => .ok (fits result, ts)

/-- Whether an expression that is not in parentheses is an operand of comparisons. -/
def isOperand : Expr → Bool
  | .compare .. => false
  | .conjunction .. => false
  | .disjunction .. => false
  | .unary _ .negate _ => false
  | .conditional .. => false
  | .lambda .. => false
  | _ => true

/-- Whether tokens start with something to which a comparison would hardly be meant. -/
def startsPlainly (r : Rules) (ts : List Token) : Bool :=
  match ts with
  | [] => true
  | t :: _ => match t.kind with
    | .keyword k => !(["True", "None", "False"].contains k)
    | .symbol s =>
      if s == "(" || s == "[" then match r.parse .shortened .atom ts with
        | .ok (.tuple .., _) => false
        | .ok (.list .., _) => false
        | .ok (.generator .., _) => false
        | _ => true
      else true
    | _ => true

/-- An expression that may assign a name. -/
def namedRule (r : Rules) : Parser Expr := do
  let t ← peek
  match t.kind with
  | .name id =>
    if ← seesSecond (.symbol ":=") then do
      let _ ← next
      let _ ← next
      let e ← r.expression
      pure (.assigned t.line id e)
    else plain
  | _ => plain
where
  plain : Parser Expr := do
    let tokens ← remaining
    let e ← r.expression
    if ← seesSymbol ":=" then
      if ← followedBy r.expression r.shortenedExpression fun _ => true then failAt e.line else fail
    else if ← seesSymbol "=" then
      let behind (t : Token) : Bool := t.kind != .symbol "=" && t.kind != .symbol ":="
      if isOperand e && startsPlainly r tokens && (← followedBy r.operand (r.parse .shortened .operand) behind) then
        failAt e.line
      else fail
    else pure e

/-- Expressions with commas between them, which make a tuple. -/
def severalRule (r : Rules) : Parser Expr := tupleOf r endsList (starred r.operand r.expression)

/-- A `yield` expression. -/
def yieldRule (r : Rules) : Parser Expr := do
  let start ← here
  keyword "yield"
  if ← acceptKeyword "from" then do
    let e ← r.expression
    pure (.yieldFrom start e)
  else
    if endsList (← peek) then pure (.yield start none)
    else do
      let e ← severalRule r
      pure (.yield start (some e))

private def isStarred : Expr → Bool
  | .starred .. => true
  | _ => false

/-- What stands between parentheses: a tuple, a generator, or an expression by itself. -/
def group (r : Rules) : Parser Expr := do
  let start ← here
  symbol "("
  if ← acceptSymbol ")" then pure (.tuple start [])
  else if ← seesKeyword "yield" then do
    let e ← yieldRule r
    symbol ")"
    pure e
  else if ← seesSymbol "**" then do
    let line ← here
    let _ ← next
    let _ ← r.expression
    if ← seesSymbol ")" then failAt line else fail
  else do
    let first ← starred r.operand (namedRule r)
    if ← seesLoop then
      if isStarred first then refuseLoop r first.line
      else do
        let loops ← clauses r
        symbol ")"
        pure (.generator start first loops)
    else if ← acceptSymbol "," then do
      let rest ← if closes ")" (← peek) then pure [] else do
        let (items, _) ← separated r.fuel "," (closes ")") (starred r.operand (namedRule r))
        pure items
      symbol ")"
      pure (.tuple start (first :: rest))
    else if isStarred first then do
      if ← seesSymbol ")" then failAt first.line else fail
    else do
      symbol ")"
      pure first

/-- What stands between square brackets: a list or a comprehension. -/
def listDisplay (r : Rules) : Parser Expr := do
  let start ← here
  symbol "["
  if ← acceptSymbol "]" then pure (.list start [])
  else do
    let first ← starred r.operand (namedRule r)
    if ← seesLoop then
      if isStarred first then refuseLoop r first.line
      else do
        let loops ← clauses r
        symbol "]"
        pure (.listOf start first loops)
    else do
      let rest ← if ← acceptSymbol "," then
          if closes "]" (← peek) then pure []
          else if ← seesLoop then refuseLoop r first.line
          else do
            let (items, _) ← separated r.fuel "," (endsItems "]") (starred r.operand (namedRule r))
            pure items
        else pure []
      if ← seesLoop then refuseLoop r first.line
      else do
        symbol "]"
        pure (.list start (first :: rest))

/-- The value of a dictionary entry behind its colon. -/
def entryValue (r : Rules) : Parser Expr := do
  let colon ← here
  symbol ":"
  if (← seesSymbol "\x7d") || (← seesSymbol ",") then failAt colon else r.expression

/-- An entry of a dictionary behind the first. -/
def entry (r : Rules) : Parser (Option Expr × Expr) := do
  if ← acceptSymbol "**" then do
    let e ← r.operand
    pure (none, e)
  else do
    let key ← r.expression
    if ← seesSymbol ":" then do
      let value ← entryValue r
      pure (some key, value)
    else failAt key.line

/-- The entries of a dictionary behind the first, up to its closing brace. -/
def moreEntries (r : Rules) : Parser (List (Option Expr × Expr)) := do
  if ← acceptSymbol "," then
    if closes "\x7d" (← peek) then pure []
    else do
      let (entries, _) ← separated r.fuel "," (closes "\x7d") (entry r)
      pure entries
  else pure []

/-- What stands between braces: a dictionary, a set, or a comprehension of either. -/
def braceDisplay (r : Rules) : Parser Expr := do
  let start ← here
  symbol "\x7b"
  if ← acceptSymbol "\x7d" then pure (.dict start [])
  else if ← seesSymbol "**" then do
    let line ← here
    let first ← entry r
    if ← seesLoop then refuseLoop r line
    else do
      let rest ← moreEntries r
      symbol "\x7d"
      pure (.dict start (first :: rest))
  else do
    let first ← starred r.operand (namedRule r)
    if !isStarred first && (← seesSymbol ":") then do
      match first with
      | .assigned .. => fail
      | key => do
        let value ← entryValue r
        if ← seesLoop then do
          let loops ← clauses r
          symbol "\x7d"
          pure (.dictOf start key value loops)
        else do
          let rest ← moreEntries r
          symbol "\x7d"
          pure (.dict start ((some key, value) :: rest))
    else if ← seesLoop then
      if isStarred first then refuseLoop r first.line
      else do
        let loops ← clauses r
        symbol "\x7d"
        pure (.setOf start first loops)
    else do
      let rest ← if ← acceptSymbol "," then
          if closes "\x7d" (← peek) then pure []
          else if ← seesLoop then refuseLoop r first.line
          else do
            let (items, _) ← separated r.fuel "," (endsItems "\x7d") (starred r.operand (namedRule r))
            pure items
        else pure []
      if ← seesLoop then refuseLoop r first.line
      else do
        symbol "\x7d"
        pure (.set start (first :: rest))

/-- A name, a literal, or what stands between brackets. -/
def atom (r : Rules) : Parser Expr := do
  let t ← peek
  let literal (c : Constant) : Parser Expr := do
    let _ ← next
    pure (.constant t.line c)
  match t.kind with
  | .name id => do
    let _ ← next
    pure (.name t.line id)
  | .keyword "None" => literal .none
  | .keyword "True" => literal (.bool true)
  | .keyword "False" => literal (.bool false)
  | .number text =>
    match numeral text with
    | some c => literal c
    | none => failAt t.line
  | .string _ => do
    let run ← stringRun r
    match joinStrings (severalRule r) t.line run with
    | .ok e => pure e
    | .error (some line) => failAt line
    | .error none => fail
  | .symbol "(" => group r
  | .symbol "[" => listDisplay r
  | .symbol "\x7b" => braceDisplay r
  | .symbol "..." => literal .ellipsis
  | _ => fail

/-! ### Calls and subscripts -/

/-- What has been read of the arguments of a call; the lists are in reverse. -/
structure ArgumentList where
  arguments : List Expr := []
  keywords : List (Option String × Expr) := []
  /-- The line of the first argument. -/
  first : Option Nat := none
  sawDouble : Bool := false
  /-- A plain argument stands behind one with a name. -/
  misplaced : Bool := false
  /-- A generator without parentheses, which must be the only argument. -/
  loneGenerator : Option Nat := none

/-- An expression that may assign a name, but is not followed by another assignment. -/
def plainArgument (r : Rules) : Parser Expr := do
  let t ← peek
  match t.kind with
  | .name id =>
    if ← seesSecond (.symbol ":=") then do
      let _ ← next
      let _ ← next
      let e ← r.expression
      pure (.assigned t.line id e)
    else r.expression
  | _ => r.expression

/-- A plain argument behind one with a name.  If it cannot be read, what does not fit is the token that might have
been a name, or the one behind a name. -/
def laterArgument (r : Rules) : Parser Expr := fun ts =>
  match plainArgument r ts with
  | .error (.unexpected ..) => match ts with
    | ⟨.name _, _, _⟩ :: rest => fail rest
    | _ => fail ts
  | result => result

/-- Reads one argument of a call whose parenthesis stands on a line. -/
def argument (r : Rules) (opened : Nat) (s : ArgumentList) : Parser ArgumentList := do
  let t ← peek
  let first := s.first.or (some t.line)
  if ← acceptSymbol "*" then
    if s.sawDouble then failAt (s.first.getD t.line)
    else do
      let e ← r.expression
      pure { s with arguments := .starred t.line e :: s.arguments, first := first }
  else if ← acceptSymbol "**" then do
    let e ← r.expression
    pure { s with keywords := (none, e) :: s.keywords, first := first, sawDouble := true }
  else do
    let isName := match t.kind with
      | .name _ => true
      | _ => false
    if isName && (← seesSecond (.symbol "=")) then do
      let id ← name
      let _ ← next
      let e ← r.expression
      if ← seesLoop then refuseLoop r t.line
      else pure { s with keywords := (some id, e) :: s.keywords, first := first }
    else do
      let e ← if s.keywords.isEmpty then plainArgument r else laterArgument r
      if ← seesSymbol "=" then failAt t.line
      else if ← seesLoop then do
        let loops ← clauses r
        if s.first.isSome || (← seesSymbol ",") then failAt t.line
        else pure { s with
          arguments := .generator opened e loops :: s.arguments, first := first, loneGenerator := some t.line }
      else
        pure { s with
          arguments := e :: s.arguments, first := first, misplaced := s.misplaced || !s.keywords.isEmpty }

/-- The line of a plain argument behind one with a name: that of the last token that was looked at.  Further
expressions behind a name were looked at as well. -/
def misplacedLine (r : Rules) (s : ArgumentList) : Parser Nat := fun ts =>
  let line (ts : List Token) : Nat := (ts.head?.map (·.line)).getD 0
  match s.arguments with
  | .name .. :: _ => match severalRule { r with reading := .shortened } ts with
    | .ok (_, rest) => .ok (line rest, ts)
    | .error _ => .ok (line ts, ts)
  | _ => .ok (line ts, ts)

/-- The arguments of a call up to its closing parenthesis. -/
def arguments (r : Rules) (opened : Nat) : Parser (List Expr × List (Option String × Expr)) := do
  let s ← if closes ")" (← peek) then pure {} else iterate (fun s => do
    let s ← argument r opened s
    if ← acceptSymbol "," then pure (s, !closes ")" (← peek)) else pure (s, false)) r.fuel ({} : ArgumentList)
  if s.misplaced then failAt (← misplacedLine r s)
  else do
    symbol ")"
    pure (s.arguments.reverse, s.keywords.reverse)

/-- An index or a slice. -/
def sliceItem (r : Rules) : Parser Expr := do
  let start ← here
  let endsSlice (t : Token) : Bool := closes "]" t || closes "," t || closes ":" t
  let bound : Parser (Option Expr) := do
    if endsSlice (← peek) then pure none else some <$> r.expression
  if ← seesSymbol "*" then do
    let _ ← next
    let e ← r.expression
    pure (.starred start e)
  else do
    let lower ← if ← seesSymbol ":" then pure none else some <$> namedRule r
    if ← acceptSymbol ":" then do
      let upper ← bound
      let step ← if ← acceptSymbol ":" then bound else pure none
      pure (.slice start lower upper step)
    else match lower with
      | some e => pure e
      | none => fail

/-- What stands between the brackets of a subscript. -/
def slices (r : Rules) : Parser Expr := do
  let start ← here
  let (items, trailing) ← separated r.fuel "," (closes "]") (sliceItem r)
  match items, trailing with
  | [e], false => if isStarred e then pure (.tuple start [e]) else pure e
  | items, _ => pure (.tuple start items)

/-- An attribute, a call or a subscript behind an expression that starts on a line, if there is one. -/
def suffix (r : Rules) (start : Nat) (e : Expr) : Parser (Expr × Bool) := do
  let t ← peek
  match t.kind with
  | .symbol "." => do
    let _ ← next
    let id ← name
    pure (.attribute start e id, true)
  | .symbol "(" => do
    let _ ← next
    let (positional, keywords) ← arguments r t.line
    pure (.call start e positional keywords, true)
  | .symbol "[" => do
    let _ ← next
    let index ← slices r
    symbol "]"
    pure (.subscript start e index, true)
  | _ => pure (e, false)

/-- An atom with the attributes, calls and subscripts behind it. -/
def primary (r : Rules) : Parser Expr := do
  let start ← here
  let first ← atom r
  r.parts (suffix r start) first

/-! ### From powers to expressions -/

def awaitPrimary (r : Rules) : Parser Expr := do
  let start ← here
  if ← acceptKeyword "await" then do
    let e ← primary r
    pure (.await start e)
  else primary r

def power (r : Rules) : Parser Expr := do
  let start ← here
  let base ← awaitPrimary r
  let (e, _) ← r.part base do
    if ← acceptSymbol "**" then do
      let exponent ← r.factor
      pure (.binary start .pow base exponent, false)
    else pure (base, false)
  pure e

/-- A power with signs in front. -/
def factorRule (r : Rules) : Parser Expr := do
  let t ← peek
  match t.kind with
  | .symbol s =>
    match signOperator s with
    | some op => do
      let _ ← next
      let e ← r.factor
      pure (.unary t.line op e)
    | none => power r
  | _ => power r

def bitwiseOr (r : Rules) : Parser Expr :=
  let product := leftChain r productOperator (factorRule r)
  let sum := leftChain r sumOperator product
  let shift := leftChain r shiftOperator sum
  let bitAnd := leftChain r (fun s => if s == "&" then some .bitAnd else none) shift
  let bitXor := leftChain r (fun s => if s == "^" then some .bitXor else none) bitAnd
  leftChain r (fun s => if s == "|" then some .bitOr else none) bitXor

def comparisonRule (r : Rules) : Parser Expr := do
  let start ← here
  let left ← bitwiseOr r
  let rest ← r.parts (fun rest => do
    match ← comparison with
    | some op => do
      let right ← bitwiseOr r
      pure ((op, right) :: rest, true)
    | none => pure (rest, false)) []
  if rest.isEmpty then pure left else pure (.compare start left rest.reverse)

def inversionRule (r : Rules) : Parser Expr := do
  let start ← here
  if ← acceptKeyword "not" then do
    let e ← r.inversion
    pure (.unary start .negate e)
  else comparisonRule r

def disjunctionRule (r : Rules) : Parser Expr :=
  wordChain r "or" (wordChain r "and" (inversionRule r) .conjunction) .disjunction

/-- The words that some statements start with although they are names. -/
def softKeywords : List String := ["match", "case", "_"]

/-- Whether the first tokens of an expression rule out that a comma was left out behind it. -/
def excusesMissingComma : List Token → Bool
  | t :: u :: _ =>
    match t.kind, u.kind with
    | .name _, .string _ => true
    | .name s, _ => softKeywords.contains s
    | _, _ => false
  | _ => false

/-- Whether a name belongs to a statement of earlier versions of the language. -/
private def isLegacyName : Expr → Bool
  | .name _ id => id == "print" || id == "exec"
  | _ => false

/-- Whether an expression is followed by another one inside brackets, so that a comma is missing; `start` holds the
tokens from the first one on. -/
def missesComma (r : Rules) (start : List Token) (e : Expr) (rest : List Token) : Except Fault Bool :=
  match rest with
  | [] => .ok false
  | t :: _ =>
    if startsExpression t && !excusesMissingComma start && !isLegacyName e then
      match r.shortenedExpression rest with
      | .ok (_, after) => .ok (rest[rest.length - after.length - 1]?.any (0 < ·.depth))
      | .error .exhausted => .error .exhausted
      | .error _ => .ok false
    else .ok false

/-- Whether a choice between two values that goes on with these tokens lacks the second one. -/
def missesElse (r : Rules) (rest : List Token) : Bool :=
  match rest with
  | t :: rest => t.kind == .keyword "if" && match r.parse .shortened .disjunction rest with
    | .ok (_, u :: _) => u.kind != .keyword "else" && u.kind != .symbol ":"
    | _ => false
  | [] => false

/-- A choice between two values, or a value alone. -/
def choice (r : Rules) : Parser Expr := do
  let start ← here
  let e ← disjunctionRule r
  let (whole, _) ← r.part e do
    if ← acceptKeyword "if" then do
      let test ← disjunctionRule r
      keyword "else"
      let other ← r.expression
      pure (.conditional start test e other, false)
    else pure (e, false)
  pure whole

private def isConditional : Expr → Bool
  | .conditional .. => true
  | _ => false

/-- A choice in which nothing is left out.  If something is, the fault is that of the line of the first value. -/
def completeChoice (r : Rules) : Parser Expr := fun ts =>
  match choice r ts with
  | .ok (e, rest) => do
    if !isConditional e && (← missesComma r ts e rest) then .error (.mistake e.line rest.length) else .ok (e, rest)
  | .error (.unexpected line left) =>
    match r.parse .shortened .disjunction ts with
    | .ok (e, rest) => do
      if (← missesComma r ts e rest) || missesElse r rest then .error (.mistake e.line rest.length)
      else .error (.unexpected line left)
    | .error _ => .error (.unexpected line left)
  | result => result

/-- An expression without commas and assignments: a function without a name, or a choice between two values. -/
def expressionRule (r : Rules) : Parser Expr := do
  let start ← here
  if ← acceptKeyword "lambda" then do
    let ps ← parameters r false (closes ":")
    symbol ":"
    let body ← r.expression
    pure (.lambda start ps body)
  else match r.reading with
    | .full => completeChoice r
    | .shortened => choice r

end NavFactory.Source.Rules
