import NavFactory.Source.Grammar.Case

/-!
# Statements

The rules for statements, and for the blocks of statements that some of them hold.
-/

namespace NavFactory.Source.Rules

open NavFactory.Source.Parser

/-- Takes the indentation of a block; a block without one is a mistake. -/
def indentation : Parser Unit := do
  if ← sees .indent then expect .indent else failAt (← here)

/-! ### Simple statements -/

/-- Whether a simple statement ends in front of a token. -/
def endsStatement (t : Token) : Bool := t.kind == .newline || t.kind == .symbol ";"

/-- A value that is assigned. -/
def assignedValue (r : Rules) : Parser Expr := do
  if ← seesKeyword "yield" then yieldRule r else severalRule r

private def isYield : Expr → Bool
  | .yield .. => true
  | .yieldFrom .. => true
  | _ => false

/-- The targets of an assignment behind the first value, which is followed by an equals sign, and its value. -/
def assignment (r : Rules) (line : Nat) (bareYield : Bool) (first : Expr) : Parser Stmt := do
  let (targets, _, value) ← iterate (fun (targets, bareYield, value) => do
    if ← seesSymbol "=" then
      if bareYield then failAt value.line
      else do
        checkTarget .assign value
        let _ ← next
        let bareYield ← seesKeyword "yield"
        let e ← assignedValue r
        pure ((value :: targets, bareYield, e), true)
    else pure ((targets, bareYield, value), false)) r.fuel (([] : List Expr), bareYield, first)
  pure (.assign line targets.reverse value)

/-- An expression by itself, or an assignment of any kind. -/
def expressionStatement (r : Rules) : Parser Stmt := do
  let line ← here
  let bareYield ← seesKeyword "yield"
  let first ← assignedValue r
  match (← peek).kind with
  | .symbol "=" => assignment r line bareYield first
  | .symbol ":" =>
    if bareYield then fail
    else if !isSingleTarget first then
      if ← followedBy r.expression r.shortenedExpression fun _ => true then failAt first.line else fail
    else do
      let _ ← next
      let hint ← r.expression
      let value ← optional (acceptSymbol "=") (assignedValue r)
      pure (.annotated line first hint value)
  | .symbol s =>
    match augmentedOperator s with
    | some op =>
      if bareYield then fail
      else if !isSingleTarget first then failAt first.line
      else do
        let _ ← next
        let value ← assignedValue r
        pure (.augmented line first op value)
    | none => pure (.expression line first)
  | _ => pure (.expression line first)

/-- A name with dots. -/
def dottedName (r : Rules) : Parser String := do
  let first ← name
  iterate (fun s => do
    if ← acceptSymbol "." then do
      let id ← name
      pure (s ++ "." ++ id, true)
    else pure (s, false)) r.fuel first

/-- A name that is imported, with its alias. -/
def importedName (path : Parser String) : Parser ImportedName := do
  let id ← path
  let renamed ← optional (acceptKeyword "as") name
  pure ⟨id, renamed⟩

/-- The dots in front of a module. -/
def importLevel (r : Rules) : Parser Nat :=
  iterate (fun level => do
    if ← acceptSymbol "." then pure (level + 1, true)
    else if ← acceptSymbol "..." then pure (level + 3, true)
    else pure (level, false)) r.fuel 0

/-- The names that are imported from a module; none stand for a star. -/
def importTargets (r : Rules) : Parser (Option (List ImportedName)) := do
  if ← acceptSymbol "*" then pure none
  else if ← acceptSymbol "(" then do
    let (names, _) ← separated r.fuel "," (closes ")") (importedName name)
    symbol ")"
    pure (some names)
  else do
    let (names, _) ← separated r.fuel "," (fun _ => false) (importedName name)
    pure (some names)

def importFrom (r : Rules) (line : Nat) : Parser Stmt := do
  let level ← importLevel r
  let module ← match (← peek).kind with
    | .name _ => some <$> dottedName r
    | _ => pure none
  if level == 0 && module.isNone then fail
  else do
    keyword "import"
    let names ← importTargets r
    pure (.importFrom line level module names)

/-- Names with commas between them. -/
def nameList (r : Rules) : Parser (List String) := do
  let (names, _) ← separated r.fuel "," (fun _ => false) name
  pure names

/-- A statement without a block. -/
def simpleStatement (r : Rules) : Parser Stmt := do
  let t ← peek
  let line := t.line
  match t.kind with
  | .keyword "return" => do
    let _ ← next
    if endsStatement (← peek) then pure (.return_ line none) else do
      let e ← severalRule r
      pure (.return_ line (some e))
  | .keyword "import" => do
    let _ ← next
    let (names, _) ← separated r.fuel "," (fun _ => false) (importedName (dottedName r))
    pure (.import_ line names)
  | .keyword "from" => do
    let _ ← next
    importFrom r line
  | .keyword "raise" => do
    let _ ← next
    if endsStatement (← peek) then pure (.raise line none none) else do
      let e ← r.expression
      let cause ← optional (acceptKeyword "from") r.expression
      pure (.raise line (some e) cause)
  | .keyword "pass" => do
    let _ ← next
    pure (.pass line)
  | .keyword "break" => do
    let _ ← next
    pure (.break_ line)
  | .keyword "continue" => do
    let _ ← next
    pure (.continue_ line)
  | .keyword "del" => do
    let _ ← next
    let e ← severalRule r
    checkTarget .delete e
    if endsStatement (← peek) then
      pure (.delete line (match e with
        | .tuple _ items => items
        | e => [e]))
    else fail
  | .keyword "assert" => do
    let _ ← next
    let e ← r.expression
    let message ← optional (acceptSymbol ",") r.expression
    pure (.assert line e message)
  | .keyword "global" => do
    let _ ← next
    .global line <$> nameList r
  | .keyword "nonlocal" => do
    let _ ← next
    .nonlocal line <$> nameList r
  | _ => expressionStatement r

/-- Simple statements on one line. -/
def simpleStatements (r : Rules) : Parser (List Stmt) := do
  let (statements, _) ← separated r.fuel ";" (fun t => t.kind == .newline) (simpleStatement r)
  expect .newline
  pure statements

/-! ### Statements with blocks -/

/-- The block behind a colon. -/
def colonBlock (r : Rules) : Parser (List Stmt) := do
  symbol ":"
  r.block

/-- The block of an `else`, if there is one. -/
def elseBlock (r : Rules) : Parser (List Stmt) := do
  if ← acceptKeyword "else" then colonBlock r else pure []

/-- The branches of an `if`, from the condition of the first on. -/
def ifBranches (r : Rules) (line : Nat) : Parser Stmt := do
  let test ← namedRule r
  let body ← colonBlock r
  let more ← iterate (fun more => do
    let line ← here
    if ← acceptKeyword "elif" then do
      let test ← namedRule r
      let body ← colonBlock r
      pure ((line, test, body) :: more, true)
    else pure (more, false)) r.fuel []
  let last ← elseBlock r
  pure (.if_ line test body (more.foldl (fun orElse (line, test, body) => [.if_ line test body orElse]) last))

/-- A target behind `as`. -/
def resourceTarget (r : Rules) : Parser Expr := do
  let e ← starred r.operand r.operand
  checkTarget .assign e
  pure e

def resource (r : Rules) : Parser Resource := do
  let value ← r.expression
  let target ← optional (acceptKeyword "as") (resourceTarget r)
  pure ⟨value, target⟩

/-- The resources of a `with`, in parentheses or without, up to the colon. -/
def resources (r : Rules) : Parser (List Resource) :=
  let bracketed : Parser (List Resource) := do
    symbol "("
    let (items, _) ← separated r.fuel "," (closes ")") (resource r)
    symbol ")"
    if ← seesSymbol ":" then pure items else fail
  let bare : Parser (List Resource) := do
    let (items, _) ← separated r.fuel "," (fun _ => false) (resource r)
    if ← seesSymbol ":" then pure items else fail
  fun ts => match ts with
    | t :: _ => if t.kind == .symbol "(" then orElse bracketed bare ts else bare ts
    | [] => .error .exhausted

def withStatement (r : Rules) (line : Nat) (isAsync : Bool) : Parser Stmt := do
  let items ← resources r
  let body ← colonBlock r
  pure (.with_ line isAsync items body)

def forStatement (r : Rules) (line : Nat) (isAsync : Bool) : Parser Stmt := do
  let target ← loopHead r
  let source ← severalRule r
  let body ← colonBlock r
  let orElse ← elseBlock r
  pure (.for_ line isAsync target source body orElse)

/-- A handler of an exception. -/
def handler (r : Rules) (line : Nat) : Parser Handler := do
  let star ← acceptSymbol "*"
  if !star && (← seesSymbol ":") then do
    let body ← colonBlock r
    pure (.mk line false none none body)
  else do
    let type ← r.expression
    let id ← optional (acceptKeyword "as") name
    let body ← colonBlock r
    pure (.mk line star (some type) id body)

private def Handler.isStar : Handler → Bool
  | .mk _ star .. => star

def tryStatement (r : Rules) (line : Nat) : Parser Stmt := do
  let body ← colonBlock r
  let handlers ← iterate (fun handlers => do
    let line ← here
    if ← acceptKeyword "except" then do
      let h ← handler r line
      match handlers with
      | g :: _ => if Handler.isStar g == Handler.isStar h then pure (h :: handlers, true) else fail
      | [] => pure ([h], true)
    else pure (handlers, false)) r.fuel []
  let orElse ← if handlers.isEmpty then pure [] else elseBlock r
  if ← acceptKeyword "finally" then do
    let last ← colonBlock r
    pure (.try_ line body handlers.reverse orElse last)
  else if handlers.isEmpty then failAt (← here)
  else pure (.try_ line body handlers.reverse orElse [])

/-- The type of what a function gives back.  A colon must follow it, and counts as missing where the type cannot be
read on. -/
def returnHint (r : Rules) : Parser (Option Expr) := fun ts =>
  match ts with
  | [] => .error .exhausted
  | t :: rest =>
    if t.kind != .symbol "->" then .ok (none, ts)
    else match r.expression rest with
      | .ok (e, rest) => .ok (some e, rest)
      | .error .exhausted => .error .exhausted
      | .error _ => match r.shortenedExpression rest with
        | .ok (_, u :: rest) => .error (.mistake u.line (rest.length + 1))
        | _ => .error (.mistake t.line ts.length)

def functionDefinition (r : Rules) (line : Nat) (isAsync : Bool) (decorators : List Expr) : Parser Stmt := do
  let id ← name
  symbol "("
  let ps ← parameters r true (closes ")")
  symbol ")"
  let returns ← returnHint r
  let body ← colonBlock r
  pure (.function line isAsync id ps returns body decorators)

def classDefinition (r : Rules) (line : Nat) (decorators : List Expr) : Parser Stmt := do
  let id ← name
  let opened ← here
  let (bases, keywords) ← if ← acceptSymbol "(" then arguments r opened else pure ([], [])
  let body ← colonBlock r
  pure (.classDef line id bases keywords body decorators)

/-- The decorators in front of a definition. -/
def decorators (r : Rules) : Parser (List Expr) := do
  let found ← iterate (fun found => do
    if ← acceptSymbol "@" then do
      let e ← namedRule r
      expect .newline
      pure (e :: found, true)
    else pure (found, false)) r.fuel []
  pure found.reverse

/-- A function or class behind its decorators. -/
def definition (r : Rules) (decorators : List Expr) : Parser Stmt := do
  let line ← here
  if ← acceptKeyword "def" then functionDefinition r line false decorators
  else if ← acceptKeyword "class" then classDefinition r line decorators
  else if ← acceptKeyword "async" then do
    keyword "def"
    functionDefinition r line true decorators
  else fail

/-- A word that is a keyword only here. -/
def softKeyword (word : String) : Parser Unit := expect (.name word)

/-- The subject of a `match`. -/
def matchSubject (r : Rules) : Parser Expr := do
  let start ← here
  let e ← tupleOf r endsList (starred r.operand (namedRule r))
  match e with
  | .starred .. => fail
  | .tuple _ items => pure (.tuple start items)
  | e => pure e

def caseBlock (r : Rules) : Parser Case := do
  softKeyword "case"
  let p ← casePatterns r
  let guard ← optional (acceptKeyword "if") (namedRule r)
  let body ← colonBlock r
  pure (.mk p guard body)

def matchStatement (r : Rules) (line : Nat) : Parser Stmt := do
  softKeyword "match"
  let subject ← matchSubject r
  symbol ":"
  expect .newline
  indentation
  let first ← caseBlock r
  let cases ← iterate (fun cases => do
    if ← accept .dedent then pure (cases, false)
    else do
      let c ← caseBlock r
      pure (c :: cases, true)) r.fuel [first]
  pure (.match_ line subject cases.reverse)

/-- A statement of any kind, or several simple ones on a line. -/
def statement (r : Rules) : Parser (List Stmt) := do
  let t ← peek
  let line := t.line
  match t.kind with
  | .keyword "if" => do
    let _ ← next
    List.singleton <$> ifBranches r line
  | .keyword "while" => do
    let _ ← next
    let test ← namedRule r
    let body ← colonBlock r
    let orElse ← elseBlock r
    pure [.while_ line test body orElse]
  | .keyword "for" => do
    let _ ← next
    List.singleton <$> forStatement r line false
  | .keyword "with" => do
    let _ ← next
    List.singleton <$> withStatement r line false
  | .keyword "try" => do
    let _ ← next
    List.singleton <$> tryStatement r line
  | .keyword "def" => List.singleton <$> definition r []
  | .keyword "class" => List.singleton <$> definition r []
  | .keyword "async" => do
    if ← seesSecond (.keyword "for") then do
      let _ ← next
      let _ ← next
      List.singleton <$> forStatement r line true
    else if ← seesSecond (.keyword "with") then do
      let _ ← next
      let _ ← next
      List.singleton <$> withStatement r line true
    else List.singleton <$> definition r []
  | .symbol "@" => do
    let ds ← decorators r
    List.singleton <$> definition r ds
  | .name "match" => orElse (List.singleton <$> matchStatement r line) (simpleStatements r)
  | _ => simpleStatements r

/-- Statements up to a token that ends them. -/
def statements (r : Rules) (ends : TokenKind) : Parser (List Stmt) := do
  let found ← iterate (fun found => do
    if ← sees ends then pure (found, false)
    else do
      let more ← statement r
      pure (more.reverse ++ found, true)) r.fuel []
  pure found.reverse

/-- A block: indented statements on lines of their own, or simple statements on the same line. -/
def blockRule (r : Rules) : Parser (List Stmt) := do
  if ← accept .newline then do
    indentation
    let body ← statements r .dedent
    expect .dedent
    pure body
  else simpleStatements r

end NavFactory.Source.Rules
