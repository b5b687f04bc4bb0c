import NavFactory.Source.Grammar.Expression

/-!
# Patterns of cases

The rules for the patterns that a `match` statement compares its subject with.
-/

namespace NavFactory.Source.Rules

open NavFactory.Source.Parser

/-- The name that matches anything. -/
def wildcard : String := "_"

/-- A name to capture a value in; the wildcard captures nothing. -/
def captureName : Parser (Option String) := do
  let id ← name
  pure (if id == wildcard then none else some id)

/-- A number of a pattern, whose second part, if any, is imaginary. -/
def numberPattern (r : Rules) : Parser Expr := do
  let start ← here
  let number : Parser Expr := do
    match (← peek).kind with
    | .number _ => atom r
    | _ => fail
  let signed : Parser Expr := do
    if ← acceptSymbol "-" then do
      let e ← number
      pure (.unary start .minus e)
    else number
  let real ← signed
  match (← peek).kind with
  | .symbol s =>
    match sumOperator s with
    | some op => do
      let _ ← next
      let t ← peek
      let imaginary ← number
      match imaginary with
      | .constant _ (.imaginary _) => pure (.binary start op real imaginary)
      | _ => failAt t.line
    | none => pure real
  | _ => pure real

/-- A name with attributes. -/
def dottedExpression (r : Rules) : Parser Expr := do
  let start ← here
  let id ← name
  iterate (fun e => do
    if ← acceptSymbol "." then do
      let field ← name
      pure (Expr.attribute start e field, true)
    else pure (e, false)) r.fuel (Expr.name start id)

/-- A literal that a pattern compares with; `none` if the next token starts none. -/
def literalPattern (r : Rules) : Parser (Option Expr) := do
  match (← peek).kind with
  | .number _ => some <$> numberPattern r
  | .symbol "-" => some <$> numberPattern r
  | .string _ => some <$> atom r
  | .keyword "None" => some <$> atom r
  | .keyword "True" => some <$> atom r
  | .keyword "False" => some <$> atom r
  | _ => pure none

/-- An item of a sequence of patterns. -/
def sequenceItem (r : Rules) : Parser Pattern := do
  if ← acceptSymbol "*" then Pattern.star <$> captureName else r.pattern

/-- The items of a sequence up to a bracket. -/
def sequenceItems (r : Rules) (bracket : String) : Parser (List Pattern × Bool) := do
  if closes bracket (← peek) then pure ([], true)
  else separated r.fuel "," (closes bracket) (sequenceItem r)

/-- What has been read of the entries of a mapping; the entries are in reverse. -/
structure MappingList where
  entries : List (Expr × Pattern) := []
  rest : Option String := none

/-- Reads one entry of a mapping. -/
def mappingEntry (r : Rules) (m : MappingList) : Parser MappingList := do
  if m.rest.isSome then fail
  else if ← acceptSymbol "**" then do
    let id ← name
    pure { m with rest := some id }
  else do
    let key ← match ← literalPattern r with
      | some e => pure e
      | none => do
        let e ← dottedExpression r
        match e with
        | .name .. => fail
        | e => pure e
    symbol ":"
    let value ← r.pattern
    pure { m with entries := (key, value) :: m.entries }

/-- What has been read of the arguments of a class pattern; the lists are in reverse. -/
structure ClassList where
  positional : List Pattern := []
  keywords : List (String × Pattern) := []

/-- Reads one argument of a class pattern. -/
def classArgument (r : Rules) (c : ClassList) : Parser ClassList := do
  let t ← peek
  let isName := match t.kind with
    | .name _ => true
    | _ => false
  if isName && (← seesSecond (.symbol "=")) then do
    let id ← name
    let _ ← next
    let p ← r.pattern
    pure { c with keywords := (id, p) :: c.keywords }
  else do
    let p ← r.pattern
    if c.keywords.isEmpty then pure { c with positional := p :: c.positional } else failAt t.line

/-- Items with commas between them up to a bracket, folded into a state. -/
def foldItems {α : Type} (r : Rules) (bracket : String) (item : α → Parser α) (start : α) : Parser α := do
  let a ← if closes bracket (← peek) then pure start else iterate (fun a => do
    let a ← item a
    if ← acceptSymbol "," then pure (a, !closes bracket (← peek)) else pure (a, false)) r.fuel start
  symbol bracket
  pure a

/-- A pattern without alternatives. -/
def closedPattern (r : Rules) : Parser Pattern := do
  match ← literalPattern r with
  | some e => pure (.value e)
  | none =>
    match (← peek).kind with
    | .name id =>
      if id == wildcard then do
        let _ ← next
        pure (.capture none)
      else do
        let e ← dottedExpression r
        if ← acceptSymbol "(" then do
          let c ← foldItems r ")" (classArgument r) ({} : ClassList)
          pure (.classOf e c.positional.reverse c.keywords.reverse)
        else match e with
          | .name _ id => pure (.capture (some id))
          | e => pure (.value e)
    | .symbol "(" => do
      let _ ← next
      let (items, trailing) ← sequenceItems r ")"
      symbol ")"
      match items, trailing with
      | [.star _], false => fail
      | [p], false => pure p
      | items, _ => pure (.sequence items)
    | .symbol "[" => do
      let _ ← next
      let (items, _) ← sequenceItems r "]"
      symbol "]"
      pure (.sequence items)
    | .symbol "\x7b" => do
      let _ ← next
      let m ← foldItems r "\x7d" (mappingEntry r) ({} : MappingList)
      pure (.mapping m.entries.reverse m.rest)
    | _ => fail

/-- A pattern with alternatives and a name for the value. -/
def patternRule (r : Rules) : Parser Pattern := do
  let first ← closedPattern r
  let more ← iterate (fun more => do
    if ← acceptSymbol "|" then do
      let p ← closedPattern r
      pure (p :: more, true)
    else pure (more, false)) r.fuel []
  let p := if more.isEmpty then first else .alternatives (first :: more.reverse)
  if ← acceptKeyword "as" then do
    let t ← peek
    let id ← name
    if id == wildcard then failAt t.line
    else if (← seesSymbol ".") || (← seesSymbol "(") || (← seesSymbol "=") then failAt t.line
    else pure (.as p id)
  else pure p

/-- The patterns of a case: one pattern, or a sequence without brackets. -/
def casePatterns (r : Rules) : Parser Pattern := do
  let ends (t : Token) : Bool := t.kind == .symbol ":" || t.kind == .keyword "if"
  let (items, trailing) ← separated r.fuel "," ends (sequenceItem r)
  match items, trailing with
  | [.star _], false => fail
  | [p], false => pure p
  | items, _ => pure (.sequence items)

end NavFactory.Source.Rules
