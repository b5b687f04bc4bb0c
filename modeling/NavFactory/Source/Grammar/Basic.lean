import NavFactory.Source.Token
import NavFactory.Source.Tree

/-!
# Parsers over tokens

A parser reads tokens from the front of a list and gives a value with the tokens that are left, or a fault with the
line to report.  A fault also knows how many tokens were left when it arose, so that of two readings of the same
tokens the one that went further can be told.
-/

namespace NavFactory.Source

/-- Why tokens cannot be read. -/
inductive Fault
  /-- A token on a line does not fit; so many tokens were left. -/
  | unexpected (line : Nat) (left : Nat)
  /-- A mistake with a line of its own; so many tokens were left when it was found. -/
  | mistake (line : Nat) (left : Nat)
  /-- The tokens ended. -/
  | exhausted
deriving DecidableEq

/-- How many tokens were left when a fault arose. -/
def Fault.left : Fault → Nat
  | unexpected _ left => left
  | mistake _ left => left
  | exhausted => 0

/-- The fault that arose further on. -/
def Fault.further (a b : Fault) : Fault :=
  if a = .exhausted then a else if b.left < a.left then b else a

/-- A parser of values. -/
def Parser (α : Type) := List Token → Except Fault (α × List Token)

namespace Parser

variable {α β : Type}

instance : Monad Parser where
  pure a := fun ts => .ok (a, ts)
  bind p f := fun ts => match p ts with
    | .ok (a, rest) => f a rest
    | .error e => .error e

/-- Fails at the next token. -/
def fail : Parser α := fun
  | [] => .error .exhausted
  | t :: rest => .error (.unexpected t.line (rest.length + 1))

/-- Fails with a line of its own. -/
def failAt (line : Nat) : Parser α := fun ts => .error (.mistake line ts.length)

/-- The next token, which stays. -/
def peek : Parser Token := fun
  | [] => .error .exhausted
  | t :: rest => .ok (t, t :: rest)

/-- The tokens that come next. -/
def remaining : Parser (List Token) := fun ts => .ok (ts, ts)

/-- Takes the next token. -/
def next : Parser Token := fun
  | [] => .error .exhausted
  | t :: rest => .ok (t, rest)

/-- The line of the next token. -/
def here : Parser Nat := fun
  | [] => .error .exhausted
  | t :: rest => .ok (t.line, t :: rest)

/-- Takes a token of a kind. -/
def expect (kind : TokenKind) : Parser Unit := fun
  | [] => .error .exhausted
  | t :: rest => if t.kind == kind then .ok ((), rest) else .error (.unexpected t.line (rest.length + 1))

def symbol (s : String) : Parser Unit := expect (.symbol s)

def keyword (s : String) : Parser Unit := expect (.keyword s)

/-- Whether the next token is of a kind. -/
def sees (kind : TokenKind) : Parser Bool := fun
  | [] => .error .exhausted
  | t :: rest => .ok (t.kind == kind, t :: rest)

def seesSymbol (s : String) : Parser Bool := sees (.symbol s)

def seesKeyword (s : String) : Parser Bool := sees (.keyword s)

/-- Whether the token behind the next one is of a kind. -/
def seesSecond (kind : TokenKind) : Parser Bool := fun
  | t :: u :: rest => .ok (u.kind == kind, t :: u :: rest)
  | _ => .error .exhausted

/-- Takes the next token if it is of a kind, and says whether it was. -/
def accept (kind : TokenKind) : Parser Bool := fun
  | [] => .error .exhausted
  | t :: rest => if t.kind == kind then .ok (true, rest) else .ok (false, t :: rest)

def acceptSymbol (s : String) : Parser Bool := accept (.symbol s)

def acceptKeyword (s : String) : Parser Bool := accept (.keyword s)

/-- The text of a name. -/
def name : Parser String := fun
  | [] => .error .exhausted
  | t :: rest => match t.kind with
    | .name s => .ok (s, rest)
    | _ => .error (.unexpected t.line (rest.length + 1))

/-- The first reading that succeeds; if none does, the fault of the one that went further. -/
def orElse (p q : Parser α) : Parser α := fun ts =>
  match p ts with
  | .ok r => .ok r
  | .error e => match q ts with
    | .ok r => .ok r
    | .error f => .error (e.further f)

/-- Repeats a step that says whether to go on; `fuel` bounds the number of steps. -/
def iterate (step : α → Parser (α × Bool)) : Nat → α → Parser α
  | 0, _ => fun _ => .error .exhausted
  | fuel + 1, a => do
    let (a, more) ← step a
    if more then iterate step fuel a else pure a

/-- Items with a symbol between them and possibly one behind the last; `ends` tells the tokens that end the list.
The result says whether there was a symbol behind the last item. -/
def separated (fuel : Nat) (separator : String) (ends : Token → Bool) (item : Parser α) : Parser (List α × Bool) := do
  let first ← item
  let (items, trailing) ← iterate (fun (items, _) => do
    if ← acceptSymbol separator then
      if ends (← peek) then pure ((items, true), false)
      else do
        let a ← item
        pure ((a :: items, false), true)
    else pure ((items, false), false)) fuel ([first], false)
  pure (items.reverse, trailing)

/-- A parser that is left out. -/
def optional (seen : Parser Bool) (p : Parser α) : Parser (Option α) := do
  if ← seen then some <$> p else pure none

end Parser

end NavFactory.Source
