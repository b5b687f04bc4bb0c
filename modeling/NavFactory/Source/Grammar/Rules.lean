import NavFactory.Source.Grammar.Basic

/-!
# Entries of the grammar

The grammar is a set of rules that call each other.  A rule gets the parsers of the entries that it may come back
to as an argument, together with a bound for its loops; the knot is tied once, for a nesting depth that no text of
a given length exceeds.
-/

namespace NavFactory.Source

/-- The rules to which others come back. -/
inductive Entry
  | expression
  | disjunction
  | operand
  | inversion
  | factor
  | atom
  | pattern
  | block
deriving DecidableEq

/-- What an entry parses. -/
abbrev Entry.Result : Entry → Type
  | .expression => Expr
  | .disjunction => Expr
  | .operand => Expr
  | .inversion => Expr
  | .factor => Expr
  | .atom => Expr
  | .pattern => Pattern
  | .block => List Stmt

/-- How an expression is read. -/
inductive Reading
  /-- A part that cannot be read is a fault. -/
  | full
  /-- The expression ends in front of a part that cannot be read. -/
  | shortened
deriving DecidableEq

/-- The parsers of all entries, and a bound for loops. -/
structure Rules where
  fuel : Nat
  reading : Reading := .full
  parse : Reading → (e : Entry) → Parser e.Result

namespace Rules

def expression (r : Rules) : Parser Expr := r.parse r.reading .expression

/-- The longest expression that the tokens start with. -/
def shortenedExpression (r : Rules) : Parser Expr := r.parse .shortened .expression

/-- The conditions and sources of loops. -/
def disjunction (r : Rules) : Parser Expr := r.parse r.reading .disjunction

/-- What a star may stand before. -/
def operand (r : Rules) : Parser Expr := r.parse r.reading .operand

def inversion (r : Rules) : Parser Expr := r.parse r.reading .inversion

def factor (r : Rules) : Parser Expr := r.parse r.reading .factor

def pattern (r : Rules) : Parser Pattern := r.parse r.reading .pattern

def block (r : Rules) : Parser (List Stmt) := r.parse r.reading .block

/-- A further part of an expression, without which it may end. -/
def part {α : Type} (r : Rules) (without : α) (p : Parser (α × Bool)) : Parser (α × Bool) := fun ts =>
  match p ts, r.reading with
  | .error .exhausted, _ => .error .exhausted
  | .error _, .shortened => .ok ((without, false), ts)
  | result, _ => result

/-- Parts of an expression, one after the other. -/
def parts {α : Type} (r : Rules) (step : α → Parser (α × Bool)) (first : α) : Parser α :=
  Parser.iterate (fun a => r.part a (step a)) r.fuel first

end Rules

/-- Whether a token is a change of the indentation. -/
def Token.isIndentation (t : Token) : Bool := t.kind == .indent || t.kind == .dedent

/-- The fault that a text has, given the fault of its tokens and how they end: a malformed character counts more
than what was read before it, and so does a bracket that is never closed on an earlier line.  But nothing counts
more than a change of the indentation that does not fit. -/
def Fault.line (f : Fault) (tokens : List Token) (finish : LexEnd) : Nat :=
  let reached := tokens[tokens.length - f.left]?
  let within (line opened : Nat) : Nat := if reached.any fun t => t.line ≤ opened then line else opened
  match f, finish with
  | .exhausted, .complete => 0
  | .exhausted, .unclosed line => line
  | .exhausted, .malformed line => line
  | .exhausted, .layout line _ => line
  | .unexpected line _, finish =>
    if reached.any (·.isIndentation) then line
    else overruled line within finish
  | .mistake line _, finish => overruled line within finish
where
  overruled (line : Nat) (within : Nat → Nat → Nat) : LexEnd → Nat
    | .malformed line => line
    | .unclosed opened => within line opened
    | .layout _ (some opened) => within line opened
    | _ => line

end NavFactory.Source
