import NavFactory.Source.Grammar.Statement

/-!
# Modules

The statements of a whole source text.
-/

namespace NavFactory.Source

/-- The rule of an entry. -/
def Rules.rule (r : Rules) : (e : Entry) → Parser e.Result
  | .expression => r.expressionRule
  | .disjunction => r.disjunctionRule
  | .operand => r.bitwiseOr
  | .inversion => r.inversionRule
  | .factor => r.factorRule
  | .atom => r.atom
  | .pattern => r.patternRule
  | .block => r.blockRule

/-- The parsers of all entries for a nesting depth. -/
def parseEntry : Nat → Reading → (e : Entry) → Parser e.Result
  | 0, _, _ => fun _ => .error .exhausted
  | fuel + 1, reading, e => Rules.rule ⟨fuel, reading, parseEntry fuel⟩ e

/-- The rules for texts of a given length: no text nests deeper than it has characters, and each level of nesting
takes few entries. -/
def rulesFor (length : Nat) : Rules :=
  let fuel := 8 * length + 64
  ⟨fuel, .full, parseEntry fuel⟩

/-- Why a text is not a module. -/
inductive SourceFault
  /-- The text is malformed on a line. -/
  | malformed (line : Nat)
  /-- The text holds a null character. -/
  | nullCharacter
deriving DecidableEq

/-- The statements of a text. -/
def parseModule (text : String) : Except SourceFault (List Stmt) :=
  let cs := text.toList
  if cs.contains '\x00' then .error .nullCharacter
  else
    let (tokens, finish) := tokenize cs
    match (rulesFor cs.length).statements .finish tokens with
    | .ok (body, _) => .ok body
    | .error f => .error (.malformed (f.line tokens finish))

end NavFactory.Source
