import NavFactory.Number.Double

/-!
# Syntax trees

Expressions, patterns and statements of the source language.  Every expression knows the line on which it starts;
parentheses leave no trace except in that line.
-/

namespace NavFactory.Source

open Number (Double)

/-- A literal that stands for itself. -/
inductive Constant
  | none
  | bool (b : Bool)
  | ellipsis
  | int (n : Nat)
  | real (x : Double)
  | imaginary (x : Double)
  /-- A text, and whether a letter marks it as one. -/
  | text (s : String) (marked : Bool)
  | bytes (bs : List UInt8)
deriving DecidableEq

inductive UnaryOperator
  | plus
  | minus
  | invert
  | negate
deriving DecidableEq

inductive BinaryOperator
  | add
  | sub
  | mult
  | matMult
  | div
  | mod
  | pow
  | leftShift
  | rightShift
  | bitOr
  | bitXor
  | bitAnd
  | floorDiv
deriving DecidableEq

inductive Comparison
  | equal
  | notEqual
  | less
  | lessEqual
  | greater
  | greaterEqual
  | is
  | isNot
  | isIn
  | notIn
deriving DecidableEq

/-- How a value in a formatted string is turned into text. -/
inductive Conversion
  | str
  | repr
  | ascii
deriving DecidableEq

mutual

/-- An expression; the first argument is its line. -/
inductive Expr
  | name (line : Nat) (id : String)
  | constant (line : Nat) (c : Constant)
  | format (line : Nat) (parts : List Piece)
  | attribute (line : Nat) (value : Expr) (name : String)
  | subscript (line : Nat) (value index : Expr)
  | call (line : Nat) (function : Expr) (arguments : List Expr) (keywords : List (Option String × Expr))
  | starred (line : Nat) (value : Expr)
  | unary (line : Nat) (op : UnaryOperator) (operand : Expr)
  | binary (line : Nat) (op : BinaryOperator) (left right : Expr)
  | conjunction (line : Nat) (operands : List Expr)
  | disjunction (line : Nat) (operands : List Expr)
  | compare (line : Nat) (left : Expr) (rest : List (Comparison × Expr))
  | conditional (line : Nat) (test yes no : Expr)
  | lambda (line : Nat) (parameters : Parameters) (body : Expr)
  | list (line : Nat) (items : List Expr)
  | tuple (line : Nat) (items : List Expr)
  | set (line : Nat) (items : List Expr)
  /-- An entry without a key spreads its value. -/
  | dict (line : Nat) (entries : List (Option Expr × Expr))
  | listOf (line : Nat) (item : Expr) (clauses : List Clause)
  | setOf (line : Nat) (item : Expr) (clauses : List Clause)
  | generator (line : Nat) (item : Expr) (clauses : List Clause)
  | dictOf (line : Nat) (key value : Expr) (clauses : List Clause)
  | slice (line : Nat) (lower upper step : Option Expr)
  | await (line : Nat) (value : Expr)
  | yield (line : Nat) (value : Option Expr)
  | yieldFrom (line : Nat) (value : Expr)
  | assigned (line : Nat) (name : String) (value : Expr)

/-- A piece of a formatted string. -/
inductive Piece
  | text (s : String)
  | field (value : Expr) (conversion : Option Conversion) (spec : Option (List Piece))

/-- A loop of a comprehension, with its conditions. -/
inductive Clause
  | mk (isAsync : Bool) (target source : Expr) (conditions : List Expr)

/-- A parameter of a function. -/
inductive Argument
  | mk (line : Nat) (name : String) (hint : Option Expr) (default : Option Expr)

/-- The parameters of a function. -/
inductive Parameters
  | mk (positionalOnly regular : List Argument) (rest : Option Argument) (keywordOnly : List Argument)
    (keywords : Option Argument)

end

/-- The line on which an expression starts. -/
def Expr.line : Expr → Nat
  | .name n .. | .constant n .. | .format n .. | .attribute n .. | .subscript n .. | .call n .. | .starred n ..
  | .unary n .. | .binary n .. | .conjunction n .. | .disjunction n .. | .compare n .. | .conditional n ..
  | .lambda n .. | .list n .. | .tuple n .. | .set n .. | .dict n .. | .listOf n .. | .setOf n .. | .generator n ..
  | .dictOf n .. | .slice n .. | .await n .. | .yield n .. | .yieldFrom n .. | .assigned n .. => n

/-- A pattern of a case. -/
inductive Pattern
  | value (e : Expr)
  | capture (name : Option String)
  | as (pattern : Pattern) (name : String)
  | alternatives (patterns : List Pattern)
  | sequence (items : List Pattern)
  /-- The rest of a sequence. -/
  | star (name : Option String)
  | mapping (entries : List (Expr × Pattern)) (rest : Option String)
  | classOf (type : Expr) (positional : List Pattern) (keywords : List (String × Pattern))

/-- A name that an import gives, with its alias. -/
structure ImportedName where
  name : String
  alias? : Option String := none
deriving DecidableEq

/-- The resource of a `with` statement, with its target. -/
structure Resource where
  value : Expr
  target : Option Expr

mutual

/-- A statement; the first argument is its line. -/
inductive Stmt
  | expression (line : Nat) (value : Expr)
  | assign (line : Nat) (targets : List Expr) (value : Expr)
  | augmented (line : Nat) (target : Expr) (op : BinaryOperator) (value : Expr)
  | annotated (line : Nat) (target hint : Expr) (value : Option Expr)
  | return_ (line : Nat) (value : Option Expr)
  | raise (line : Nat) (exception cause : Option Expr)
  | global (line : Nat) (names : List String)
  | nonlocal (line : Nat) (names : List String)
  | delete (line : Nat) (targets : List Expr)
  | assert (line : Nat) (test : Expr) (message : Option Expr)
  | import_ (line : Nat) (names : List ImportedName)
  /-- The names of a module that is `level` packages above; no names stand for a star. -/
  | importFrom (line : Nat) (level : Nat) (module : Option String) (names : Option (List ImportedName))
  | pass (line : Nat)
  | break_ (line : Nat)
  | continue_ (line : Nat)
  | if_ (line : Nat) (test : Expr) (body orElse : List Stmt)
  | while_ (line : Nat) (test : Expr) (body orElse : List Stmt)
  | for_ (line : Nat) (isAsync : Bool) (target source : Expr) (body orElse : List Stmt)
  | with_ (line : Nat) (isAsync : Bool) (resources : List Resource) (body : List Stmt)
  | try_ (line : Nat) (body : List Stmt) (handlers : List Handler) (orElse finally_ : List Stmt)
  | match_ (line : Nat) (subject : Expr) (cases : List Case)
  | function (line : Nat) (isAsync : Bool) (name : String) (parameters : Parameters) (returns : Option Expr)
      (body : List Stmt) (decorators : List Expr)
  | classDef (line : Nat) (name : String) (bases : List Expr) (keywords : List (Option String × Expr))
      (body : List Stmt) (decorators : List Expr)

/-- A handler of a `try` statement. -/
inductive Handler
  | mk (line : Nat) (star : Bool) (type : Option Expr) (name : Option String) (body : List Stmt)

/-- A case of a `match` statement. -/
inductive Case
  | mk (pattern : Pattern) (guard : Option Expr) (body : List Stmt)

end

end NavFactory.Source
