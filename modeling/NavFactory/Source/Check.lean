import NavFactory.Source.Module

/-!
# Statements in their places

Rules that hold for a module as a whole although each of its statements is well formed: names of parameters differ,
`return` stands in a function and `break` in a loop, names are declared before they are used, and features of the
language are asked for at the start.  `misplacedLine` gives the line of the first violation.
-/

namespace NavFactory.Source

/-- What surrounds a statement or expression. -/
structure Surroundings where
  inFunction : Bool := false
  isAsync : Bool := false
  inClass : Bool := false
  inLoop : Bool := false
  /-- The innermost scope is a comprehension. -/
  inComprehension : Bool := false
  /-- Some scope outside the innermost is a function. -/
  belowFunction : Bool := false
  /-- The name of the innermost class. -/
  className? : Option String := none
deriving DecidableEq

namespace Surroundings

/-- The body of a function. -/
def function (s : Surroundings) (isAsync : Bool) : Surroundings where
  inFunction := true
  isAsync := isAsync
  belowFunction := s.belowFunction || s.inFunction
  className? := s.className?

/-- The body of a class. -/
def classBody (s : Surroundings) (name : String) : Surroundings where
  inClass := true
  belowFunction := s.belowFunction || s.inFunction
  className? := some name

/-- The parts of a comprehension. -/
def comprehension (s : Surroundings) : Surroundings := { s with inComprehension := true }

def loop (s : Surroundings) : Surroundings := { s with inLoop := true }

/-- A name as the scopes know it: inside a class, one that starts with two underscores and does not end so belongs to
the class. -/
def privateName (s : Surroundings) (name : String) : String :=
  match s.className? with
  | none => name
  | some className =>
    let owner := className.toList.dropWhile (· == '_')
    if owner.isEmpty || !"__".toList.isPrefixOf name.toList || "__".toList.isSuffixOf name.toList then name
    else String.ofList ('_' :: owner ++ name.toList)

end Surroundings

/-- A name that cannot be bound. -/
def isForbidden (name : String) : Bool := name == "__debug__"

/-- A line, if a rule is violated. -/
def violation (violated : Bool) (line : Nat) : Option Nat := if violated then some line else none

/-- The first line of several. -/
private def firstOf (lines : List (Option Nat)) : Option Nat := lines.findSome? id

/-- The name that occurs a second time, with its line. -/
def repeatedName (seen : List String) : List (Nat × String) → Option Nat
  | [] => none
  | (line, name) :: rest => if seen.contains name then some line else repeatedName (name :: seen) rest

/-- The name of a parameter with its line. -/
def Argument.named : Argument → Nat × String
  | .mk line name _ _ => (line, name)

/-- All parameters of a function. -/
def Parameters.all : Parameters → List Argument
  | .mk positionalOnly regular rest keywordOnly keywords =>
    positionalOnly ++ regular ++ keywordOnly ++ rest.toList ++ keywords.toList

/-- The names of all parameters with their lines. -/
def Parameters.names (p : Parameters) : List (Nat × String) := p.all.map Argument.named

private def isStar : Expr → Bool
  | .starred .. => true
  | _ => false

/-- The number of starred items. -/
def stars (items : List Expr) : Nat := (items.filter isStar).length

private def Clause.isAsync : Clause → Bool
  | .mk isAsync .. => isAsync

/-- A list, set or dictionary whose loops wait for something stands in a function that may wait. -/
def asyncLine (s : Surroundings) (line : Nat) (loops : List Clause) : Option Nat :=
  violation (loops.any Clause.isAsync && !(s.inFunction && s.isAsync)) line

/-- The line of the first violation in the names of parameters. -/
def namesLine (s : Surroundings) (p : Parameters) : Option Nat :=
  repeatedName [] (p.names.map fun (line, name) => (line, s.privateName name))

/-- What an expression is used for. -/
inductive Role
  | value
  /-- An item of a display or call, where a star may stand. -/
  | item
  | target
  /-- An item of a target, where a star may stand. -/
  | targetItem
deriving DecidableEq

namespace Role

def isTarget : Role → Bool
  | value => false
  | item => false
  | target => true
  | targetItem => true

/-- The role of what stands behind a star. -/
def behindStar? : Role → Option Role
  | value => none
  | item => some value
  | target => none
  | targetItem => some target

end Role

mutual

/-- The line of the first violation in an expression. -/
def exprLine (s : Surroundings) (role : Role) : Expr → Option Nat
  | .name line id => violation (role.isTarget && isForbidden id) line
  | .constant .. => none
  | .format _ pieces => piecesLine s pieces
  | .attribute line value id =>
    (exprLine s .value value).or (violation (role.isTarget && isForbidden id) line)
  | .subscript _ value index => (exprLine s .value value).or (exprLine s .value index)
  | .call line function arguments keywords =>
    (exprLine s .value function).or <|
      (repeatedName [] (keywords.filterMap fun (id, e) => id.map (e.line, ·))).or <|
        (violation (keywords.any fun (id, _) => id.any isForbidden) line).or <|
          (exprsLine s .item arguments).or (keywordsLine s keywords)
  | .starred line e =>
    match role.behindStar? with
    | none => some line
    | some inner => exprLine s inner e
  | .unary _ _ e => exprLine s .value e
  | .binary _ _ l r => (exprLine s .value l).or (exprLine s .value r)
  | .conjunction _ es => exprsLine s .value es
  | .disjunction _ es => exprsLine s .value es
  | .compare _ l rest => (exprLine s .value l).or (comparisonsLine s rest)
  | .conditional _ test yes no =>
    (exprLine s .value test).or <| (exprLine s .value yes).or (exprLine s .value no)
  | .lambda line parameters body =>
    (namesLine s parameters).or <|
      (violation (parameters.names.any fun p => isForbidden p.2) line).or <|
        (parametersLine s parameters).or (exprLine (s.function false) .value body)
  | .list line items =>
    if role.isTarget then (violation (1 < stars items) line).or (exprsLine s .targetItem items)
    else exprsLine s .item items
  | .tuple line items =>
    if role.isTarget then (violation (1 < stars items) line).or (exprsLine s .targetItem items)
    else exprsLine s .item items
  | .set _ items => exprsLine s .item items
  | .dict _ entries => entriesLine s entries
  | .listOf line item loops =>
    (asyncLine s line loops).or <| (clausesLine s loops).or (exprLine s.comprehension .value item)
  | .setOf line item loops =>
    (asyncLine s line loops).or <| (clausesLine s loops).or (exprLine s.comprehension .value item)
  | .generator _ item loops => (clausesLine s loops).or (exprLine s.comprehension .value item)
  | .dictOf line key value loops =>
    (asyncLine s line loops).or <| (clausesLine s loops).or <|
      (exprLine s.comprehension .value key).or (exprLine s.comprehension .value value)
  | .slice _ lower upper step =>
    (optionalLine s .value lower).or <| (optionalLine s .value upper).or (optionalLine s .value step)
  | .await line value => (violation (!s.inFunction || !s.isAsync) line).or (exprLine s .value value)
  | .yield line value =>
    (violation (!s.inFunction || s.inComprehension) line).or (optionalLine s .value value)
  | .yieldFrom line value =>
    (violation (!s.inFunction || s.inComprehension || s.isAsync) line).or (exprLine s .value value)
  | .assigned line name value =>
    (violation (isForbidden name || (s.inComprehension && s.inClass)) line).or (exprLine s .value value)

def exprsLine (s : Surroundings) (role : Role) : List Expr → Option Nat
  | [] => none
  | e :: rest => (exprLine s role e).or (exprsLine s role rest)

def optionalLine (s : Surroundings) (role : Role) : Option Expr → Option Nat
  | none => none
  | some e => exprLine s role e

def keywordsLine (s : Surroundings) : List (Option String × Expr) → Option Nat
  | [] => none
  | (_, e) :: rest => (exprLine s .value e).or (keywordsLine s rest)

def entriesLine (s : Surroundings) : List (Option Expr × Expr) → Option Nat
  | [] => none
  | (k, e) :: rest => (optionalLine s .value k).or <| (exprLine s .value e).or (entriesLine s rest)

def comparisonsLine (s : Surroundings) : List (Comparison × Expr) → Option Nat
  | [] => none
  | (_, e) :: rest => (exprLine s .value e).or (comparisonsLine s rest)

def piecesLine (s : Surroundings) : List Piece → Option Nat
  | [] => none
  | .text _ :: rest => piecesLine s rest
  | .field e _ spec :: rest => (exprLine s .value e).or <| (specLine s spec).or (piecesLine s rest)

/-- The pieces that say how a field is shown. -/
def specLine (s : Surroundings) : Option (List Piece) → Option Nat
  | none => none
  | some pieces => piecesLine s pieces

def clausesLine (s : Surroundings) : List Clause → Option Nat
  | [] => none
  | .mk _ target source conditions :: rest =>
    (exprLine s .target target).or <| (exprLine s .value source).or <|
      (exprsLine s.comprehension .value conditions).or (clausesLine s rest)

/-- The line of the first violation in the types and defaults of parameters.  A type may have a star in front. -/
def argumentsLine (s : Surroundings) : List Argument → Option Nat
  | [] => none
  | .mk _ _ hint default :: rest =>
    (optionalLine s .value default).or <| (optionalLine s .item hint).or (argumentsLine s rest)

def argumentLine (s : Surroundings) : Option Argument → Option Nat
  | none => none
  | some (.mk _ _ hint default) => (optionalLine s .value default).or (optionalLine s .item hint)

def parametersLine (s : Surroundings) : Parameters → Option Nat
  | .mk positionalOnly regular rest keywordOnly keywords =>
    (argumentsLine s positionalOnly).or <| (argumentsLine s regular).or <| (argumentLine s rest).or <|
      (argumentsLine s keywordOnly).or (argumentLine s keywords)

end

/-! ### Features -/

/-- The features that can be asked for. -/
def featureNames : List String :=
  ["nested_scopes", "generators", "division", "absolute_import", "with_statement", "print_function",
    "unicode_literals", "barry_as_FLUFL", "generator_stop", "annotations"]

/-- The module of features. -/
def featureModule : String := "__future__"

/-- Whether an expression is a text by itself. -/
def isText : Expr → Bool
  | .constant _ (.text ..) => true
  | _ => false

/-- The line of the first unknown feature, with the statements behind the requests for features. -/
def featuresLine (atStart : Bool) : List Stmt → Option Nat × List Stmt
  | .importFrom line 0 (some module) names :: rest =>
    if module == featureModule then
      if (names.getD [⟨"*", none⟩]).all fun n => featureNames.contains n.name then featuresLine false rest
      else (some line, rest)
    else (none, .importFrom line 0 (some module) names :: rest)
  | .expression line e :: rest =>
    if atStart && isText e then featuresLine false rest else (none, .expression line e :: rest)
  | body => (none, body)

/-! ### Statements -/

mutual

/-- The line of the first violation in a statement. -/
def stmtLine (s : Surroundings) : Stmt → Option Nat
  | .expression _ e => exprLine s .value e
  | .assign _ targets value => (exprLine s .value value).or (exprsLine s .target targets)
  | .augmented _ target _ value => (exprLine s .value value).or (exprLine s .target target)
  | .annotated _ target hint value =>
    (optionalLine s .value value).or <| (exprLine s .value hint).or (exprLine s .target target)
  | .return_ line value =>
    (violation (!s.inFunction) line).or (match value with
      | some e => exprLine s .value e
      | none => none)
  | .raise _ e cause => (optionalLine s .value e).or (optionalLine s .value cause)
  | .global line names => violation (names.any isForbidden) line
  | .nonlocal line _ => violation (!s.inFunction && !s.belowFunction) line
  | .delete _ targets => exprsLine s .targetItem targets
  | .assert _ test message => (exprLine s .value test).or (optionalLine s .value message)
  | .import_ line names => violation (names.any fun n => isForbidden (n.alias?.getD n.name)) line
  | .importFrom line level module names =>
    match names with
    | none => violation (s.inFunction || s.inClass) line
    | some names =>
      violation ((level == 0 && module == some featureModule) || names.any fun n => isForbidden (n.alias?.getD n.name))
        line
  | .pass _ => none
  | .break_ line => violation (!s.inLoop) line
  | .continue_ line => violation (!s.inLoop) line
  | .if_ _ test body orElse => (exprLine s .value test).or <| (stmtsLine s body).or (stmtsLine s orElse)
  | .while_ _ test body orElse => (exprLine s .value test).or <| (stmtsLine s.loop body).or (stmtsLine s orElse)
  | .for_ line isAsync target source body orElse =>
    (violation (isAsync && !(s.inFunction && s.isAsync)) line).or <| (exprLine s .value source).or <|
      (exprLine s .target target).or <| (stmtsLine s.loop body).or (stmtsLine s orElse)
  | .with_ line isAsync resources body =>
    (violation (isAsync && !(s.inFunction && s.isAsync)) line).or <|
      (firstOf (resources.map fun r => (exprLine s .value r.value).or (optionalLine s .target r.target))).or
        (stmtsLine s body)
  | .try_ _ body handlers orElse finally_ =>
    (stmtsLine s body).or <| (handlersLine s handlers).or <| (stmtsLine s orElse).or (stmtsLine s finally_)
  | .match_ _ subject cases => (exprLine s .value subject).or (casesLine s cases)
  | .function line isAsync name parameters returns body decorators =>
    (namesLine s parameters).or <|
      (violation (isForbidden name || parameters.names.any fun p => isForbidden p.2) line).or <|
        (exprsLine s .value decorators).or <| (parametersLine s parameters).or <| (optionalLine s .value returns).or
          (stmtsLine (s.function isAsync) body)
  | .classDef line name bases keywords body decorators =>
    (exprsLine s .value decorators).or <| (stmtsLine (s.classBody name) body).or <|
      (repeatedName [] (keywords.filterMap fun (id, e) => id.map (e.line, ·))).or <|
        (exprsLine s .item bases).or <| (keywordsLine s keywords).or (violation (isForbidden name) line)

/-- The line of the first violation in several statements. -/
def stmtsLine (s : Surroundings) : List Stmt → Option Nat
  | [] => none
  | statement :: rest => (stmtLine s statement).or (stmtsLine s rest)

/-- Handlers, of which only the last may be for all exceptions. -/
def handlersLine (s : Surroundings) : List Handler → Option Nat
  | [] => none
  | .mk line _ type name body :: rest =>
    (violation (type.isNone && !rest.isEmpty) line).or <| (optionalLine s .value type).or <|
      (violation (name.any isForbidden) line).or <| (stmtsLine s body).or (handlersLine s rest)

def casesLine (s : Surroundings) : List Case → Option Nat
  | [] => none
  | .mk _ guard body :: rest => (optionalLine s .value guard).or <| (stmtsLine s body).or (casesLine s rest)

end

/-- The line of the first violation in a module. -/
def misplacedLine (body : List Stmt) : Option Nat :=
  let (unknown, rest) := featuresLine true body
  unknown.or (stmtsLine {} rest)

/-- Whether a text is a module, all statements of which are in their places. -/
def checkModule (text : String) : Except SourceFault Unit :=
  match parseModule text with
  | .error e => .error e
  | .ok body => match misplacedLine body with
    | some line => .error (.malformed line)
    | none => .ok ()

end NavFactory.Source
