import NavFactory.Diagnostic
import NavFactory.Scope
import NavFactory.Source.Evaluate
import NavFactory.Source.Module
import NavFactory.Source.Printer

/-!
# Reading declarations

The marked classes and functions at the top level of a module.  Arguments of markers are evaluated without running
the module: types through the names of the module, states by their names, and all else as literals.
-/

namespace NavFactory

open Source

/-- The modules that markers are imported from. -/
def markerModules : List String := ["autotarget.annotation", "autotarget"]

/-- The marker that a full path names. -/
def markerNamed (path : String) : Option String :=
  match Scope.splitLast path with
  | some (module, name) => if markerModules.contains module && markerNames.contains name then some name else none
  | none => none

/-! ### Arguments -/

/-- The names of the arguments that a marker takes by position. -/
def positionalNames (marker : String) : List String := if marker == parameterMarker then ["key", "type"] else []

/-- Why a marker argument has no value. -/
inductive ArgumentFault
  /-- What is wrong with the argument. -/
  | problem (text : String)
  /-- An integer is too large to be added to an imaginary number. -/
  | tooLarge
deriving DecidableEq

/-- A problem that shows an expression. -/
def problemWith (text : String) (e : Expr) : ArgumentFault :=
  match e.text with
  | .ok shown => .problem (text ++ ", got '" ++ shown ++ "'")
  | .error fault => .problem fault.message

/-- The name of the type of states. -/
def stateTypeName : String := "FragmentState"

/-- The state that an expression names, by its type or by its text. -/
def stateValue (e : Expr) : Except ArgumentFault Value :=
  let byName := match (attributeChain e).reverse with
    | member :: type :: _ => if type == stateTypeName then FragmentState.ofName? member else none
    | _ => none
  let byText := match e with
    | .constant _ (.text s _) => FragmentState.ofText? s
    | _ => none
  match byName.or byText with
  | some m => .ok (.state m)
  | none => .error (problemWith ("expected a " ++ stateTypeName ++ " member") e)

/-- The type that an expression refers to. -/
def typeValue (scope : Scope) (e : Expr) : Except ArgumentFault Value :=
  match scope.typeRef e with
  | some t => .ok (.typeRef t)
  | none => match e.text with
    | .ok shown => .error (.problem ("cannot resolve type '" ++ shown ++ "'"))
    | .error fault => .error (.problem fault.message)

/-- The value of an argument of a given name. -/
def argumentValue (scope : Scope) (name : String) (e : Expr) : Except ArgumentFault Value :=
  if name == "type" then typeValue scope e
  else if name == "state" then stateValue e
  else match literalValue e with
    | .ok v => .ok v
    | .error .notLiteral => .error (problemWith "expected a literal" e)
    | .error .tooLarge => .error .tooLarge

/-- Why declarations cannot be read, other than that the text is malformed. -/
inductive ReadFault
  | nullCharacter
  | tooLarge
deriving DecidableEq

def ReadFault.message : ReadFault → String
  | nullCharacter => "source code string cannot contain null bytes"
  | tooLarge => "int too large to convert to float"

/-- Values of arguments with their names, and the errors of those without a value or with a name that came
before. -/
def bindArguments (scope : Scope) (marker : String) (bound : List (String × Value)) (errors : List String) :
    List (String × Expr) → Except ReadFault (List (String × Value) × List String)
  | [] => .ok (bound, errors)
  | (name, e) :: rest =>
    if bound.any (·.1 == name) then
      bindArguments scope marker bound
        (errors ++ ["@" ++ marker ++ " got multiple values for argument '" ++ name ++ "'"]) rest
    else
      match argumentValue scope name e with
      | .ok v => bindArguments scope marker (bound ++ [(name, v)]) errors rest
      | .error (.problem text) =>
        bindArguments scope marker bound (errors ++ ["@" ++ marker ++ " argument '" ++ name ++ "': " ++ text]) rest
      | .error .tooLarge => .error .tooLarge

/-- The errors of arguments that no marker takes. -/
def shapeErrors (marker : String) (positional : List Expr) (keywords : List (Option String × Expr)) : List String :=
  let limit := (positionalNames marker).length
  (if limit < positional.length then
      ["@" ++ marker ++ " accepts at most " ++ toString limit ++ " positional arguments"] else []) ++
    keywords.filterMap fun (name, _) =>
      if name.isNone then some ("@" ++ marker ++ " does not support ** arguments") else none

/-- The arguments of a marker with their values, and what is wrong with them. -/
def readArguments (scope : Scope) (marker : String) (positional : List Expr)
    (keywords : List (Option String × Expr)) : Except ReadFault (List (String × Value) × List String) :=
  let named := (positionalNames marker).zip positional ++ keywords.filterMap fun (name, e) => name.map (·, e)
  bindArguments scope marker [] (shapeErrors marker positional keywords) named

/-! ### Declarations -/

/-- The function that a decorator calls, and its arguments if it is a call. -/
def calledWith : Expr → Expr × Option (List Expr × List (Option String × Expr))
  | .call _ function positional keywords => (function, some (positional, keywords))
  | e => (e, none)

/-- The use of a marker by a decorator, if it is one. -/
def readMarker (scope : Scope) (decorator : Expr) : Except ReadFault (Option Usage) :=
  let (function, call) := calledWith decorator
  match (scope.qualify function).bind markerNamed with
  | none => .ok none
  | some marker =>
    match call with
    | none => .ok (some { marker := marker, line := decorator.line })
    | some (positional, keywords) => do
      let (bound, errors) ← readArguments scope marker positional keywords
      .ok (some ⟨marker, bound, decorator.line, errors⟩)

/-- The uses of markers by decorators, in order. -/
def readMarkers (scope : Scope) : List Expr → Except ReadFault (List Usage)
  | [] => .ok []
  | decorator :: rest => do
    let usage ← readMarker scope decorator
    let usages ← readMarkers scope rest
    .ok (usage.toList ++ usages)

/-- A source file: its path below the source root and the module that it holds. -/
structure SourceName where
  path : String
  module : String
deriving DecidableEq

/-- Whether a path is that of a package. -/
def isPackagePath (path : String) : Bool := "__init__.py".toList.isSuffixOf path.toList

/-- The declaration of a definition, if it carries a marker. -/
def declarationOf (scope : Scope) (source : SourceName) (kind : DeclarationKind) (name : String) (line : Nat)
    (decorators : List Expr) : Except ReadFault (Option Declaration) := do
  let markers ← readMarkers scope decorators
  .ok (if markers.isEmpty then none else some ⟨name, source.module, kind, markers, some source.path, line⟩)

/-- The declaration of a statement, if it is a definition that carries a marker. -/
def readStatement (scope : Scope) (source : SourceName) : Stmt → Except ReadFault (Option Declaration)
  | .function line _ name _ _ _ decorators => declarationOf scope source .function name line decorators
  | .classDef line name _ _ _ decorators => declarationOf scope source .classDefinition name line decorators
  | _ => .ok none

/-- The declarations of several statements, in order. -/
def readStatements (scope : Scope) (source : SourceName) : List Stmt → Except ReadFault (List Declaration)
  | [] => .ok []
  | s :: rest => do
    let found ← readStatement scope source s
    let others ← readStatements scope source rest
    .ok (found.toList ++ others)

/-- The error for a text that is malformed on a line. -/
def malformedSource (source : SourceName) (line : Nat) : Diagnostic :=
  .against .error "Cannot parse source file: invalid syntax" none (some source.path) (some line)

/-- The declarations of a text, and an error if it is malformed. -/
def readSource (text : String) (source : SourceName) : Except ReadFault (List Declaration × List Diagnostic) :=
  match parseModule text with
  | .error .nullCharacter => .error .nullCharacter
  | .error (.malformed line) => .ok ([], [malformedSource source line])
  | .ok body => do
    let scope := Scope.ofModule source.module (isPackagePath source.path) body
    .ok (← readStatements scope source body, [])

end NavFactory
