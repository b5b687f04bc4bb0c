import NavFactory.Source.Tree
import NavFactory.Text.Parts
import NavFactory.TypeRef

/-!
# Names of a module

What the names at the top level of a module refer to: imported objects, imported modules, its own classes and the
classes that are in scope everywhere.
-/

namespace NavFactory

open Source

/-- The classes that are in scope in every module. -/
def builtinClasses : List String :=
  ["ArithmeticError", "AssertionError", "AttributeError", "BaseException", "BaseExceptionGroup", "BlockingIOError",
    "BrokenPipeError", "BufferError", "BytesWarning", "ChildProcessError", "ConnectionAbortedError",
    "ConnectionError", "ConnectionRefusedError", "ConnectionResetError", "DeprecationWarning", "EOFError",
    "EncodingWarning", "EnvironmentError", "Exception", "ExceptionGroup", "FileExistsError", "FileNotFoundError",
    "FloatingPointError", "FutureWarning", "GeneratorExit", "IOError", "ImportError", "ImportWarning",
    "IndentationError", "IndexError", "InterruptedError", "IsADirectoryError", "KeyError", "KeyboardInterrupt",
    "LookupError", "MemoryError", "ModuleNotFoundError", "NameError", "NotADirectoryError", "NotImplementedError",
    "OSError", "OverflowError", "PendingDeprecationWarning", "PermissionError", "ProcessLookupError",
    "RecursionError", "ReferenceError", "ResourceWarning", "RuntimeError", "RuntimeWarning", "StopAsyncIteration",
    "StopIteration", "SyntaxError", "SyntaxWarning", "SystemError", "SystemExit", "TabError", "TimeoutError",
    "TypeError", "UnboundLocalError", "UnicodeDecodeError", "UnicodeEncodeError", "UnicodeError",
    "UnicodeTranslateError", "UnicodeWarning", "UserWarning", "ValueError", "Warning", "ZeroDivisionError",
    "__loader__", "bool", "bytearray", "bytes", "classmethod", "complex", "dict", "enumerate", "filter", "float",
    "frozenset", "int", "list", "map", "memoryview", "object", "property", "range", "reversed", "set", "slice",
    "staticmethod", "str", "super", "tuple", "type", "zip"]

/-- A dotted path as the list of its parts. -/
abbrev DottedPath := List String

namespace DottedPath

/-- The parts of a text between its dots. -/
def ofText (s : String) : DottedPath := Text.parts '.' s

/-- The parts with dots between them. -/
def text (p : DottedPath) : String := ".".intercalate p

end DottedPath

/-- The package of a module: the module itself if it is a package, and what it is in otherwise. -/
def packageOf (module : String) (isPackage : Bool) : DottedPath :=
  let parts := if module.isEmpty then [] else DottedPath.ofText module
  if isPackage then parts else parts.dropLast

/-- The module that a relative import names, if it is not above the outermost package. -/
def importOrigin (package : DottedPath) (level : Nat) (module : Option String) : Option String :=
  if level == 0 then module
  else if package.length < level - 1 then none
  else
    match package.take (package.length - (level - 1)) ++ module.toList with
    | [] => none
    | parts => some (DottedPath.text parts)

/-- The names of a module; of several bindings of a name the last counts. -/
structure Scope where
  module : String
  package : DottedPath
  /-- Imported objects by name, the latest first. -/
  symbols : List (String × String) := []
  /-- Imported modules by name, the latest first. -/
  modules : List (String × String) := []
  classes : List String := []

namespace Scope

/-- Binds the modules of an import statement. -/
def importModules (s : Scope) (names : List ImportedName) : Scope :=
  names.foldl (fun s n => match n.alias? with
    | some id => { s with modules := (id, n.name) :: s.modules }
    | none =>
      let head := (DottedPath.ofText n.name).headD ""
      { s with modules := (head, head) :: s.modules }) s

/-- Binds the objects that an import statement takes from a module. -/
def importObjects (s : Scope) (origin : String) (names : List ImportedName) : Scope :=
  names.foldl (fun s n => { s with symbols := (n.alias?.getD n.name, origin ++ "." ++ n.name) :: s.symbols }) s

/-- Binds what a statement at the top level binds. -/
def bind (s : Scope) : Stmt → Scope
  | .import_ _ names => s.importModules names
  | .importFrom _ level module names =>
    match importOrigin s.package level module with
    | some origin => s.importObjects origin (names.getD [])
    | none => s
  | .classDef _ name .. => { s with classes := name :: s.classes }
  | _ => s

/-- The names of a module with given statements. -/
def ofModule (module : String) (isPackage : Bool) (body : List Stmt) : Scope :=
  body.foldl bind { module := module, package := packageOf module isPackage }

end Scope

/-- The name and attributes that an expression is made of; nothing for any other expression. -/
def attributeChain : Expr → DottedPath
  | .name _ id => [id]
  | .attribute _ value id =>
    match attributeChain value with
    | [] => []
    | parts => parts ++ [id]
  | _ => []

namespace Scope

/-- The full path of what an expression refers to, if it is known. -/
def qualify (s : Scope) (e : Expr) : Option String :=
  match attributeChain e with
  | [] => none
  | head :: rest =>
    match s.symbols.lookup head with
    | some path => some (DottedPath.text (path :: rest))
    | none =>
      match s.modules.lookup head with
      | some path => some (DottedPath.text (path :: rest))
      | none =>
        if !rest.isEmpty then none
        else if s.classes.contains head then some (s.module ++ "." ++ head)
        else if builtinClasses.contains head then some (builtinModule ++ "." ++ head)
        else none

/-- A path cut at its last dot, if it has one. -/
def splitLast (path : String) : Option (String × String) :=
  match (DottedPath.ofText path).reverse with
  | last :: before :: rest => some (DottedPath.text (before :: rest).reverse, last)
  | _ => none

/-- The type that an expression refers to, if it is known. -/
def typeRef (s : Scope) (e : Expr) : Option TypeRef :=
  ((s.qualify e).bind splitLast).map fun (module, name) => ⟨module, name⟩

end Scope

end NavFactory
