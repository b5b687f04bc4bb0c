/-!
# Type references

An importable type: the dotted path of its module and its name there.  The module `builtins` needs no import.
-/

namespace NavFactory

/-- An importable reference to a type. -/
structure TypeRef where
  module : String
  name : String
deriving DecidableEq

/-- The module whose names are in scope everywhere. -/
def builtinModule : String := "builtins"

namespace TypeRef

/-- Whether the type is in scope without an import. -/
def isBuiltin (t : TypeRef) : Bool := t.module == builtinModule

/-- The dotted path of the type; a builtin type goes by its name alone. -/
def qualifiedName (t : TypeRef) : String := if t.isBuiltin then t.name else t.module ++ "." ++ t.name

end TypeRef

/-- How a fragment target is placed into its container. -/
inductive FragmentState
  | replace
  | add
deriving DecidableEq

namespace FragmentState

def all : List FragmentState := [replace, add]

/-- The name under which a state is referred to. -/
def name : FragmentState → String
  | replace => "REPLACE"
  | add => "ADD"

/-- The text that a state stands for. -/
def text : FragmentState → String
  | replace => "replace"
  | add => "add"

def ofName? (s : String) : Option FragmentState := all.find? (·.name == s)

def ofText? (s : String) : Option FragmentState := all.find? (·.text == s)

/-- A state as messages show it. -/
def shown (m : FragmentState) : String := "<FragmentState." ++ m.name ++ ": " ++ "'" ++ m.text ++ "'>"

end FragmentState

end NavFactory
