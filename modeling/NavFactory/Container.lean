import NavFactory.ImportTable

/-!
# Containers

A container is a generated class of static methods, described apart from the text that it is written as.
-/

namespace NavFactory

/-- An argument of a generated method. -/
structure Parameter where
  name : String
  typeText : String
  default : Option String := none
  keywordOnly : Bool := false
deriving DecidableEq

/-- An argument as a signature shows it. -/
def Parameter.text (p : Parameter) : String :=
  p.name ++ ": " ++ p.typeText ++ (match p.default with
    | some value => " = " ++ value
    | none => "")

/-- A static method of a generated class. -/
structure Method where
  name : String
  returns : String
  parameters : List Parameter := []
  statements : List String := []
  docstring : Option String := none
deriving DecidableEq

/-- The arguments as a signature shows them, with a star in front of the first that is passed by keyword only. -/
def signatureParts (starred : Bool) : List Parameter → List String
  | [] => []
  | p :: rest =>
    if p.keywordOnly && !starred then "*" :: p.text :: signatureParts true rest
    else p.text :: signatureParts starred rest

/-- The arguments between the parentheses of a signature. -/
def Method.signature (m : Method) : String := ", ".intercalate (signatureParts false m.parameters)

/-- A generated module with the class that it holds. -/
structure Container where
  kind : String
  name : String
  module : String
  docstring : String
  imports : ImportTable
  methods : List Method := []
deriving DecidableEq

namespace Container

def fileName (c : Container) : String := c.module ++ ".py"

def methodNames (c : Container) : List String := c.methods.map (·.name)

end Container

end NavFactory
