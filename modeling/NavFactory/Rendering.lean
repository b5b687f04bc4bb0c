import NavFactory.ModuleText
import NavFactory.Source.Check
import NavFactory.Template.Fill

/-!
# Rendering

The text of generated files, from templates where the user gives some.  Each text is checked before it is used, so
that no file that the interpreter would refuse is ever written.
-/

namespace NavFactory

/-- Templates that replace the built-in texts. -/
structure Templates where
  container : Option String := none
  package : Option String := none
deriving DecidableEq

/-- Why a file has no text. -/
inductive RenderFault
  /-- A template gives no text. -/
  | template (fileName detail : String)
  /-- The text of a file is not a module; a line of it is wrong. -/
  | invalid (fileName : String) (line : Nat)
  /-- The text of a file holds a null character. -/
  | nullCharacter
deriving DecidableEq

def RenderFault.message : RenderFault → String
  | template fileName detail => "Failed to render " ++ fileName ++ ": " ++ detail
  | invalid fileName line =>
    "Rendered " ++ fileName ++ " is not valid Python: invalid syntax (line " ++ toString line ++ ")"
  | nullCharacter => "source code string cannot contain null bytes"

/-- A text that is checked, with one line break at its end. -/
def checkedText (fileName : String) (text : String) : Except RenderFault String :=
  let text := closeText text
  match Source.checkModule text with
  | .ok () => .ok text
  | .error (.malformed line) => .error (.invalid fileName line)
  | .error .nullCharacter => .error .nullCharacter

/-- The text of a template, or the built-in one if there is none. -/
def templateText (fileName : String) (template : Option String) (scope : List (String × Template.Data))
    (builtin : List String) : Except RenderFault String :=
  match template with
  | none => .ok (linesText builtin)
  | some source => match Template.fill source scope with
    | .ok text => .ok text
    | .error fault => .error (.template fileName fault.message)

/-- The text of the module of a container. -/
def renderContainer (templates : Templates) (c : Container) : Except RenderFault String := do
  checkedText c.fileName
    (← templateText c.fileName templates.container (Template.Data.containerScope c) (containerLines c))

/-- The file that makes a directory a package. -/
def packageFileName : String := "__init__.py"

/-- The text of the package that exports containers. -/
def renderPackage (templates : Templates) (containers : List Container) : Except RenderFault String := do
  checkedText packageFileName
    (← templateText packageFileName templates.package (Template.Data.packageScope containers)
      (packageLines containers))

end NavFactory
