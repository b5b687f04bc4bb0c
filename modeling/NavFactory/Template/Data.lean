import NavFactory.ModuleText

/-!
# Data of templates

What the expressions of a template refer to.
-/

namespace NavFactory.Template

/-- A value that a template shows or walks through. -/
inductive Data
  | none
  | bool (b : Bool)
  | number (n : Int)
  | text (s : String)
  | list (items : List Data)
  | record (fields : List (String × Data))

namespace Data

/-- Whether a value counts as true. -/
def isTrue : Data → Bool
  | none => false
  | bool b => b
  | number n => n != 0
  | text s => !s.isEmpty
  | list items => !items.isEmpty
  | record _ => true

/-- A value in the output. -/
def shown : Data → String
  | none => "None"
  | bool b => if b then "True" else "False"
  | number n => toString n
  | text s => s
  | list _ => ""
  | record _ => ""

/-- The field of a record. -/
def field? (name : String) : Data → Option Data
  | record fields => fields.lookup name
  | _ => Option.none

def ofMethod (m : Method) : Data :=
  record [("name", text m.name), ("returns", text m.returns), ("render_signature", text m.signature),
    ("statements", list (m.statements.map text)),
    ("docstring", match m.docstring with
      | some s => text s
      | Option.none => none)]

def ofContainer (c : Container) : Data :=
  record [("kind", text c.kind), ("name", text c.name), ("module", text c.module), ("docstring", text c.docstring),
    ("filename", text c.fileName), ("methods", list (c.methods.map ofMethod)),
    ("method_names", list (c.methodNames.map text)),
    ("imports", record [("lines", list (c.imports.lines.map text))])]

/-- What the template of a container can refer to. -/
def containerScope (c : Container) : List (String × Data) :=
  [("header", text generatedHeader), ("container", ofContainer c), ("import_lines", list (c.imports.lines.map text))]

/-- What the template of the package can refer to. -/
def packageScope (containers : List Container) : List (String × Data) :=
  [("header", text generatedHeader), ("containers", list (containers.map ofContainer))]

end Data

end NavFactory.Template
