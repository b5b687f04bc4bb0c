import NavFactory.Container
import NavFactory.Text.Blank

/-!
# Text of generated modules

The text of a container and of the package that exports all containers, when no templates replace them.
-/

namespace NavFactory

/-- The first line of every generated file. -/
def generatedHeader : String := "# Generated by autotarget. Do not edit."

/-- A documentation string. -/
def docstringText (s : String) : String := "\"\"\"" ++ s ++ "\"\"\""

/-- A text of lines that end with a break each. -/
def linesText (lines : List String) : String := String.join (lines.map (· ++ "\n"))

/-- The lines of a method, after a blank one. -/
def methodLines (m : Method) : List String :=
  let documentation := match m.docstring with
    | some s => if s.isEmpty then [] else ["        " ++ docstringText s]
    | none => []
  ["", "    @staticmethod", "    def " ++ m.name ++ "(" ++ m.signature ++ ") -> " ++ m.returns ++ ":"] ++
    documentation ++ m.statements.map ("        " ++ ·)

/-- The lines of the module of a container. -/
def containerLines (c : Container) : List String :=
  let imports := c.imports.lines
  [generatedHeader, docstringText c.docstring, "", "from __future__ import annotations"] ++
    (if imports.isEmpty then [] else "" :: imports) ++
    ["", "", "class " ++ c.name ++ ":", "    " ++ docstringText c.docstring] ++
    c.methods.flatMap methodLines

/-- The lines of the package that exports containers. -/
def packageLines (containers : List Container) : List String :=
  [generatedHeader, docstringText "Generated navigation factories.", ""] ++
    containers.map (fun c => "from ." ++ c.module ++ " import " ++ c.name) ++
    ["", "__all__ = ["] ++ containers.map (fun c => "    \"" ++ c.name ++ "\",") ++ ["]"]

/-- A text without blanks at its end, up to one line break. -/
def closeText (s : String) : String := Text.trimRight s ++ "\n"

end NavFactory
