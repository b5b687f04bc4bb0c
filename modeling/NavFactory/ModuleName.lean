import NavFactory.Text.Identifier
import NavFactory.Text.Parts

/-!
# Module names

The dotted name under which a source file is imported.
-/

namespace NavFactory

/-- The suffix of source files. -/
def sourceSuffix : String := ".py"

/-- The parts of a path between its slashes. -/
def pathParts (path : String) : List String := Text.parts '/' path

/-- The module of a file below a source root, unless a part of its path is no identifier.  A package is the module
of its initial file. -/
def moduleNameOf? (path : String) : Option String :=
  let parts := pathParts (String.ofList (path.toList.take (path.length - sourceSuffix.length)))
  let parts := if parts.getLast? == some "__init__" then parts.dropLast else parts
  if !parts.isEmpty && parts.all Text.isIdentifier then some (".".intercalate parts) else none

end NavFactory
