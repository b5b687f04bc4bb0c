import NavFactory.TypeRef
import NavFactory.Sorted

/-!
# Import tables

The names under which a generated module refers to the types it imports.  A name is handed out once and for all;
a type whose own name is taken is imported under an alias made from its module.
-/

namespace NavFactory

/-- Local names of imported types, in the order of their first use, and all names that are taken. -/
structure ImportTable where
  aliases : List (TypeRef × String) := []
  taken : List String := []
deriving DecidableEq

namespace ImportTable

/-- No imports yet; some names are taken from the start. -/
def reserving (names : List String) : ImportTable := ⟨[], names⟩

/-- Appends the numbers from `counter` on to a name until it is free; `fuel` bounds the tries. -/
def numberedAlias (taken : List String) (base : String) : Nat → Nat → String
  | 0, counter => base ++ toString counter
  | fuel + 1, counter =>
    let name := base ++ toString counter
    if taken.contains name then numberedAlias taken base fuel (counter + 1) else name

/-- The name of a module with underscores for its dots. -/
def flatModule (module : String) : String := module.map fun c => if c == '.' then '_' else c

/-- The name under which a type is imported, given the names that are taken. -/
def localName (taken : List String) (t : TypeRef) : String :=
  if taken.contains t.name then
    let base := flatModule t.module ++ "_" ++ t.name
    if taken.contains base then numberedAlias taken base taken.length 2 else base
  else t.name

/-- The local name of a type, and the table in which it has that name. -/
def use (table : ImportTable) (t : TypeRef) : String × ImportTable :=
  if t.isBuiltin then (t.name, table)
  else
    match table.aliases.lookup t with
    | some name => (name, table)
    | none =>
      let name := localName table.taken t
      (name, ⟨table.aliases ++ [(t, name)], name :: table.taken⟩)

/-- Local names of several types, handed out one after the other. -/
def useAll (table : ImportTable) : List TypeRef → List String × ImportTable
  | [] => ([], table)
  | t :: rest =>
    let (name, table) := table.use t
    let (names, table) := table.useAll rest
    (name :: names, table)

/-- Whether a type has been imported. -/
def holds (table : ImportTable) (t : TypeRef) : Bool := (table.aliases.lookup t).isSome

/-- A type in an import line. -/
def entry (t : TypeRef) (name : String) : String := if name == t.name then name else t.name ++ " as " ++ name

/-- The modules that types are imported from, in order. -/
def modules (table : ImportTable) : List String := sortTexts (dedupe (table.aliases.map (·.1.module)))

/-- The import line of one module. -/
def line (table : ImportTable) (module : String) : String :=
  let entries := (table.aliases.filter (·.1.module == module)).map fun (t, name) => entry t name
  "from " ++ module ++ " import " ++ ", ".intercalate (sortTexts entries)

/-- The import lines, one for each module. -/
def lines (table : ImportTable) : List String := table.modules.map table.line

end ImportTable

end NavFactory
