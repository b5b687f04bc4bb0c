import NavFactory.Diagnostic
import NavFactory.Sorted

/-!
# Selection

The classes that carry a marker, one for each name: of several classes of one name the first in the order of
module paths is kept.
-/

namespace NavFactory

/-- A class selected for a marker, with its first use of it. -/
structure Selected where
  declaration : Declaration
  usage : Usage
deriving DecidableEq

namespace Selected

def name (s : Selected) : String := s.declaration.name

def namespaceName (s : Selected) : String := s.declaration.namespaceName

/-- The class as a type that can be imported. -/
def typeRef (s : Selected) : TypeRef := ⟨s.namespaceName, s.name⟩

/-- The order by name and then by module path. -/
def before (a b : Selected) : Bool := a.name < b.name || (a.name == b.name && a.namespaceName < b.namespaceName)

end Selected

/-- The error for a marker on something else than a class. -/
def notAClass (marker : String) (d : Declaration) : Diagnostic :=
  .errorOn d ("@" ++ marker ++ " can only be applied to a class. Error for " ++ d.name)

/-- The error for a class whose name was selected before. -/
def nameClash (marker : String) (first second : Selected) : Diagnostic :=
  .errorOn second.declaration
    ("@" ++ marker ++ " target " ++ second.name ++ " in " ++ second.namespaceName ++ " clashes with " ++ first.name ++
      " in " ++ first.namespaceName ++ "; generated names would collide")

/-- The marked classes, and an error for each other marked declaration. -/
def candidates (marker : String) : List Declaration → List Selected × List Diagnostic
  | [] => ([], [])
  | d :: rest =>
    let (found, problems) := candidates marker rest
    match d.firstUsage? marker with
    | none => (found, problems)
    | some usage =>
      if d.kind == .classDefinition then (⟨d, usage⟩ :: found, problems) else (found, notAClass marker d :: problems)

/-- Keeps the first class of each name; `kept` holds those kept so far. -/
def firstOfEachName (marker : String) (kept : List Selected) : List Selected → List Selected × List Diagnostic
  | [] => ([], [])
  | s :: rest =>
    match kept.find? (·.name == s.name) with
    | some first =>
      let (records, problems) := firstOfEachName marker kept rest
      (records, nameClash marker first s :: problems)
    | none =>
      let (records, problems) := firstOfEachName marker (s :: kept) rest
      (s :: records, problems)

/-- The classes selected for a marker, in order. -/
def select (declarations : List Declaration) (marker : String) : List Selected × List Diagnostic :=
  let (found, problems) := candidates marker declarations
  let (records, clashes) := firstOfEachName marker [] (sortBy Selected.before found)
  (records, problems ++ clashes)

end NavFactory
