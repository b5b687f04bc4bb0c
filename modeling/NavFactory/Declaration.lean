import NavFactory.Value

/-!
# Declarations

A declaration is a class or function at the top level of a module that carries at least one marker.  Markers keep
the order in which they are written, from top to bottom.
-/

namespace NavFactory

/-- A use of a marker, with the arguments that could be read and what was wrong with the others. -/
structure Usage where
  marker : String
  arguments : List (String × Value) := []
  line : Nat := 0
  errors : List String := []
deriving DecidableEq

/-- The argument of a given name. -/
def Usage.argument? (u : Usage) (name : String) : Option Value := u.arguments.lookup name

/-- What kind of definition a declaration is. -/
inductive DeclarationKind
  | classDefinition
  | function
deriving DecidableEq

/-- A marked definition at the top level of a module. -/
structure Declaration where
  name : String
  namespaceName : String
  kind : DeclarationKind := .classDefinition
  markers : List Usage := []
  path : Option String := none
  line : Nat := 0
deriving DecidableEq

namespace Declaration

/-- The uses of one marker, in order. -/
def usages (d : Declaration) (marker : String) : List Usage := d.markers.filter (·.marker == marker)

/-- The first use of a marker. -/
def firstUsage? (d : Declaration) (marker : String) : Option Usage := (d.usages marker).head?

end Declaration

/-- The names of the markers. -/
def activityMarker : String := "activity_target"

@[inherit_doc activityMarker] def fragmentMarker : String := "fragment_target"

@[inherit_doc activityMarker] def parameterMarker : String := "target_parameter"

@[inherit_doc activityMarker] def bundleMarker : String := "bundle_model"

/-- All markers. -/
def markerNames : List String := [activityMarker, fragmentMarker, parameterMarker, bundleMarker]

end NavFactory
