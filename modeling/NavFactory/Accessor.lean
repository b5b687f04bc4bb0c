import NavFactory.Container
import NavFactory.Naming
import NavFactory.Selection

/-!
# Bundle accessors

For each model that can be read from a bundle a method `get<Model>(bundle)`.
-/

namespace NavFactory

def mappingType : TypeRef := ⟨"typing", "Mapping"⟩
def anyType : TypeRef := ⟨"typing", "Any"⟩

/-- The argument of every accessor. -/
def bundleArgument : String := "bundle"

/-- Whether the marker of a model has anything in its parentheses. -/
def hasArguments (s : Selected) : Bool := !(s.usage.arguments.isEmpty && s.usage.errors.isEmpty)

/-- The error for a model whose marker has arguments. -/
def bundleArgumentError (s : Selected) : Diagnostic :=
  .errorOn s.declaration ("@" ++ bundleMarker ++ " takes no arguments (on " ++ s.name ++ ")")

/-- The accessor of a model that is imported under a name. -/
def accessor (mapping any model : String) (s : Selected) : Method where
  name := accessorName s.name
  returns := model
  parameters := [⟨bundleArgument, mapping ++ "[str, " ++ any ++ "]", none, false⟩]
  statements := ["return " ++ model ++ "(" ++ bundleArgument ++ ")"]

/-- The accessors of several models, one after the other. -/
def accessors (mapping any : String) (table : ImportTable) : List Selected → List Method × ImportTable
  | [] => ([], table)
  | s :: rest =>
    let (model, table) := table.use s.typeRef
    let (methods, table) := accessors mapping any table rest
    (accessor mapping any model s :: methods, table)

/-- The models that have an accessor, and the errors of the others. -/
def bundleModels (declarations : List Declaration) : List Selected × List Diagnostic :=
  let (records, problems) := select declarations bundleMarker
  (records.filter (!hasArguments ·), problems ++ (records.filter hasArguments).map bundleArgumentError)

/-- The container of all accessors. -/
def bundleContainer (declarations : List Declaration) (containerName : String) : Report Container :=
  let (mapping, table) := (ImportTable.reserving [containerName]).use mappingType
  let (any, table) := table.use anyType
  let (models, problems) := bundleModels declarations
  let (methods, table) := accessors mapping any table models
  ⟨problems, .ok ⟨"bundle", containerName, "bundles", "Accessors rebuilding bundle-backed models.", table, methods⟩⟩

end NavFactory
