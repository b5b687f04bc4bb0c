import NavFactory.Container
import NavFactory.ParameterGroups
import NavFactory.Selection

/-!
# Target factories

For each selected class a method `show<Class>` and one `show<Class>For<Group>` for each further group of its
parameters.  A method collects its arguments in a list of providers and returns a descriptor of the target; the
arguments of the marker are repeated in every method of the class.
-/

namespace NavFactory

/-- The module of the types that generated methods use at run time. -/
def runtimeModule : String := "autotarget.target"

def providerType : TypeRef := ⟨runtimeModule, "ParameterProvider"⟩
def stateType : TypeRef := ⟨runtimeModule, "FragmentState"⟩
def listType : TypeRef := ⟨"typing", "List"⟩
def optionalType : TypeRef := ⟨"typing", "Optional"⟩

/-- The value of an attribute that is not given. -/
def unset : Int := -1

/-! ### Attributes of a marker -/

/-- The values that an attribute takes. -/
inductive AttributeKind
  | integer
  | text
  | state
deriving DecidableEq

namespace AttributeKind

def accepts : AttributeKind → Value → Bool
  | integer, v => v.asInt?.isSome
  | text, v => v.asText?.isSome
  | state, v => v.asState?.isSome

def expected : AttributeKind → String
  | integer => "an int"
  | text => "a string"
  | state => "a FragmentState member"

/-- The value of an attribute that a marker leaves out. -/
def default : AttributeKind → Value
  | integer => .int unset
  | text => .text ""
  | state => .state .replace

end AttributeKind

/-- An argument of a marker that is passed on to the descriptor under a keyword. -/
structure Attribute where
  field : String
  keyword : String
  kind : AttributeKind
deriving DecidableEq

/-- The argument of both target markers that asks for a method without parameters. -/
def forceEmptyField : String := "force_empty_target_method"

/-- A kind of target: its marker, the module of its container, its descriptor and its attributes. -/
structure TargetKind where
  kind : String
  marker : String
  module : String
  descriptor : TypeRef
  attributes : List Attribute
  docstring : String
deriving DecidableEq

/-- Screens of their own. -/
def activityTargets : TargetKind where
  kind := "activity"
  marker := activityMarker
  module := "activity_targets"
  descriptor := ⟨runtimeModule, "ActivityTarget"⟩
  attributes := [⟨"enter_anim", "enter_animation", .integer⟩, ⟨"exit_anim", "exit_animation", .integer⟩]
  docstring := "Factories for activity targets."

/-- Parts of a screen. -/
def fragmentTargets : TargetKind where
  kind := "fragment"
  marker := fragmentMarker
  module := "fragment_targets"
  descriptor := ⟨runtimeModule, "FragmentTarget"⟩
  attributes :=
    [⟨"container_id", "container_id", .integer⟩, ⟨"tag", "tag", .text⟩, ⟨"state", "state", .state⟩,
      ⟨"enter_anim", "enter_animation", .integer⟩, ⟨"exit_anim", "exit_animation", .integer⟩,
      ⟨"pop_enter_anim", "pop_enter_animation", .integer⟩, ⟨"pop_exit_anim", "pop_exit_animation", .integer⟩]
  docstring := "Factories for fragment targets."

/-- The value of an attribute in a marker. -/
def Attribute.valueIn (a : Attribute) (usage : Usage) : Value := (usage.argument? a.field).getD a.kind.default

/-- The problem of an attribute with a value that it does not take. -/
def attributeProblem (marker : String) (usage : Usage) (a : Attribute) : Except Value.DigitLimit (List String) :=
  let value := a.valueIn usage
  if a.kind.accepts value then .ok []
  else do
    .ok ["@" ++ marker ++ " '" ++ a.field ++ "' must be " ++ a.kind.expected ++ ", got " ++ (← value.shown)]

/-- The problems of several attributes. -/
def attributeProblems (marker : String) (usage : Usage) : List Attribute → Except Value.DigitLimit (List String)
  | [] => .ok []
  | a :: rest => do .ok ((← attributeProblem marker usage a) ++ (← attributeProblems marker usage rest))

/-- Whether a marker asks for a method without parameters, if it says so in a usable way. -/
def Usage.forceEmpty? (usage : Usage) : Option Bool := ((usage.argument? forceEmptyField).getD (.bool false)).asBool?

/-- Everything that is wrong with the marker of a target. -/
def targetProblems (t : TargetKind) (s : Selected) : Except Value.DigitLimit (List String) := do
  let known := t.attributes.map (·.field) ++ [forceEmptyField]
  let repeated :=
    if (s.declaration.usages t.marker).length ≤ 1 then [] else ["@" ++ t.marker ++ " is applied more than once"]
  let ofAttributes ← attributeProblems t.marker s.usage t.attributes
  let ofForceEmpty :=
    if s.usage.forceEmpty?.isSome then [] else ["@" ++ t.marker ++ " '" ++ forceEmptyField ++ "' must be True or False"]
  .ok (s.usage.errors ++ repeated ++ unknownProblem t.marker s.usage known ++ ofAttributes ++ ofForceEmpty)

/-! ### Methods -/

/-- An attribute as the descriptor gets it.  A state is referred to through its type. -/
def attributeText (a : Attribute) (usage : Usage) (table : ImportTable) :
    Except Value.DigitLimit (String × ImportTable) :=
  match a.kind, a.valueIn usage with
  | .state, .state m => .ok (let (name, table) := table.use stateType; (name ++ "." ++ m.name, table))
  | _, value => value.shown.map fun text => (text, table)

/-- The keyword arguments of the descriptor for the attributes of a marker. -/
def attributeTexts (usage : Usage) (table : ImportTable) :
    List Attribute → Except Value.DigitLimit (List (String × String) × ImportTable)
  | [] => .ok ([], table)
  | a :: rest => do
    let (text, table) ← attributeText a usage table
    let (texts, table) ← attributeTexts usage table rest
    .ok ((a.keyword, text) :: texts, table)

/-- The part of a text in front of its first dot. -/
def headName (s : String) : String := String.ofList (s.toList.takeWhile (· != '.'))

/-- Entries with their arguments, none of which is taken. -/
def assignArguments (taken : List String) : List (ParameterEntry × String) → List (ParameterEntry × String × String)
  | [] => []
  | (e, typeName) :: rest =>
    let argument := argumentName e.key taken
    (e, typeName, argument) :: assignArguments (argument :: taken) rest

/-- The names that the body of a method refers to. -/
structure BodyNames where
  target : String
  provider : String
  list : String
  descriptor : String
deriving DecidableEq

/-- The statement that adds the provider of an entry to the list. -/
def appendStatement (names : BodyNames) (e : ParameterEntry) (typeName argument : String) : String :=
  parameterList ++ ".append(" ++ names.provider ++ "(key=" ++ Text.quote e.key ++ ", value=" ++ argument ++
    ", name=" ++ Text.quote e.name ++ ", type=" ++ typeName ++ ", optional=" ++
    (if e.optional then "True" else "False") ++ "))"

/-- The statement that makes the list. -/
def allocateStatement (names : BodyNames) : String :=
  parameterList ++ ": " ++ names.list ++ "[" ++ names.provider ++ "] = []"

/-- The statement that returns the descriptor. -/
def returnStatement (names : BodyNames) (attributes : List (String × String)) : String :=
  let keywords := ["target_class=" ++ names.target] ++ attributes.map (fun (keyword, text) => keyword ++ "=" ++ text) ++
    ["parameters=" ++ parameterList]
  "return " ++ names.descriptor ++ "(" ++ ", ".intercalate keywords ++ ")"

/-- The argument of an entry that must be given. -/
def requiredParameter (typeName argument : String) : Parameter := ⟨argument, typeName, none, false⟩

/-- The argument of an entry that may be left out. -/
def optionalParameter (optionalName typeName argument : String) : Parameter :=
  ⟨argument, optionalName ++ "[" ++ typeName ++ "]", some "None", true⟩

/-- The documentation of a method. -/
def methodDocstring (name : String) (group : Option String) : String :=
  match group with
  | none => "Target for " ++ name ++ "."
  | some group =>
    if group == defaultGroup then "Target for " ++ name ++ "."
    else "Target for " ++ name ++ " with the '" ++ group ++ "' parameters."

/-- The method for the entries of a group. -/
def buildMethod (t : TargetKind) (s : Selected) (group : Option String) (entries : List ParameterEntry)
    (table : ImportTable) : Except Value.DigitLimit (Method × ImportTable) := do
  let (target, table) := table.use s.typeRef
  let (provider, table) := table.use providerType
  let (list, table) := table.use listType
  let (descriptor, table) := table.use t.descriptor
  let (typeNames, table) := table.useAll (entries.map (·.type))
  let (attributes, table) ← attributeTexts s.usage table t.attributes
  let names : BodyNames := ⟨target, provider, list, descriptor⟩
  let taken := [target, provider, list, descriptor] ++ typeNames ++ attributes.map (fun a => headName a.2)
  let assigned := assignArguments taken (entries.zip typeNames)
  let (optionalName, table) := if entries.any (·.optional) then table.use optionalType else ("", table)
  let required := (assigned.filter (!·.1.optional)).map fun (_, typeName, argument) =>
    requiredParameter typeName argument
  let optional := (assigned.filter (·.1.optional)).map fun (_, typeName, argument) =>
    optionalParameter optionalName typeName argument
  .ok ({
    name := targetMethodName s.name group
    returns := descriptor
    parameters := required ++ optional
    statements :=
      allocateStatement names ::
        (assigned.map fun (e, typeName, argument) => appendStatement names e typeName argument) ++
        [returnStatement names attributes]
    docstring := some (methodDocstring s.name group) }, table)

/-- The methods for several groups, one after the other. -/
def buildMethods (t : TargetKind) (s : Selected) (table : ImportTable) :
    List (Option String × List ParameterEntry) → Except Value.DigitLimit (List Method × ImportTable)
  | [] => .ok ([], table)
  | (group, entries) :: rest => do
    let (method, table) ← buildMethod t s group entries table
    let (methods, table) ← buildMethods t s table rest
    .ok (method :: methods, table)

/-- The groups that get a method; no group stands for the method without parameters. -/
def methodGroups (model : ParameterGroups) : List (Option String × List ParameterEntry) :=
  let empty := if model.needsEmptyMethod && (model.entries defaultGroup).isEmpty then [(none, [])] else []
  empty ++ model.ordered.map fun (group, entries) => (some group, entries)

/-- The warning for a method without parameters that is asked for in vain. -/
def forceEmptyWarning (s : Selected) : Diagnostic :=
  .against .warning
    (forceEmptyField ++ " ignored for " ++ s.name ++ ": " ++ targetMethodName s.name ++
      " already takes its default-group parameters") (some s.declaration)

/-- The methods of a selected class, none if something is wrong with it. -/
def methodsFor (t : TargetKind) (s : Selected) (table : ImportTable) : Report (List Method × ImportTable) := do
  match ← Report.lift (targetProblems t s) with
  | [] =>
    let (model, problems) := readParameters s.declaration (s.usage.forceEmpty?.getD false)
    Report.tell problems
    match model with
    | none => pure ([], table)
    | some model =>
      if model.needsEmptyMethod && !(model.entries defaultGroup).isEmpty then Report.tell [forceEmptyWarning s]
      Report.lift (buildMethods t s table (methodGroups model))
  | problems =>
    Report.tell (errorsOn s.declaration problems)
    pure ([], table)

/-- The methods of several selected classes, one after the other. -/
def methodsForAll (t : TargetKind) (table : ImportTable) : List Selected → Report (List Method × ImportTable)
  | [] => pure ([], table)
  | s :: rest => do
    let (methods, table) ← methodsFor t s table
    let (others, table) ← methodsForAll t table rest
    pure (methods ++ others, table)

/-- The imports that every container of targets starts with, so that no class of the user takes their names. -/
def targetImports (t : TargetKind) (containerName : String) : ImportTable :=
  ((ImportTable.reserving [containerName]).useAll [listType, providerType, t.descriptor]).2

/-- The container of all targets of a kind. -/
def targetContainer (t : TargetKind) (declarations : List Declaration) (containerName : String) : Report Container := do
  let (records, problems) := select declarations t.marker
  Report.tell problems
  let (methods, table) ← methodsForAll t (targetImports t containerName) records
  pure ⟨t.kind, containerName, t.module, t.docstring, table, methods⟩

end NavFactory
