import NavFactory.Diagnostic
import NavFactory.Naming
import NavFactory.Sorted

/-!
# Parameter groups

The parameters of a declaration, bucketed by the groups that their markers name.  Reading them reports everything
that is wrong with a marker before it gives the declaration up.
-/

namespace NavFactory

/-- A parameter of a target, in one of its groups. -/
structure ParameterEntry where
  key : String
  type : TypeRef
  name : String := "unspecified"
  optional : Bool := false
  group : String := defaultGroup
deriving DecidableEq

/-- The parameters of one declaration; groups keep the order of their first use. -/
structure ParameterGroups where
  groups : List (String × List ParameterEntry) := []
  needsEmptyMethod : Bool := false
deriving DecidableEq

namespace ParameterGroups

/-- Appends an entry to its group, which is added behind the others if it is new. -/
def insertEntry (e : ParameterEntry) : List (String × List ParameterEntry) → List (String × List ParameterEntry)
  | [] => [(e.group, [e])]
  | (group, entries) :: rest =>
    if group == e.group then (group, entries ++ [e]) :: rest else (group, entries) :: insertEntry e rest

/-- Adds an entry to its group. -/
def add (model : ParameterGroups) (e : ParameterEntry) : ParameterGroups :=
  { model with groups := insertEntry e model.groups }

/-- The entries of a group. -/
def entries (model : ParameterGroups) (group : String) : List ParameterEntry := (model.groups.lookup group).getD []

/-- The order of groups in the output: the default group, then the others by name. -/
def groupBefore (a b : String) : Bool :=
  if a == defaultGroup then b != defaultGroup else b != defaultGroup && a < b

/-- The groups in the order of the output. -/
def ordered (model : ParameterGroups) : List (String × List ParameterEntry) :=
  sortBy (fun a b => groupBefore a.1 b.1) model.groups

/-- The number of entries in all groups. -/
def size (model : ParameterGroups) : Nat := (model.groups.flatMap (·.2)).length

end ParameterGroups

/-! ### Reading the markers of a declaration -/

/-- The arguments that a parameter marker knows. -/
def parameterFields : List String := ["key", "type", "name", "optional", "group"]

/-- The names of arguments that are not known, in order. -/
def unknownArguments (usage : Usage) (known : List String) : List String :=
  sortTexts (dedupe ((usage.arguments.map (·.1)).filter fun name => !known.contains name))

/-- The problem of unknown arguments, if there are any. -/
def unknownProblem (marker : String) (usage : Usage) (known : List String) : List String :=
  match unknownArguments usage known with
  | [] => []
  | names => ["@" ++ marker ++ " got unexpected arguments: " ++ ", ".intercalate names]

/-- The texts of a sequence of values that are all texts and not empty. -/
def asNames? : List Value → Option (List String)
  | [] => some []
  | v :: rest => do
    let name ← v.asText?
    if name.isEmpty then none else some (name :: (← asNames? rest))

/-- The groups that an argument names, each once. -/
def asGroups? : Value → Option (List String)
  | .list [] => none
  | .tuple [] => none
  | .list items => (asNames? items).map dedupe
  | .tuple items => (asNames? items).map dedupe
  | v => match v.asText? with
    | some group => if group.isEmpty then none else some [group]
    | none => none

private def problemOf (text : String) : String := "@" ++ parameterMarker ++ text

/-- The problem of a group that cannot be part of a method name. -/
def groupProblem (group : String) : List String :=
  if group == defaultGroup || isValidGroup group then []
  else [problemOf (" group '" ++ group ++ "' cannot form a method name; use ASCII letters, digits and underscores")]

/-- Whether a text contains another. -/
def mentions (s part : String) : Bool := (s.splitOn part).length != 1

/-- The key of a parameter marker, if it has a usable one. -/
def Usage.key? (usage : Usage) : Option String :=
  (usage.argument? "key").bind (·.asText?) |>.filter (!Text.isBlankText ·)

/-- The type of a parameter marker, if it has a usable one. -/
def Usage.type? (usage : Usage) : Option TypeRef := (usage.argument? "type").bind (·.asType?)

/-- The display name of a parameter marker, if it is usable. -/
def Usage.displayName? (usage : Usage) : Option String :=
  ((usage.argument? "name").getD (.text "unspecified")).asText?

/-- Whether a parameter marker asks for an optional parameter, if it says so in a usable way. -/
def Usage.optional? (usage : Usage) : Option Bool := ((usage.argument? "optional").getD (.bool false)).asBool?

/-- The groups of a parameter marker, if they are usable. -/
def Usage.groups? (usage : Usage) : Option (List String) :=
  asGroups? ((usage.argument? "group").getD (.text defaultGroup))

/-- Everything that is wrong with a parameter marker. -/
def parameterProblems (usage : Usage) : List String :=
  let provided (ok : Bool) (text : String) : List String := if ok then [] else [problemOf text]
  usage.errors
    ++ unknownProblem parameterMarker usage parameterFields
    ++ provided usage.key?.isSome " requires a non-empty string 'key'"
    ++ provided (usage.type?.isSome || usage.errors.any (mentions · "'type'")) " requires a 'type'"
    ++ provided usage.displayName?.isSome " 'name' must be a string"
    ++ provided usage.optional?.isSome " 'optional' must be True or False"
    ++ (match usage.groups? with
      | none => [problemOf " 'group' must be a string or a sequence of strings"]
      | some groups => groups.flatMap groupProblem)

/-- The entries of a parameter marker without problems, one for each group. -/
def entriesOf (usage : Usage) : List ParameterEntry :=
  match usage.key?, usage.type?, usage.displayName?, usage.optional?, usage.groups? with
  | some key, some type, some name, some optional, some groups =>
    groups.map fun group => ⟨key, type, name, optional, group⟩
  | _, _, _, _, _ => []

/-- Problems of a declaration as errors against it. -/
def errorsOn (d : Declaration) (problems : List String) : List Diagnostic :=
  problems.map fun problem => .errorOn d (problem ++ " (on " ++ d.name ++ ")")

/-- The errors of all parameter markers of a declaration. -/
def parameterErrors (d : Declaration) : List Diagnostic :=
  (d.usages parameterMarker).flatMap fun usage => errorsOn d (parameterProblems usage)

/-- The entries of the parameter markers without problems, by group. -/
def groupedEntries (d : Declaration) : ParameterGroups :=
  ((d.usages parameterMarker).flatMap fun usage =>
    if (parameterProblems usage).isEmpty then entriesOf usage else []).foldl ParameterGroups.add {}

/-- The errors of entries of one group whose arguments are the same; `seen` has the last key of each argument. -/
def argumentClashes (d : Declaration) (group : String) (seen : List (String × String)) :
    List ParameterEntry → List Diagnostic
  | [] => []
  | e :: rest =>
    let argument := argumentName e.key []
    let clash := match seen.lookup argument with
      | none => []
      | some key =>
        let message :=
          if key == e.key then "Duplicate parameter '" ++ e.key ++ "' in group '" ++ group ++ "' of " ++ d.name
          else
            "Parameters '" ++ key ++ "' and '" ++ e.key ++ "' in group '" ++ group ++ "' of " ++ d.name ++
              " map to the same argument '" ++ argument ++ "'"
        [.errorOn d message]
    clash ++ argumentClashes d group ((argument, e.key) :: seen) rest

/-- The errors of groups that have the same method and of their entries; `owners` has the last group of each
method. -/
def groupClashes (d : Declaration) (owners : List (String × String)) :
    List (String × List ParameterEntry) → List Diagnostic
  | [] => []
  | (group, entries) :: rest =>
    let method := targetMethodName d.name (some group)
    let clash := match owners.lookup method with
      | none => []
      | some owner =>
        [.errorOn d ("Groups '" ++ owner ++ "' and '" ++ group ++ "' of " ++ d.name ++ " both generate " ++ method)]
    clash ++ argumentClashes d group [] entries ++ groupClashes d ((method, group) :: owners) rest

/-- The parameters of a declaration, unless something is wrong with them, and the errors. -/
def readParameters (d : Declaration) (forceEmpty : Bool) : Option ParameterGroups × List Diagnostic :=
  let model := groupedEntries d
  match parameterErrors d with
  | [] =>
    match groupClashes d [] model.groups with
    | [] => (some { model with needsEmptyMethod := forceEmpty || model.size == 0 }, [])
    | clashes => (none, clashes)
  | errors => (none, errors)

end NavFactory
