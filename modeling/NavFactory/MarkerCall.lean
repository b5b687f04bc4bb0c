import NavFactory.Factory
import NavFactory.Reader
import NavFactory.ValueClass

/-!
# Calling markers

What a marker does when the module that carries it is imported: it checks its arguments, and the class that it is
applied to comes back as it was.  A marker without required arguments may be applied to the class at once.
-/

namespace NavFactory

/-- The arguments of a call. -/
structure Call where
  positional : List Value := []
  keywords : List (String × Value) := []

/-- The parameters of a marker: those that may be given by position, how many of them must be given, and those that
are given by keyword only. -/
structure Signature where
  marker : String
  positional : List String
  required : Nat
  keywordOnly : List String
deriving DecidableEq

/-- What is wrong with a call. -/
inductive CallFault
  | unexpected (marker keyword : String)
  | repeated (marker keyword : String)
  | tooMany (signature : Signature) (given givenByKeyword : Nat)
  | missing (marker : String) (names : List String)
  | notClass (marker shown : String)
  | wrongValue (field expected shown : String)
  | badKey
  | notIterable (className : String)
  | badGroup
  | digits (limit : Value.DigitLimit)
deriving DecidableEq

namespace CallFault

/-- The number of things, with their name in the right form. -/
private def counted (n : Nat) (what : String) : String := toString n ++ " " ++ what ++ (if n == 1 then "" else "s")

/-- Names in quotes, the last two joined by a word. -/
private def enumerated (names : List String) : String :=
  let quoted := names.map Text.quote
  match quoted with
  | [a, b] => a ++ " and " ++ b
  | _ => ", ".intercalate quoted

def message : CallFault → String
  | unexpected marker keyword => marker ++ "() got an unexpected keyword argument '" ++ keyword ++ "'"
  | repeated marker keyword => marker ++ "() got multiple values for argument '" ++ keyword ++ "'"
  | tooMany s given givenByKeyword =>
    let limit := s.positional.length
    let range :=
      if s.required < limit then
        "from " ++ toString s.required ++ " to " ++ toString limit ++ " positional arguments"
      else counted limit "positional argument"
    let passed :=
      if givenByKeyword == 0 then toString given
      else
        counted given "positional argument" ++ " (and " ++ counted givenByKeyword "keyword-only argument" ++ ")"
    s.marker ++ "() takes " ++ range ++ " but " ++ passed ++
      (if given == 1 && givenByKeyword == 0 then " was given" else " were given")
  | missing marker names =>
    marker ++ "() missing " ++ counted names.length "required positional argument" ++ ": " ++ enumerated names
  | notClass marker shown => "@" ++ marker ++ " can only be applied to a class. Error for " ++ shown
  | wrongValue field expected shown => field ++ " must be " ++ expected ++ ", got " ++ shown
  | badKey => "key must be a non-empty str"
  | notIterable className => "'" ++ className ++ "' object is not iterable"
  | badGroup => "group must be a non-empty str or a sequence of them"
  | digits limit => limit.message

end CallFault

/-! ### Binding arguments -/

/-- The parameters of a marker. -/
def signatureOf (marker : String) : Signature :=
  if marker == parameterMarker then ⟨marker, positionalNames marker, 2, ["name", "optional", "group"]⟩
  else if marker == fragmentMarker then
    ⟨marker, ["cls"], 0, fragmentTargets.attributes.map (·.field) ++ [forceEmptyField]⟩
  else if marker == activityMarker then
    ⟨marker, ["cls"], 0, activityTargets.attributes.map (·.field) ++ [forceEmptyField]⟩
  else ⟨marker, ["cls"], 0, []⟩

/-- Adds the keyword arguments of a call to those bound by position. -/
def bindKeywords (s : Signature) (bound : List (String × Value)) :
    List (String × Value) → Except CallFault (List (String × Value))
  | [] => .ok bound
  | (name, value) :: rest =>
    if !(s.positional ++ s.keywordOnly).contains name then .error (.unexpected s.marker name)
    else if bound.any (·.1 == name) then .error (.repeated s.marker name)
    else bindKeywords s (bound ++ [(name, value)]) rest

/-- The arguments of a call by parameter. -/
def bindCall (s : Signature) (call : Call) : Except CallFault (List (String × Value)) := do
  let bound ← bindKeywords s (s.positional.zip call.positional) call.keywords
  if s.positional.length < call.positional.length then
    .error (.tooMany s call.positional.length (bound.filter fun (name, _) => s.keywordOnly.contains name).length)
  else
    match (s.positional.take s.required).filter fun name => !bound.any (·.1 == name) with
    | [] => .ok bound
    | names => .error (.missing s.marker names)

/-! ### Checking arguments -/

/-- A value as a message shows it. -/
def shownOr (v : Value) (fault : String → CallFault) : CallFault :=
  match v.shown with
  | .ok text => fault text
  | .error limit => .digits limit

/-- What a marker demands of an attribute. -/
def demanded : AttributeKind → String
  | .integer => "an int"
  | .text => "a str"
  | .state => "a FragmentState"

/-- Checks an attribute if it is given. -/
def checkAttribute (bound : List (String × Value)) (a : Attribute) : Except CallFault Unit :=
  let value := (bound.lookup a.field).getD a.kind.default
  if a.kind.accepts value then .ok () else .error (shownOr value (.wrongValue a.field (demanded a.kind)))

/-- Checks several attributes in order. -/
def checkAttributes (bound : List (String × Value)) : List Attribute → Except CallFault Unit
  | [] => .ok ()
  | a :: rest => do
    checkAttribute bound a
    checkAttributes bound rest

/-- Attributes in the order in which they are checked: integers first. -/
def checkingOrder (attributes : List Attribute) : List Attribute :=
  attributes.filter (·.kind == .integer) ++ attributes.filter (·.kind != .integer)

/-- Whether a value is a text that is not empty. -/
def isFullText (v : Value) : Bool :=
  match v.asText? with
  | some s => !s.isEmpty
  | none => false

/-- Checks the groups of a parameter: a text, or anything that gives texts. -/
def checkGroups (group : Value) : Except CallFault Unit :=
  let groups :=
    if group.asText?.isSome then Except.ok [group]
    else
      match group.items? with
      | some items => .ok items
      | none => .error (.notIterable group.className)
  match groups with
  | .error e => .error e
  | .ok groups => if !groups.isEmpty && groups.all isFullText then .ok () else .error .badGroup

/-- Checks the arguments of a parameter marker. -/
def checkParameter (bound : List (String × Value)) : Except CallFault Unit := do
  let argument (name : String) (default : Value) := (bound.lookup name).getD default
  if !isFullText (argument "key" .none) then .error .badKey
  match argument "type" .none with
  | .classObject _ => .ok ()
  | v => .error (shownOr v (.wrongValue "type" "a class"))
  checkGroups (argument "group" (.text defaultGroup))

/-- Checks the arguments of a marker. -/
def checkCall (marker : String) (bound : List (String × Value)) : Except CallFault Unit :=
  if marker == parameterMarker then checkParameter bound
  else if marker == fragmentMarker then checkAttributes bound (checkingOrder fragmentTargets.attributes)
  else if marker == activityMarker then checkAttributes bound activityTargets.attributes
  else .ok ()

/-! ### Applying markers -/

/-- What a marker is applied to. -/
inductive Subject
  | classNamed (name : String)
  | functionNamed (name : String)
  | value (v : Value)

/-- Applies a checked marker: a class comes back, and nothing else is accepted. -/
def decorate (marker : String) : Subject → Except CallFault Subject
  | .classNamed name => .ok (.classNamed name)
  | .functionNamed name => .error (.notClass marker name)
  | .value (.classObject name) => .ok (.value (.classObject name))
  | .value v => .error (shownOr v (.notClass marker))

/-- What a call of a marker gives: the class that it was applied to at once, or a decorator. -/
inductive Called
  | applied (subject : Subject)
  | decorator (marker : String)

/-- Calls a marker. -/
def callMarker (marker : String) (call : Call) : Except CallFault Called := do
  let bound ← bindCall (signatureOf marker) call
  checkCall marker bound
  match bound.lookup "cls" with
  | none => .ok (.decorator marker)
  | some .none => .ok (.decorator marker)
  | some v => (decorate marker (.value v)).map .applied

/-- Applies a marker without parentheses, with keyword arguments besides. -/
def applyBare (marker : String) (subject : Subject) (keywords : List (String × Value)) : Except CallFault Called :=
  match subject with
  | .value v => callMarker marker ⟨[v], keywords⟩
  | subject => do
    let signature := signatureOf marker
    let bound ← bindCall signature ⟨[.classObject ""], keywords⟩
    checkCall marker bound
    (decorate marker subject).map .applied

end NavFactory
