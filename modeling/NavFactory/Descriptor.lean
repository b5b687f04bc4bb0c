import NavFactory.Factory
import NavFactory.ValueClass

/-!
# Descriptors of targets

What generated methods return at run time: a provider for each argument, checked when it is made, and the
descriptor that holds them.  The bundle of a descriptor has the values that are given, by key.
-/

namespace NavFactory

/-- An argument of a generated method with what is known about its parameter. -/
structure Provider where
  key : String
  value : Value
  name : String := "unspecified"
  type : Option String := none
  optional : Bool := false
deriving DecidableEq

/-- Why an argument is not accepted. -/
inductive ProviderFault
  | required (key : String)
  | wrongType (key expected actual : String)
deriving DecidableEq

def ProviderFault.message : ProviderFault → String
  | required key => "Parameter '" ++ key ++ "' is required"
  | wrongType key expected actual => "Parameter '" ++ key ++ "' expects " ++ expected ++ ", got " ++ actual

/-- A provider, provided that its value is there and of its type. -/
def Provider.checked (p : Provider) : Except ProviderFault Provider :=
  if p.value == .none then if p.optional then .ok p else .error (.required p.key)
  else
    match p.type with
    | none => .ok p
    | some type => if p.value.isInstanceOf type then .ok p else .error (.wrongType p.key type p.value.className)

/-- Sets the value of a key; a key that is there keeps its place. -/
def setField (key : String) (value : Value) : List (String × Value) → List (String × Value)
  | [] => [(key, value)]
  | (k, v) :: rest => if k == key then (k, value) :: rest else (k, v) :: setField key value rest

/-- The values of providers by key, without those that are left out. -/
def bundleOf (providers : List Provider) : List (String × Value) :=
  (providers.filter (·.value != .none)).foldl (fun bundle p => setField p.key p.value bundle) []

/-- A field that no descriptor of the kind has. -/
inductive DescriptorFault
  | unknownField (descriptor field : String)
deriving DecidableEq

def DescriptorFault.message : DescriptorFault → String
  | unknownField descriptor field => descriptor ++ ".__init__() got an unexpected keyword argument '" ++ field ++ "'"

/-- The fields of a descriptor, those that are not given with the value that stands for none. -/
def descriptorFields (t : TargetKind) (given : List (String × Value)) :
    Except DescriptorFault (List (String × Value)) :=
  match given.find? fun (field, _) => !t.attributes.any (·.keyword == field) with
  | some (field, _) => .error (.unknownField t.descriptor.name field)
  | none => .ok (t.attributes.map fun a => (a.keyword, (given.lookup a.keyword).getD a.kind.default))

end NavFactory
