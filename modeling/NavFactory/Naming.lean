import NavFactory.Text.Case
import NavFactory.Text.Identifier
import NavFactory.Text.Parts
import NavFactory.Text.Word
import NavFactory.Text.Blank

/-!
# Names of generated methods and arguments

Method names are put together from the name of a declaration and its parameter group; argument names are made from
parameter keys and must not shadow a name that the body of the method refers to.
-/

namespace NavFactory

/-- The group of parameters that name no other. -/
def defaultGroup : String := "default"

/-- A group in lower case, with its first letter in upper case. -/
def capitalizeGroup (group : String) : String :=
  match Text.lowerFrom [] group.toList with
  | [] => ""
  | c :: rest => String.ofList (Text.upperChar c ++ rest)

/-- Whether a group can be part of a method name: ASCII only, and an identifier behind letters. -/
def isValidGroup (group : String) : Bool :=
  !group.isEmpty && group.toList.all (·.toNat < 0x80) && Text.isIdentifier ("For" ++ capitalizeGroup group)

/-- The method that makes the target of a declaration from the parameters of a group. -/
def targetMethodName (declaration : String) (group : Option String := none) : String :=
  match group with
  | none => "show" ++ declaration
  | some group =>
    if group == defaultGroup then "show" ++ declaration
    else "show" ++ declaration ++ "For" ++ capitalizeGroup group

/-- The method that reads a model from a bundle. -/
def accessorName (model : String) : String := "get" ++ model

/-- The local variable of generated methods. -/
def parameterList : String := "parameter_list"

/-- A parameter key with an underscore for each character that a name cannot hold. -/
def sanitizeKey (key : String) : String :=
  let name := (Text.trimChars key.toList).map fun c => if Text.isWordChar c then c else '_'
  match name with
  | [] => "_"
  | c :: _ => if Text.isDigitChar c then String.ofList ('_' :: name) else String.ofList name

/-- Appends underscores to a name until it is free; `fuel` bounds their number. -/
def untilFree (blocked : String → Bool) : Nat → String → String
  | 0, name => name
  | fuel + 1, name => if blocked name then untilFree blocked fuel (name ++ "_") else name

/-- Whether an argument must not have a name. -/
def isBlockedArgument (taken : List String) (name : String) : Bool :=
  Text.isReserved name || name == parameterList || taken.contains name

/-- The argument for a parameter key.  No reserved word ends with an underscore, so that all names tried but the
first are blocked by `taken` alone, and one more try than it has elements finds a free name. -/
def argumentName (key : String) (taken : List String) : String :=
  untilFree (isBlockedArgument taken) (taken.length + 2) (sanitizeKey key)

/-- The class name of a container whose module has a given name: its parts, each capitalised. -/
def containerNameOf (module : String) : String :=
  String.join ((Text.parts '_' module).map Text.capitalize)

end NavFactory
