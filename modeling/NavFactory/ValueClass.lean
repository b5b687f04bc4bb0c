import NavFactory.Value

/-!
# Classes of values

The class of a value and the classes that it extends.
-/

namespace NavFactory.Value

/-- The class of a value, followed by the classes that it extends, up to the one that all extend. -/
def classes : Value → List String
  | .none => ["NoneType", "object"]
  | .bool _ => ["bool", "int", "object"]
  | .int _ => ["int", "object"]
  | .real _ => ["float", "object"]
  | .complex .. => ["complex", "object"]
  | .text _ => ["str", "object"]
  | .bytes _ => ["bytes", "object"]
  | .list _ => ["list", "object"]
  | .tuple _ => ["tuple", "object"]
  | .set _ => ["set", "object"]
  | .dict _ => ["dict", "object"]
  | .ellipsis => ["ellipsis", "object"]
  | .typeRef _ => ["TypeRef", "object"]
  | .state _ => ["FragmentState", "str", "Enum", "object"]
  | .classObject _ => ["type", "object"]
  | .moment _ => ["datetime", "date", "object"]

/-- The name of the class of a value. -/
def className (v : Value) : String := v.classes.headD ""

/-- Whether a value belongs to a class. -/
def isInstanceOf (v : Value) (name : String) : Bool := v.classes.contains name

/-- The values that going through a value gives, if that is possible. -/
def items? : Value → Option (List Value)
  | .list items => some items
  | .tuple items => some items
  | .set items => some items
  | .dict entries => some (entries.map (·.1))
  | .bytes bs => some (bs.map fun b => .int b.toNat)
  | .text s => some (s.toList.map fun c => .text (String.singleton c))
  | .state m => some (m.text.toList.map fun c => .text (String.singleton c))
  | _ => Option.none

theorem className_mem_classes (v : Value) : v.className ∈ v.classes := by
  cases v <;> simp [className, classes]

end NavFactory.Value
