import NavFactory.Template.Data
import NavFactory.Template.Node

/-!
# Filling templates

The text of a template whose expressions are replaced by data.  A name that is not defined is an error wherever it
is used.
-/

namespace NavFactory.Template

/-- Why a template gives no text. -/
inductive Fault
  | malformed
  | undefined (name : String)
  | unsupported (filter : String)
deriving DecidableEq

def Fault.message : Fault → String
  | malformed => "malformed template"
  | undefined name => "'" ++ name ++ "' is undefined"
  | unsupported name => "No filter named '" ++ name ++ "'."

/-- A filter applied to a value. -/
def applyFilter (name : String) (v : Data) (arguments : List Term) : Except Fault Data :=
  match name, v, arguments with
  | "length", .list items, [] => .ok (.number items.length)
  | "count", .list items, [] => .ok (.number items.length)
  | "length", .text s, [] => .ok (.number s.length)
  | "upper", v, [] => .ok (.text (v.shown.map Char.toUpper))
  | "lower", v, [] => .ok (.text (v.shown.map Char.toLower))
  | "join", .list items, [] => .ok (.text (String.join (items.map Data.shown)))
  | "join", .list items, [.text s] => .ok (.text (s.intercalate (items.map Data.shown)))
  | name, _, _ => .error (.unsupported name)

/-- The value of a term. -/
def evaluate (scope : List (String × Data)) : Term → Except Fault Data
  | .text s => .ok (.text s)
  | .number n => .ok (.number n)
  | .lookup name => match scope.lookup name with
    | some v => .ok v
    | none => .error (.undefined name)
  | .field t name => do
    let v ← evaluate scope t
    match v.field? name with
    | some w => .ok w
    | none => .error (.undefined name)
  | .filter t name arguments => do applyFilter name (← evaluate scope t) arguments
  | .not t => do .ok (.bool (!(← evaluate scope t).isTrue))

mutual

/-- The text of a node. -/
def fillNode (scope : List (String × Data)) : Node → Except Fault String
  | .text s => .ok s
  | .output t => do .ok (← evaluate scope t).shown
  | .loop id source body orElse => do
    match ← evaluate scope source with
    | .list [] => fillNodes scope orElse
    | .list items => do
      let texts ← items.mapM fun v => fillNodes ((id, v) :: scope) body
      .ok (String.join texts)
    | _ => .error (.undefined id)
  | .choice test body orElse => do
    if (← evaluate scope test).isTrue then fillNodes scope body else fillNodes scope orElse

/-- The text of several nodes. -/
def fillNodes (scope : List (String × Data)) : List Node → Except Fault String
  | [] => .ok ""
  | n :: rest => do .ok ((← fillNode scope n) ++ (← fillNodes scope rest))

end

/-- The text of a template. -/
def fill (source : String) (scope : List (String × Data)) : Except Fault String :=
  match parse source with
  | some body => fillNodes scope body
  | none => .error .malformed

end NavFactory.Template
