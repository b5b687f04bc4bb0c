import NavFactory.Source.Tree

/-!
# Targets of assignments

Names, attributes and subscripts can be assigned to, and so can tuples and lists of targets.
-/

namespace NavFactory.Source

/-- What a target is used for. -/
inductive TargetUse
  | assign
  | loop
  | delete
deriving DecidableEq

mutual

/-- The line of the first part of an expression that is not a target, if there is one. -/
def invalidTarget (use : TargetUse) : Expr → Option Nat
  | .name .. => none
  | .attribute .. => none
  | .subscript .. => none
  | .list _ items => firstInvalid use items
  | .tuple _ items => firstInvalid use items
  | .starred line value => if use == .delete then some line else invalidTarget use value
  | .compare line left rest =>
    match use, rest with
    | .loop, (.isIn, _) :: _ => invalidTarget use left
    | .loop, _ => none
    | _, _ => some line
  | e => some e.line

/-- The line of the first part of several expressions that is not a target. -/
def firstInvalid (use : TargetUse) : List Expr → Option Nat
  | [] => none
  | e :: rest => (invalidTarget use e).or (firstInvalid use rest)

end

/-- Whether an expression is a single target: a name, an attribute or a subscript. -/
def isSingleTarget : Expr → Bool
  | .name .. => true
  | .attribute .. => true
  | .subscript .. => true
  | _ => false

end NavFactory.Source
