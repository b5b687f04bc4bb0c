import NavFactory.Source.Tree
import NavFactory.Value

/-!
# Values of literal expressions

Constants, signed and complex numbers, and displays of literals have a value; no other expression has.
-/

namespace NavFactory.Source

open Number (Double)

/-- Why an expression has no value. -/
inductive EvaluationFault
  | notLiteral
  /-- An integer is too large to be added to an imaginary number. -/
  | tooLarge
deriving DecidableEq

/-- The value of a constant. -/
def Constant.value : Constant → Value
  | .none => .none
  | .bool b => .bool b
  | .ellipsis => .ellipsis
  | .int n => .int n
  | .real x => .real x
  | .imaginary x => .complex Double.zero x
  | .text s _ => .text s
  | .bytes bs => .bytes bs

/-- A number that is a constant by itself. -/
def plainNumber : Expr → Option Value
  | .constant _ (.int n) => some (.int n)
  | .constant _ (.real x) => some (.real x)
  | .constant _ (.imaginary x) => some (.complex Double.zero x)
  | _ => none

/-- The number with the opposite sign. -/
def negated : Value → Value
  | .int i => .int (-i)
  | .real x => .real x.neg
  | .complex re im => .complex re.neg im.neg
  | v => v

/-- A constant number with a sign or without. -/
def signedNumber : Expr → Option Value
  | .unary _ .plus e => plainNumber e
  | .unary _ .minus e => (plainNumber e).map negated
  | e => plainNumber e

/-- The sum of a number and zero, which is a positive zero even for a negative one. -/
private def plusZero (x : Double) : Double := if x == Double.zero.neg then Double.zero else x

/-- Zero minus a number. -/
private def zeroMinus (x : Double) : Double := if x.isZero then Double.zero else x.neg

/-- The sum or difference of a real number and an imaginary one. -/
def complexNumber (isSum : Bool) (left right : Value) : Except EvaluationFault Value :=
  let combine (x im : Double) : Value :=
    if isSum then .complex (plusZero x) (plusZero im) else .complex x (zeroMinus im)
  match left, right with
  | .int i, .complex _ im =>
    match Double.ofInt? i with
    | some x => .ok (combine x im)
    | none => .error .tooLarge
  | .real x, .complex _ im => .ok (combine x im)
  | _, _ => .error .notLiteral

mutual

/-- The value of a literal expression. -/
def literalValue : Expr → Except EvaluationFault Value
  | .constant _ c => .ok c.value
  | .tuple _ items => do .ok (.tuple (← literalValues items))
  | .list _ items => do .ok (.list (← literalValues items))
  | .set _ items => do .ok (.set (← setValues [] items))
  | .call _ (.name _ "set") [] [] => .ok (.set [])
  | .dict _ entries => do .ok (.dict (← entryValues [] entries))
  | .binary _ op left right =>
    if op == .add || op == .sub then
      match signedNumber left, plainNumber right with
      | some l, some r => complexNumber (op == .add) l r
      | _, _ => .error .notLiteral
    else .error .notLiteral
  | e => match signedNumber e with
    | some v => .ok v
    | none => .error .notLiteral

/-- The values of several literal expressions. -/
def literalValues : List Expr → Except EvaluationFault (List Value)
  | [] => .ok []
  | e :: rest => do .ok ((← literalValue e) :: (← literalValues rest))

/-- The values of the items of a set, of which none may change and equals count once. -/
def setValues (found : List Value) : List Expr → Except EvaluationFault (List Value)
  | [] => .ok found
  | e :: rest => do
    let v ← literalValue e
    if !v.isHashable then .error .notLiteral
    else if found.any (·.equals v) then setValues found rest
    else setValues (found ++ [v]) rest

/-- The values of the entries of a dictionary; of equal keys the first stays, with the last value. -/
def entryValues (found : List (Value × Value)) : List (Option Expr × Expr) →
    Except EvaluationFault (List (Value × Value))
  | [] => .ok found
  | (none, _) :: _ => .error .notLiteral
  | (some k, e) :: rest => do
    let key ← literalValue k
    let v ← literalValue e
    if !key.isHashable then .error .notLiteral
    else entryValues (Value.insertEntry key v found) rest

end

end NavFactory.Source
