import NavFactory.TypeRef
import NavFactory.Number.Double
import NavFactory.Text.Quoted

/-!
# Values

The values that a marker argument can have: the literals of the source language, type references and fragment
states.  Settings have values of the same kinds, and dates.  `Value.shown` writes a value as messages and generated
code show it; it fails only on an integer with more digits than may be written.
-/

namespace NavFactory

open Number (Double)

/-- The value of a marker argument or of a setting. -/
inductive Value
  | none
  | bool (b : Bool)
  | int (i : Int)
  | real (x : Double)
  | complex (re im : Double)
  | text (s : String)
  | bytes (bs : List UInt8)
  | list (items : List Value)
  | tuple (items : List Value)
  | set (items : List Value)
  | dict (entries : List (Value × Value))
  | ellipsis
  | typeRef (t : TypeRef)
  | state (m : FragmentState)
  | classObject (name : String)
  | moment (s : String)
deriving Inhabited

namespace Value

/-! ### Equality -/

mutual

private def decEq : (v w : Value) → Decidable (v = w)
  | .none, w => by cases w <;> first | exact isTrue rfl | exact isFalse nofun
  | .bool b, w => by
    cases w with
    | bool c => exact if h : b = c then isTrue (by rw [h]) else isFalse (by simpa using h)
    | _ => exact isFalse nofun
  | .int i, w => by
    cases w with
    | int j => exact if h : i = j then isTrue (by rw [h]) else isFalse (by simpa using h)
    | _ => exact isFalse nofun
  | .real x, w => by
    cases w with
    | real y => exact if h : x = y then isTrue (by rw [h]) else isFalse (by simpa using h)
    | _ => exact isFalse nofun
  | .complex a b, w => by
    cases w with
    | complex c d => exact if h : a = c ∧ b = d then isTrue (by rw [h.1, h.2]) else isFalse (by simpa using h)
    | _ => exact isFalse nofun
  | .text s, w => by
    cases w with
    | text t => exact if h : s = t then isTrue (by rw [h]) else isFalse (by simpa using h)
    | _ => exact isFalse nofun
  | .bytes s, w => by
    cases w with
    | bytes t => exact if h : s = t then isTrue (by rw [h]) else isFalse (by simpa using h)
    | _ => exact isFalse nofun
  | .list xs, w => by
    cases w with
    | list ys => exact match decEqList xs ys with
      | isTrue h => isTrue (by rw [h])
      | isFalse h => isFalse (by simpa using h)
    | _ => exact isFalse nofun
  | .tuple xs, w => by
    cases w with
    | tuple ys => exact match decEqList xs ys with
      | isTrue h => isTrue (by rw [h])
      | isFalse h => isFalse (by simpa using h)
    | _ => exact isFalse nofun
  | .set xs, w => by
    cases w with
    | set ys => exact match decEqList xs ys with
      | isTrue h => isTrue (by rw [h])
      | isFalse h => isFalse (by simpa using h)
    | _ => exact isFalse nofun
  | .dict xs, w => by
    cases w with
    | dict ys => exact match decEqEntries xs ys with
      | isTrue h => isTrue (by rw [h])
      | isFalse h => isFalse (by simpa using h)
    | _ => exact isFalse nofun
  | .ellipsis, w => by cases w <;> first | exact isTrue rfl | exact isFalse nofun
  | .typeRef s, w => by
    cases w with
    | typeRef t => exact if h : s = t then isTrue (by rw [h]) else isFalse (by simpa using h)
    | _ => exact isFalse nofun
  | .state s, w => by
    cases w with
    | state t => exact if h : s = t then isTrue (by rw [h]) else isFalse (by simpa using h)
    | _ => exact isFalse nofun
  | .classObject s, w => by
    cases w with
    | classObject t => exact if h : s = t then isTrue (by rw [h]) else isFalse (by simpa using h)
    | _ => exact isFalse nofun
  | .moment s, w => by
    cases w with
    | moment t => exact if h : s = t then isTrue (by rw [h]) else isFalse (by simpa using h)
    | _ => exact isFalse nofun

private def decEqList : (xs ys : List Value) → Decidable (xs = ys)
  | [], [] => isTrue rfl
  | [], _ :: _ => isFalse nofun
  | _ :: _, [] => isFalse nofun
  | x :: xs, y :: ys =>
    match decEq x y, decEqList xs ys with
    | isTrue h, isTrue hs => isTrue (by rw [h, hs])
    | isFalse h, _ => isFalse (by simp [h])
    | _, isFalse hs => isFalse (by simp [hs])

private def decEqEntries : (xs ys : List (Value × Value)) → Decidable (xs = ys)
  | [], [] => isTrue rfl
  | [], _ :: _ => isFalse nofun
  | _ :: _, [] => isFalse nofun
  | (k, v) :: xs, (l, w) :: ys =>
    match decEq k l, decEq v w, decEqEntries xs ys with
    | isTrue h, isTrue g, isTrue hs => isTrue (by rw [h, g, hs])
    | isFalse h, _, _ => isFalse (by simp [h])
    | _, isFalse g, _ => isFalse (by simp [g])
    | _, _, isFalse hs => isFalse (by simp [hs])

end

instance : DecidableEq Value := decEq

/-! ### Kinds of values -/

/-- The integer that a value is, the truth values excepted. -/
def asInt? : Value → Option Int
  | .int i => some i
  | _ => Option.none

/-- The text that a value is; a fragment state counts as the text it stands for. -/
def asText? : Value → Option String
  | .text s => some s
  | .state m => some m.text
  | _ => Option.none

def asBool? : Value → Option Bool
  | .bool b => some b
  | _ => Option.none

def asState? : Value → Option FragmentState
  | .state m => some m
  | _ => Option.none

def asType? : Value → Option TypeRef
  | .typeRef t => some t
  | _ => Option.none

/-! ### Values that count as the same key -/

/-- The integer that a value is equal to; numbers of all types and truth values can be equal to one. -/
def integerValue? : Value → Option Int
  | .bool b => some (if b then 1 else 0)
  | .int i => some i
  | .real x => x.toInt?
  | .complex re im => if im.isZero then re.toInt? else Option.none
  | _ => Option.none

/-- The real number that a value is. -/
def realValue? : Value → Option Double
  | .real x => some x
  | .complex re im => if im.isZero then some re else Option.none
  | _ => Option.none

mutual

/-- Whether two values count as the same key: numbers are compared by what they are worth, all else by content. -/
def equals : Value → Value → Bool
  | .tuple xs, .tuple ys => equalsList xs ys
  | .complex a b, .complex c d => Double.sameValue a c && Double.sameValue b d
  | v, w =>
    match v.integerValue?, w.integerValue? with
    | some i, some j => i == j
    | some _, Option.none => false
    | Option.none, some _ => false
    | Option.none, Option.none =>
      match v.realValue?, w.realValue? with
      | some x, some y => Double.sameValue x y
      | _, _ =>
        match v.asText?, w.asText? with
        | some s, some t => s == t
        | _, _ => v == w

/-- Whether two lists of values count as the same. -/
def equalsList : List Value → List Value → Bool
  | [], [] => true
  | x :: xs, y :: ys => equals x y && equalsList xs ys
  | _, _ => false

/-- Whether a value can be a key: it must not be one that can change, and hold none. -/
def isHashable : Value → Bool
  | .list _ => false
  | .set _ => false
  | .dict _ => false
  | .tuple items => allHashable items
  | _ => true

/-- Whether all of several values can be keys. -/
def allHashable : List Value → Bool
  | [] => true
  | v :: rest => isHashable v && allHashable rest

end

/-- Sets the value of a key; a key that is there stays as it is. -/
def insertEntry (key value : Value) : List (Value × Value) → List (Value × Value)
  | [] => [(key, value)]
  | (k, v) :: rest => if k.equals key then (k, value) :: rest else (k, v) :: insertEntry key value rest

/-! ### The text of a value -/

/-- An integer has more digits than may be written. -/
inductive DigitLimit
  | exceeded
deriving DecidableEq

/-- The largest number of digits that may be written. -/
def maxDigits : Nat := 4300

def DigitLimit.message : DigitLimit → String
  | .exceeded =>
    "Exceeds the limit (" ++ toString maxDigits ++ " digits) for integer string conversion; use " ++
      "sys.set_int_max_str_digits() to increase the limit"

/-- The decimal text of an integer. -/
def shownInt (i : Int) : Except DigitLimit String :=
  if Nat.pow 10 maxDigits ≤ i.natAbs then .error .exceeded else .ok (toString i)

/-- A complex number: the real part is left out when it is a positive zero. -/
def shownComplex (re im : Double) : String :=
  let imaginary := Double.write Double.complexPart im ++ "j"
  if re == Double.zero then imaginary
  else
    "(" ++ Double.write Double.complexPart re ++ (if im.isNegative && !im.isNan then "" else "+") ++ imaginary ++ ")"

/-- A type reference as messages show it. -/
def shownType (t : TypeRef) : String :=
  "TypeRef(module=" ++ Text.quote t.module ++ ", name=" ++ Text.quote t.name ++ ")"

private def joined (texts : List String) : String := ", ".intercalate texts

mutual

/-- A value as messages and generated code show it. -/
def shown : Value → Except DigitLimit String
  | .none => .ok "None"
  | .bool b => .ok (if b then "True" else "False")
  | .int i => shownInt i
  | .real x => .ok (Double.write Double.plain x)
  | .complex re im => .ok (shownComplex re im)
  | .text s => .ok (Text.quote s)
  | .bytes bs => .ok (Text.quoteBytes bs)
  | .list items => do .ok ("[" ++ joined (← shownItems items) ++ "]")
  | .tuple items => do
    let texts ← shownItems items
    .ok (match texts with
      | [only] => "(" ++ only ++ ",)"
      | _ => "(" ++ joined texts ++ ")")
  | .set items => do
    let texts ← shownItems items
    .ok (if texts.isEmpty then "set()" else "\x7b" ++ joined texts ++ "\x7d")
  | .dict entries => do .ok ("\x7b" ++ joined (← shownEntries entries) ++ "\x7d")
  | .ellipsis => .ok "Ellipsis"
  | .typeRef t => .ok (shownType t)
  | .state m => .ok m.shown
  | .classObject name => .ok ("<class '" ++ name ++ "'>")
  | .moment s => .ok s

/-- The texts of a list of values. -/
def shownItems : List Value → Except DigitLimit (List String)
  | [] => .ok []
  | v :: rest => do .ok ((← shown v) :: (← shownItems rest))

/-- The texts of the entries of a dictionary. -/
def shownEntries : List (Value × Value) → Except DigitLimit (List String)
  | [] => .ok []
  | (k, v) :: rest => do .ok (((← shown k) ++ ": " ++ (← shown v)) :: (← shownEntries rest))

end

end Value

end NavFactory
