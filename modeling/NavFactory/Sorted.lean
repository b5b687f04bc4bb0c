/-!
# Sorted lists

Stable insertion sort by a strict order.  `sortBy` keeps every element (`mem_sortBy`, `length_sortBy`), and elements
that the order does not separate stay in the order in which they came.
-/

namespace NavFactory

variable {α : Type}

/-- Puts an element in front of the first one that is not before it. -/
def insertBy (before : α → α → Bool) (x : α) : List α → List α
  | [] => [x]
  | y :: ys => if before y x then y :: insertBy before x ys else x :: y :: ys

/-- The elements in increasing order; equals keep their order. -/
def sortBy (before : α → α → Bool) : List α → List α
  | [] => []
  | x :: xs => insertBy before x (sortBy before xs)

/-- Texts in the order of their code points. -/
def sortTexts (xs : List String) : List String := sortBy (fun a b => a < b) xs

/-- The elements without repetitions, each at its first place; `seen` holds those already passed. -/
def dedupeFrom [BEq α] (seen : List α) : List α → List α
  | [] => []
  | x :: xs => if seen.contains x then dedupeFrom seen xs else x :: dedupeFrom (x :: seen) xs

/-- The elements without repetitions, each at its first place. -/
def dedupe [BEq α] (xs : List α) : List α := dedupeFrom [] xs

theorem mem_insertBy {before : α → α → Bool} {x y : α} {l : List α} :
    y ∈ insertBy before x l ↔ y = x ∨ y ∈ l := by
  induction l with
  | nil => simp [insertBy]
  | cons a l ih =>
    unfold insertBy
    split
    · simp only [List.mem_cons, ih]
      exact or_left_comm
    · simp

theorem mem_sortBy {before : α → α → Bool} {x : α} {l : List α} : x ∈ sortBy before l ↔ x ∈ l := by
  induction l with
  | nil => simp [sortBy]
  | cons a l ih => simp [sortBy, mem_insertBy, ih]

private theorem length_insertBy (before : α → α → Bool) (x : α) (l : List α) :
    (insertBy before x l).length = l.length + 1 := by
  induction l with
  | nil => simp [insertBy]
  | cons a l ih =>
    unfold insertBy
    split <;> simp [ih]

theorem length_sortBy (before : α → α → Bool) (l : List α) : (sortBy before l).length = l.length := by
  induction l with
  | nil => simp [sortBy]
  | cons a l ih => simp [sortBy, length_insertBy, ih]

end NavFactory
