import Mathlib.Data.List.Sort
import Mathlib.Data.Prod.Lex
import Mathlib.Data.String.Basic
import NavFactory.Sorted

/-!
# Order of sorted lists

`sortBy` permutes a list (`perm_sortBy`), and if it compares a key from a linear order then the keys of the result
increase (`pairwise_sortBy`); they increase strictly where no two elements share a key
(`pairwise_lt_sortBy`), so that the result is the only increasing arrangement of its elements (`sortBy_unique`).
Elements that share a key keep their order (`filter_sortBy`), so that the result depends on nothing but the order
within each key (`sortBy_congr`), and leaving out an element leaves it out of the result (`exists_sortBy_append`).
Sorting by an image and sorting the images are the same (`map_sortBy`).
`dedupe` keeps exactly the elements, each once (`mem_dedupe`, `nodup_dedupe`).
-/

namespace NavFactory

section Sorting

variable {α κ : Type} [LinearOrder κ] {before : α → α → Bool} {key : α → κ}

private theorem perm_insertBy (before : α → α → Bool) (x : α) (l : List α) :
    (insertBy before x l).Perm (x :: l) := by
  induction l with
  | nil => exact List.Perm.refl _
  | cons y ys ih =>
    unfold insertBy
    split
    · exact (ih.cons y).trans (List.Perm.swap x y ys)
    · exact List.Perm.refl _

/-- Sorting permutes a list. -/
theorem perm_sortBy (before : α → α → Bool) (l : List α) : (sortBy before l).Perm l := by
  induction l with
  | nil => exact List.Perm.refl _
  | cons x xs ih => exact (perm_insertBy before x _).trans (ih.cons x)

private theorem pairwise_insertBy (h : ∀ a b, before a b = true ↔ key a < key b) (x : α) {l : List α}
    (hl : l.Pairwise fun a b => key a ≤ key b) : (insertBy before x l).Pairwise fun a b => key a ≤ key b := by
  induction l with
  | nil => simp [insertBy]
  | cons y ys ih =>
    rw [List.pairwise_cons] at hl
    unfold insertBy
    split
    · rename_i hyx
      rw [h] at hyx
      rw [List.pairwise_cons]
      refine ⟨fun z hz => ?_, ih hl.2⟩
      rcases mem_insertBy.1 hz with rfl | hz
      · exact hyx.le
      · exact hl.1 z hz
    · rename_i hyx
      rw [h, not_lt] at hyx
      rw [List.pairwise_cons, List.pairwise_cons]
      refine ⟨fun z hz => ?_, hl⟩
      rcases List.mem_cons.1 hz with rfl | hz
      · exact hyx
      · exact hyx.trans (hl.1 z hz)

/-- Sorting by a key puts the keys in increasing order. -/
theorem pairwise_sortBy (h : ∀ a b, before a b = true ↔ key a < key b) (l : List α) :
    (sortBy before l).Pairwise fun a b => key a ≤ key b := by
  induction l with
  | nil => exact List.Pairwise.nil
  | cons x xs ih => exact pairwise_insertBy h x ih

/-- Sorting by a key that no two elements share puts the keys in strictly increasing order. -/
theorem pairwise_lt_sortBy (h : ∀ a b, before a b = true ↔ key a < key b) {l : List α}
    (hl : (l.map key).Nodup) : (sortBy before l).Pairwise fun a b => key a < key b := by
  have hne : (sortBy before l).Pairwise fun a b => key a ≠ key b := by
    have := ((perm_sortBy before l).map key).nodup_iff.2 hl
    rwa [List.Nodup, List.pairwise_map] at this
  exact ((pairwise_sortBy h l).and hne).imp fun ⟨hle, hne⟩ => lt_of_le_of_ne hle hne

variable (key) in
/-- A list with strictly increasing keys is the sorted form of each list with the same elements. -/
theorem sortBy_unique (h : ∀ a b, before a b = true ↔ key a < key b) {l l' : List α} (hl : (l.map key).Nodup)
    (hl' : l'.Pairwise fun a b => key a < key b) (hmem : ∀ x, x ∈ l ↔ x ∈ l') : sortBy before l = l' := by
  have hs := pairwise_lt_sortBy h hl
  have nodup_of_lt : ∀ {m : List α}, (m.Pairwise fun a b => key a < key b) → m.Nodup :=
    fun hm => hm.imp fun hlt e => absurd (congrArg key e) hlt.ne
  have hperm : (sortBy before l).Perm l' := by
    rw [List.perm_ext_iff_of_nodup (nodup_of_lt hs) (nodup_of_lt hl')]
    intro x
    rw [mem_sortBy, hmem]
  apply hperm.eq_of_pairwise _ hs hl'
  intro a b _ _ hab hba
  exact absurd hab (lt_asymm hba)

private theorem map_insertBy {β : Type} (f : β → α) (before : α → α → Bool) (x : β) (l : List β) :
    (insertBy (fun a b => before (f a) (f b)) x l).map f = insertBy before (f x) (l.map f) := by
  induction l with
  | nil => rfl
  | cons y ys ih =>
    rw [List.map_cons, insertBy, insertBy]
    split
    · rw [List.map_cons, ih]
    · rfl

/-- Sorting images is sorting by image. -/
theorem map_sortBy {β : Type} (f : β → α) (before : α → α → Bool) (l : List β) :
    (sortBy (fun a b => before (f a) (f b)) l).map f = sortBy before (l.map f) := by
  induction l with
  | nil => rfl
  | cons x xs ih => rw [sortBy, map_insertBy, ih, List.map_cons, sortBy]

/-! ### Stability -/

private theorem filter_insertBy (h : ∀ a b, before a b = true ↔ key a < key b) (x : α) (l : List α) (k : κ) :
    (insertBy before x l).filter (fun a => key a = k) = (x :: l).filter fun a => key a = k := by
  induction l with
  | nil => rfl
  | cons y ys ih =>
    unfold insertBy
    split
    · rename_i hyx
      rw [h] at hyx
      rw [List.filter_cons, ih]
      by_cases hx : key x = k
      · have hy : key y ≠ k := fun hy => absurd (hy.trans hx.symm) hyx.ne
        simp [hx, hy]
      · simp [List.filter_cons, hx]
    · rfl

/-- Sorting keeps the order of the elements of each key. -/
theorem filter_sortBy (h : ∀ a b, before a b = true ↔ key a < key b) (l : List α) (k : κ) :
    (sortBy before l).filter (fun a => key a = k) = l.filter fun a => key a = k := by
  induction l with
  | nil => rfl
  | cons x xs ih => simp only [sortBy, filter_insertBy h, List.filter_cons, ih]

/-- Two lists in the order of their keys are equal if they agree on the elements of each key. -/
private theorem eq_of_filter_eq {l l' : List α} (hl : l.Pairwise fun a b => key a ≤ key b)
    (hl' : l'.Pairwise fun a b => key a ≤ key b)
    (h : ∀ k, l.filter (fun a => key a = k) = l'.filter fun a => key a = k) : l = l' := by
  have hmem : ∀ x, x ∈ l ↔ x ∈ l' := by
    intro x
    have hx := congrArg (x ∈ ·) (h (key x))
    simpa using hx
  induction l generalizing l' with
  | nil => exact (List.eq_nil_iff_forall_not_mem.2 fun x hx => by simpa using (hmem x).2 hx).symm
  | cons a l ih =>
    cases l' with
    | nil => exact absurd ((hmem a).1 List.mem_cons_self) List.not_mem_nil
    | cons b l' =>
      rw [List.pairwise_cons] at hl hl'
      -- both lists begin with the least key
      have hab : key a = key b := by
        apply le_antisymm
        · rcases List.mem_cons.1 ((hmem b).2 List.mem_cons_self) with hb | hb
          · exact (congrArg key hb).ge
          · exact hl.1 b hb
        · rcases List.mem_cons.1 ((hmem a).1 List.mem_cons_self) with ha | ha
          · exact (congrArg key ha).ge
          · exact hl'.1 a ha
      obtain rfl : a = b := by
        have hfirst := h (key a)
        rw [List.filter_cons_of_pos (by simp), List.filter_cons_of_pos (by simp [hab])] at hfirst
        exact (List.cons.inj hfirst).1
      have htails : ∀ k, l.filter (fun c => key c = k) = l'.filter fun c => key c = k := by
        intro k
        have hk := h k
        simp only [List.filter_cons] at hk
        split at hk
        · exact (List.cons.inj hk).2
        · exact hk
      rw [ih hl.2 hl'.2 htails]
      intro x
      have hx := congrArg (x ∈ ·) (htails (key x))
      simpa using hx

/-- The sorted form of a list depends on nothing but the order within each key. -/
theorem sortBy_congr (h : ∀ a b, before a b = true ↔ key a < key b) {l l' : List α}
    (hl : ∀ k, l.filter (fun a => key a = k) = l'.filter fun a => key a = k) :
    sortBy before l = sortBy before l' := by
  apply eq_of_filter_eq (pairwise_sortBy h l) (pairwise_sortBy h l')
  intro k
  rw [filter_sortBy h, filter_sortBy h, hl]

private theorem exists_insertBy_append (before : α → α → Bool) (x : α) (l : List α) :
    ∃ a b, l = a ++ b ∧ insertBy before x l = a ++ x :: b := by
  induction l with
  | nil => exact ⟨[], [], rfl, rfl⟩
  | cons y ys ih =>
    unfold insertBy
    split
    · obtain ⟨a, b, hys, hinsert⟩ := ih
      exact ⟨y :: a, b, by rw [hys, List.cons_append], by rw [hinsert, List.cons_append]⟩
    · exact ⟨[], y :: ys, rfl, rfl⟩

private theorem insertBy_append (h : ∀ a b, before a b = true ↔ key a < key b) {a b : List α} {x : α}
    (hsorted : (a ++ x :: b).Pairwise fun a b => key a ≤ key b) (y : α) :
    ∃ a' b', insertBy before y (a ++ x :: b) = a' ++ x :: b' ∧ insertBy before y (a ++ b) = a' ++ b' ∧
      (∀ z ∈ a, z ∈ a') ∧ (key y ≤ key x → y ∈ a') := by
  induction a with
  | nil =>
    by_cases hxy : before x y = true
    · refine ⟨[], insertBy before y b, by simp [insertBy, hxy], rfl, by simp, fun hle => ?_⟩
      exact absurd ((h x y).1 hxy) hle.not_gt
    · refine ⟨[y], b, by simp [insertBy, hxy], ?_, by simp, by simp⟩
      cases b with
      | nil => rfl
      | cons z b =>
        have hyx : key y ≤ key x := not_lt.1 fun hlt => hxy ((h x y).2 hlt)
        have hxz : key x ≤ key z := (List.pairwise_cons.1 hsorted).1 z List.mem_cons_self
        have hzy : ¬before z y = true := fun hlt => absurd ((h z y).1 hlt) (hyx.trans hxz).not_gt
        simp [insertBy, hzy]
  | cons z a ih =>
    rw [List.cons_append, List.pairwise_cons] at hsorted
    by_cases hzy : before z y = true
    · obtain ⟨a', b', hwith, hwithout, hsub, hy⟩ := ih hsorted.2
      refine ⟨z :: a', b', by simp [insertBy, hzy, hwith], by simp [insertBy, hzy, hwithout], ?_, ?_⟩
      · intro w hw
        rcases List.mem_cons.1 hw with rfl | hw
        · exact List.mem_cons_self
        · exact List.mem_cons_of_mem z (hsub w hw)
      · exact fun hle => List.mem_cons_of_mem z (hy hle)
    · exact ⟨y :: z :: a, b, by simp [insertBy, hzy], by simp [insertBy, hzy], fun w hw => List.mem_cons_of_mem y hw,
        fun _ => List.mem_cons_self⟩

/-- An element that is left out of a list is left out of its sorted form; the elements in front of it that do not have
a greater key are still in front of it. -/
theorem exists_sortBy_append (h : ∀ a b, before a b = true ↔ key a < key b) (l₁ l₂ : List α) (x : α) :
    ∃ a b, sortBy before (l₁ ++ x :: l₂) = a ++ x :: b ∧ sortBy before (l₁ ++ l₂) = a ++ b ∧
      ∀ y ∈ l₁, key y ≤ key x → y ∈ a := by
  induction l₁ with
  | nil =>
    obtain ⟨a, b, hsort, hinsert⟩ := exists_insertBy_append before x (sortBy before l₂)
    exact ⟨a, b, hinsert, hsort, by simp⟩
  | cons z l₁ ih =>
    obtain ⟨a, b, hwith, hwithout, hfront⟩ := ih
    have hsorted := pairwise_sortBy h (l₁ ++ x :: l₂)
    rw [hwith] at hsorted
    obtain ⟨a', b', hwith', hwithout', hsub, hz⟩ := insertBy_append h hsorted z
    refine ⟨a', b', by rw [List.cons_append, sortBy, hwith, hwith'],
      by rw [List.cons_append, sortBy, hwithout, hwithout'], fun y hy hle => ?_⟩
    rcases List.mem_cons.1 hy with rfl | hy
    · exact hz hle
    · exact hsub y (hfront y hy hle)

end Sorting

section Association

variable {α β : Type} [BEq α] [LawfulBEq α]

/-- In a list where no key comes twice, what is found under a key is what stands there. -/
theorem lookup_eq_some_iff_mem {l : List (α × β)} (hnd : (l.map (·.1)).Nodup) {a : α} {b : β} :
    l.lookup a = some b ↔ (a, b) ∈ l := by
  induction l with
  | nil => simp
  | cons first rest ih =>
    obtain ⟨key, value⟩ := first
    rw [List.map_cons, List.nodup_cons] at hnd
    rw [List.mem_cons]
    by_cases hkey : a = key
    · subst hkey
      have hrest : (a, b) ∉ rest := fun hm => hnd.1 (List.mem_map.2 ⟨_, hm, rfl⟩)
      simp [hrest, eq_comm]
    · rw [List.lookup_cons, beq_false_of_ne hkey]
      simp [ih hnd.2, hkey]

end Association

section Dedupe

variable {α : Type} [BEq α] [LawfulBEq α]

private theorem mem_dedupeFrom {seen l : List α} {x : α} : x ∈ dedupeFrom seen l ↔ x ∈ l ∧ x ∉ seen := by
  induction l generalizing seen with
  | nil => simp [dedupeFrom]
  | cons y ys ih =>
    unfold dedupeFrom
    split
    · rename_i hy
      have hy : y ∈ seen := List.contains_iff_mem.1 hy
      rw [ih, List.mem_cons]
      constructor
      · rintro ⟨hx, hs⟩
        exact ⟨Or.inr hx, hs⟩
      · rintro ⟨rfl | hx, hs⟩
        · exact absurd hy hs
        · exact ⟨hx, hs⟩
    · rename_i hy
      have hy : y ∉ seen := fun h => hy (List.contains_iff_mem.2 h)
      rw [List.mem_cons, ih, List.mem_cons, List.mem_cons]
      by_cases hxy : x = y
      · subst hxy; simp [hy]
      · simp [hxy]

private theorem nodup_dedupeFrom (seen l : List α) : (dedupeFrom seen l).Nodup := by
  induction l generalizing seen with
  | nil => exact List.nodup_nil
  | cons y ys ih =>
    unfold dedupeFrom
    split
    · exact ih seen
    · rw [List.nodup_cons]
      refine ⟨fun hy => ?_, ih _⟩
      exact (mem_dedupeFrom.1 hy).2 List.mem_cons_self

/-- Of the elements seen only those count, not their order. -/
theorem dedupeFrom_congr {seen seen' : List α} (h : ∀ x, x ∈ seen ↔ x ∈ seen') (l : List α) :
    dedupeFrom seen l = dedupeFrom seen' l := by
  induction l generalizing seen seen' with
  | nil => rfl
  | cons y ys ih =>
    have hcontains : seen.contains y = seen'.contains y := by
      rw [Bool.eq_iff_iff, List.contains_iff_mem, List.contains_iff_mem]
      exact h y
    have hcons : ∀ x, x ∈ y :: seen ↔ x ∈ y :: seen' := fun x => by rw [List.mem_cons, List.mem_cons, h]
    rw [dedupeFrom, dedupeFrom, hcontains, ih h, ih hcons]

/-- The elements of a list are those of its form without repetitions. -/
theorem mem_dedupe {l : List α} {x : α} : x ∈ dedupe l ↔ x ∈ l := by
  simp [dedupe, mem_dedupeFrom]

theorem nodup_dedupe (l : List α) : (dedupe l).Nodup := nodup_dedupeFrom [] l

private theorem dedupeFrom_eq_self {seen l : List α} (hl : l.Nodup) (hnew : ∀ x ∈ l, x ∉ seen) :
    dedupeFrom seen l = l := by
  induction l generalizing seen with
  | nil => rfl
  | cons y ys ih =>
    obtain ⟨hy, hys⟩ := List.nodup_cons.1 hl
    have hseen : ¬seen.contains y = true := fun h => hnew y List.mem_cons_self (List.contains_iff_mem.1 h)
    rw [dedupeFrom, if_neg hseen, ih hys fun x hx => ?_]
    rw [List.mem_cons, not_or]
    exact ⟨fun he => hy (he ▸ hx), hnew x (List.mem_cons_of_mem _ hx)⟩

/-- A list without repetitions stays as it is. -/
theorem dedupe_eq_self {l : List α} (hl : l.Nodup) : dedupe l = l :=
  dedupeFrom_eq_self hl fun _ _ => List.not_mem_nil

end Dedupe

end NavFactory
