import Mathlib.Data.List.Infix
import NavFactory.Diff.Unified

/-!
# Common blocks

The blocks that a comparison of two sequences finds are the same on both sides and come one behind the other
(`chain_blocks`), whichever lines are too frequent to start a block.  The invariant of the search is that each length it
keeps is that of a common block with a known end (`Row`).
-/

namespace NavFactory.Diff

variable {left right : List String} {marked : List MarkedLine} {i j k l m n stop position : Nat} {best b c : Block}
  {before : List Nat} {bs cs : List Block} {line : String}

/-- Whether two sequences go on alike for some lines, each from a position of its own. -/
structure Alike (left right : List String) (i j n : Nat) : Prop where
  left_le : i + n ≤ left.length
  right_le : j + n ≤ right.length
  same : ∀ k < n, left[i + k]? = right[j + k]?

namespace Alike

theorem zero (hi : i ≤ left.length) (hj : j ≤ right.length) : Alike left right i j 0 :=
  ⟨hi, hj, fun _ hk => absurd hk (Nat.not_lt_zero _)⟩

/-- Two stretches one behind the other are one. -/
theorem append (h : Alike left right i j m) (h' : Alike left right (i + m) (j + m) n) : Alike left right i j (m + n) where
  left_le := by have := h'.left_le; omega
  right_le := by have := h'.right_le; omega
  same k hk := by
    by_cases hkm : k < m
    · exact h.same k hkm
    · have := h'.same (k - m) (by omega)
      rwa [show i + m + (k - m) = i + k by omega, show j + m + (k - m) = j + k by omega] at this

/-- A part of a stretch. -/
theorem part (h : Alike left right i j n) (hle : m + l ≤ n) : Alike left right (i + m) (j + m) l where
  left_le := by have := h.left_le; omega
  right_le := by have := h.right_le; omega
  same k hk := by
    have := h.same (m + k) (by omega)
    rwa [← Nat.add_assoc, ← Nat.add_assoc] at this

theorem start (h : Alike left right i j n) (hle : l ≤ n) : Alike left right i j l := by
  simpa using h.part (m := 0) (l := l) (by omega)

end Alike

/-! ### The longest block -/

/-- Whether lengths are those of common blocks: each ends on the left in front of `stop`, and on the right at the place of
the length. -/
def Row (left right : List String) (stop : Nat) (lengths : List Nat) : Prop :=
  ∀ j s, lengths[j]? = some s → s ≤ stop ∧ s ≤ j + 1 ∧ Alike left right (stop - s) (j + 1 - s) s

/-- Each length is one more than that of the block in front of both lines, if the lines are the same. -/
private theorem getElem?_nextLengths (line : String) (diagonal : Nat) (before : List Nat) (marked : List MarkedLine)
    (j : Nat) :
    (nextLengths line diagonal before marked)[j]? = marked[j]?.map fun entry =>
      if line == entry.1 && !entry.2 then (if j = 0 then diagonal else before[j - 1]?.getD 0) + 1 else 0 := by
  induction marked generalizing diagonal before j with
  | nil => rfl
  | cons entry rest ih =>
    rw [nextLengths]
    cases j with
    | zero => simp
    | succ j =>
      rw [List.getElem?_cons_succ, List.getElem?_cons_succ, ih]
      cases before <;> cases j <;> simp

/-- A row of lengths leads to the next one. -/
private theorem Row.next (h : Row left (marked.map (·.1)) stop before) (hline : left[stop]? = some line) :
    Row left (marked.map (·.1)) (stop + 1) (nextLengths line 0 before marked) := by
  intro j s hs
  obtain ⟨hstop, -⟩ := List.getElem?_eq_some_iff.1 hline
  rw [getElem?_nextLengths, Option.map_eq_some_iff] at hs
  obtain ⟨entry, hentry, rfl⟩ := hs
  obtain ⟨hj, -⟩ := List.getElem?_eq_some_iff.1 hentry
  have hj' : j < (marked.map (·.1)).length := by simpa using hj
  split_ifs with hsame hzero
  · -- the first line of the right side starts a block of its own
    subst hzero
    refine ⟨by omega, by omega, by omega, by omega, fun k hk => ?_⟩
    obtain rfl : k = 0 := by omega
    rw [Bool.and_eq_true, beq_iff_eq] at hsame
    simp [hline, hentry, hsame.1]
  · rw [Bool.and_eq_true, beq_iff_eq] at hsame
    have hlines : Alike left (marked.map (·.1)) stop j 1 := by
      refine ⟨by omega, by omega, fun k hk => ?_⟩
      obtain rfl : k = 0 := by omega
      simp [hline, hentry, hsame.1]
    cases hbefore : before[j - 1]? with
    | none => exact ⟨by simp, by simp, by simpa using hlines⟩
    | some s =>
      obtain ⟨hs, hsj, hblock⟩ := h (j - 1) s hbefore
      refine ⟨by simpa using hs, by simp; omega, ?_⟩
      have hjoined := hblock.append (n := 1) (by
        rwa [Nat.sub_add_cancel hs, show j - 1 + 1 - s + s = j by omega])
      rwa [Option.getD_some, show stop + 1 - (s + 1) = stop - s by omega, show j + 1 - (s + 1) = j - 1 + 1 - s by omega]
  · exact ⟨by omega, by omega, .zero (by omega) (by omega)⟩

/-- The better block is the old one or one of those that the lengths stand for. -/
private theorem betterBlock_cases (stop position : Nat) (best : Block) (lengths : List Nat) :
    betterBlock stop position best lengths = best ∨ ∃ j s, lengths[j]? = some s ∧
      betterBlock stop position best lengths = ⟨stop - s, position + j + 1 - s, s⟩ := by
  induction lengths generalizing position best with
  | nil => exact .inl rfl
  | cons size rest ih =>
    rw [betterBlock]
    obtain heq | ⟨j, s, hs, heq⟩ :=
      ih (position + 1) (if best.size < size then ⟨stop - size, position + 1 - size, size⟩ else best)
    · rw [heq]
      split_ifs
      · exact .inr ⟨0, size, rfl, rfl⟩
      · exact .inl rfl
    · exact .inr ⟨j + 1, s, hs, by rw [heq, show position + 1 + j + 1 = position + (j + 1) + 1 by omega]⟩

/-- Whether a block is the same on both sides. -/
def Common (left right : List String) (b : Block) : Prop := Alike left right b.left b.right b.size

private theorem common_longestFrom {lines : List String} (hlines : left.drop stop = lines)
    (hrow : Row left (marked.map (·.1)) stop before) (hbest : Common left (marked.map (·.1)) best) :
    Common left (marked.map (·.1)) (longestFrom marked stop before best lines) := by
  induction lines generalizing stop before best with
  | nil => exact hbest
  | cons line rest ih =>
    have hline : left[stop]? = some line := by
      rw [← List.head?_drop, hlines, List.head?_cons]
    have hnext := hrow.next hline
    rw [longestFrom]
    refine ih ?_ hnext ?_
    · rw [← List.tail_drop, hlines, List.tail_cons]
    · obtain heq | ⟨j, s, hs, heq⟩ := betterBlock_cases (stop + 1) 0 best (nextLengths line 0 before marked)
      · rwa [heq]
      · rw [heq, Nat.zero_add]
        exact (hnext j s hs).2.2

/-- The lines that are counted at the start of two sequences are the same. -/
private theorem same_of_lt_commonStart {lines : List String} (h : k < commonStart lines marked) :
    ∃ line, lines[k]? = some line ∧ (marked.map (·.1))[k]? = some line := by
  induction lines generalizing marked k with
  | nil => cases h
  | cons a as ih =>
    cases marked with
    | nil => cases h
    | cons entry rest =>
      rw [commonStart] at h
      split_ifs at h with hsame
      · cases k with
        | zero => exact ⟨a, rfl, by simp [beq_iff_eq.1 hsame]⟩
        | succ k => exact ih (Nat.lt_of_succ_lt_succ h)
      · cases h

private theorem commonStart_le (lines : List String) (marked : List MarkedLine) :
    commonStart lines marked ≤ lines.length ∧ commonStart lines marked ≤ marked.length := by
  induction lines generalizing marked with
  | nil => simp [commonStart]
  | cons a as ih =>
    cases marked with
    | nil => simp [commonStart]
    | cons entry rest =>
      have := ih rest
      rw [commonStart]
      split_ifs
      · simp only [List.length_cons]
        omega
      · simp

/-- What is counted behind two positions goes on alike. -/
private theorem alike_commonStart (hi : i ≤ left.length) (hj : j ≤ marked.length) :
    Alike left (marked.map (·.1)) i j (commonStart (left.drop i) (marked.drop j)) := by
  have hle := commonStart_le (left.drop i) (marked.drop j)
  rw [List.length_drop, List.length_drop] at hle
  refine ⟨by omega, by rw [List.length_map]; omega, fun k hk => ?_⟩
  obtain ⟨line, hleft, hright⟩ := same_of_lt_commonStart hk
  rw [List.getElem?_drop] at hleft
  rw [List.map_drop, List.getElem?_drop] at hright
  rw [hleft, hright]

/-- What is counted in front of two positions goes on alike up to them. -/
private theorem alike_commonEnd (hi : i ≤ left.length) (hj : j ≤ marked.length) :
    let size := commonStart (left.take i).reverse (marked.take j).reverse
    size ≤ i ∧ size ≤ j ∧ Alike left (marked.map (·.1)) (i - size) (j - size) size := by
  intro size
  have hle := commonStart_le (left.take i).reverse (marked.take j).reverse
  rw [List.length_reverse, List.length_take, List.length_reverse, List.length_take] at hle
  have hsize : size ≤ i ∧ size ≤ j := ⟨by omega, by omega⟩
  refine ⟨hsize.1, hsize.2, by omega, by rw [List.length_map]; omega, fun k hk => ?_⟩
  -- the lines are counted from the positions backwards
  obtain ⟨line, hleft, hright⟩ := same_of_lt_commonStart (show size - 1 - k < size by omega)
  rw [List.map_reverse, List.map_take] at hright
  rw [List.getElem?_reverse (by rw [List.length_take]; omega), List.length_take,
    List.getElem?_take_of_lt (by omega)] at hleft
  rw [List.getElem?_reverse (by rw [List.length_take, List.length_map]; omega), List.length_take, List.length_map,
    List.getElem?_take_of_lt (by omega)] at hright
  rw [show i - size + k = min i left.length - 1 - (size - 1 - k) by omega, hleft,
    show j - size + k = min j marked.length - 1 - (size - 1 - k) by omega, hright]

/-- The longest block is the same on both sides. -/
theorem common_longestBlock (left : List String) (marked : List MarkedLine) :
    Common left (marked.map (·.1)) (longestBlock left marked) := by
  have hempty : Common left (marked.map (·.1)) ⟨0, 0, 0⟩ := .zero (Nat.zero_le _) (Nat.zero_le _)
  have hnone : Row left (marked.map (·.1)) 0 [] := fun _ _ h => by cases h
  have hbest := common_longestFrom List.drop_zero hnone hempty
  rw [longestBlock]
  set best := longestFrom marked 0 [] ⟨0, 0, 0⟩ left
  have hleft : best.left + best.size ≤ left.length := hbest.left_le
  have hright : best.right + best.size ≤ marked.length := by simpa using hbest.right_le
  obtain ⟨hi, hj, hbefore⟩ := alike_commonEnd (show best.left ≤ left.length by omega)
    (show best.right ≤ marked.length by omega)
  have hbehind := alike_commonStart hleft hright
  refine (hbefore.append ?_).append ?_
  · rwa [Nat.sub_add_cancel hi, Nat.sub_add_cancel hj]
  · rwa [show best.left - _ + (_ + best.size) = best.left + best.size by omega,
      show best.right - _ + (_ + best.size) = best.right + best.size by omega]

/-! ### Blocks in order -/

/-- Whether blocks that are the same on both sides lie one behind the other between two positions. -/
inductive Chain (left right : List String) : Nat → Nat → List Block → Nat → Nat → Prop
  | nil {i j k l : Nat} : i ≤ k → j ≤ l → Chain left right i j [] k l
  | cons {i j k l : Nat} {b : Block} {bs : List Block} : i ≤ b.left → j ≤ b.right → 0 < b.size → Common left right b →
      Chain left right (b.left + b.size) (b.right + b.size) bs k l → Chain left right i j (b :: bs) k l

theorem Chain.of_le (h : Chain left right i j bs k l) (hi : m ≤ i) (hj : n ≤ j) : Chain left right m n bs k l := by
  cases h with
  | nil hk hl => exact .nil (Nat.le_trans hi hk) (Nat.le_trans hj hl)
  | cons hleft hright hsize hcommon hrest =>
    exact .cons (Nat.le_trans hi hleft) (Nat.le_trans hj hright) hsize hcommon hrest

theorem Chain.append (h : Chain left right i j bs k l) (h' : Chain left right k l cs m n) :
    Chain left right i j (bs ++ cs) m n := by
  induction h with
  | nil hk hl => exact h'.of_le hk hl
  | cons hleft hright hsize hcommon _ ih => exact .cons hleft hright hsize hcommon (ih h')

private theorem getElem?_of_prefix {part : List String} (h : part <+: left.drop i) (hk : k < part.length) :
    left[i + k]? = part[k]? := by
  obtain ⟨rest, hrest⟩ := h
  rw [← List.getElem?_drop, ← hrest, List.getElem?_append_left hk]

/-- A stretch of parts of two sequences is one of the sequences. -/
private theorem Alike.whole {leftPart rightPart : List String} (h : Alike leftPart rightPart k l n)
    (hleft : leftPart <+: left.drop i) (hright : rightPart <+: right.drop j) (hi : i ≤ left.length)
    (hj : j ≤ right.length) : Alike left right (i + k) (j + l) n := by
  have hlengthLeft := hleft.length_le
  have hlengthRight := hright.length_le
  rw [List.length_drop] at hlengthLeft hlengthRight
  obtain ⟨hleft_le, hright_le, hsame⟩ := h
  refine ⟨by omega, by omega, fun m hm => ?_⟩
  rw [Nat.add_assoc, Nat.add_assoc, getElem?_of_prefix hleft (by omega), getElem?_of_prefix hright (by omega), hsame m hm]

/-- Blocks of parts of two sequences are blocks of the sequences. -/
private theorem chain_blocksFrom {part : List String} {markedPart : List MarkedLine} {fuel : Nat}
    (hpart : part <+: left.drop i) (hmarked : markedPart.map (·.1) <+: right.drop j)
    (hi : i ≤ left.length) (hj : j ≤ right.length) :
    Chain left right i j (blocksFrom fuel i j part markedPart) (i + part.length) (j + markedPart.length) := by
  induction fuel generalizing i j part markedPart with
  | zero => exact .nil (Nat.le_add_right _ _) (Nat.le_add_right _ _)
  | succ fuel ih =>
    have hbest : Alike part (markedPart.map (·.1)) _ _ _ := common_longestBlock part markedPart
    rw [blocksFrom]
    set best := longestBlock part markedPart
    split_ifs with hzero
    · exact .nil (Nat.le_add_right _ _) (Nat.le_add_right _ _)
    · have hleft_le := hbest.left_le
      have hright_le := hbest.right_le
      rw [List.length_map] at hright_le
      have hcommon : Alike left right (i + best.left) (j + best.right) best.size := hbest.whole hpart hmarked hi hj
      have hsize : 0 < best.size := Nat.pos_of_ne_zero (by simpa using hzero)
      have hfront := @ih i j (part.take best.left) (markedPart.take best.right) ((List.take_prefix _ _).trans hpart)
        (by rw [List.map_take]; exact (List.take_prefix _ _).trans hmarked) hi hj
      have hback := @ih (i + best.left + best.size) (j + best.right + best.size) (part.drop (best.left + best.size))
        (markedPart.drop (best.right + best.size))
        (by simpa only [List.drop_drop, Nat.add_assoc] using hpart.drop (best.left + best.size))
        (by simpa only [List.map_drop, List.drop_drop, Nat.add_assoc] using hmarked.drop (best.right + best.size))
        hcommon.left_le hcommon.right_le
      rw [List.length_take, List.length_take, Nat.min_eq_left (by omega), Nat.min_eq_left (by omega)] at hfront
      rw [List.length_drop, List.length_drop, show i + best.left + best.size + (part.length - (best.left + best.size)) =
          i + part.length by omega, show j + best.right + best.size + (markedPart.length - (best.right + best.size)) =
          j + markedPart.length by omega] at hback
      exact hfront.append (.cons (Nat.le_refl _) (Nat.le_refl _) hsize hcommon hback)

/-- The blocks of two sequences lie one behind the other. -/
theorem chain_blocks (left right : List String) :
    Chain left right 0 0 (blocks left right) left.length right.length := by
  have hmarks : (markFrequent right).map (·.1) = right := by simp [markFrequent, Function.comp_def]
  have hright : (markFrequent right).map (·.1) <+: right.drop 0 := by rw [hmarks, List.drop_zero]
  have hchain : Chain left right 0 0 (blocks left right) (0 + left.length) (0 + (markFrequent right).length) :=
    chain_blocksFrom (List.prefix_refl left) hright (Nat.zero_le _) (Nat.zero_le _)
  have hlength : (markFrequent right).length = right.length := by rw [← List.length_map (·.1), hmarks]
  rwa [Nat.zero_add, Nat.zero_add, hlength] at hchain

/-- Blocks that are joined still lie one behind the other. -/
theorem Chain.joinBlocks (h : Chain left right i j bs k l) : Chain left right i j (joinBlocks bs) k l := by
  induction h with
  | nil hk hl => exact .nil hk hl
  | @cons i j k l b bs hleft hright hsize hcommon hrest ih =>
    rw [Diff.joinBlocks]
    cases hjoined : Diff.joinBlocks bs with
    | nil =>
      rw [hjoined] at ih
      exact .cons hleft hright hsize hcommon ih
    | cons c more =>
      rw [hjoined] at ih
      dsimp only
      split_ifs with hadjacent
      · rw [Bool.and_eq_true, beq_iff_eq, beq_iff_eq] at hadjacent
        cases ih with
        | cons _ _ hsize' hcommon' hmore =>
          rw [Common, ← hadjacent.1, ← hadjacent.2] at hcommon'
          rw [← hadjacent.1, ← hadjacent.2, Nat.add_assoc, Nat.add_assoc] at hmore
          exact .cons hleft hright (Nat.add_pos_left hsize _) (Alike.append hcommon hcommon') hmore
      · exact .cons hleft hright hsize hcommon ih

end NavFactory.Diff
