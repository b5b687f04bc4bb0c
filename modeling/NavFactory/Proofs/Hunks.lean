import NavFactory.Proofs.CommonBlocks

/-!
# Runs and hunks

The runs of two sequences lead from the start of both to their ends (`leads_runs`), and the hunks that they are gathered
into cover everything in which the sequences differ: between two hunks, in front of the first and behind the last both
sides go on alike (`covers_hunks`).  A hunk with another one behind it ends with kept lines.
-/

namespace NavFactory.Diff

variable {left right : List String} {i j k l m n : Nat} {bs : List Block} {r : Run} {rs rs' : List Run} {hunk : Hunk}
  {hs : List Hunk}

/-! ### Runs -/

/-- Whether a run lies on both sides, and is the same on both if it is kept. -/
structure Run.Fits (left right : List String) (r : Run) : Prop where
  left_le : r.left ≤ r.leftEnd
  right_le : r.right ≤ r.rightEnd
  leftEnd_le : r.leftEnd ≤ left.length
  rightEnd_le : r.rightEnd ≤ right.length
  alike : r.kept = true → ∃ n, r.leftEnd = r.left + n ∧ r.rightEnd = r.right + n ∧ Alike left right r.left r.right n

/-- Whether runs lead from a position on each side to another. -/
inductive Leads (left right : List String) : Nat → Nat → List Run → Nat → Nat → Prop
  | nil {i j : Nat} : Leads left right i j [] i j
  | cons {i j k l : Nat} {r : Run} {rs : List Run} : r.left = i → r.right = j → r.Fits left right →
      Leads left right r.leftEnd r.rightEnd rs k l → Leads left right i j (r :: rs) k l

namespace Leads

theorem append (h : Leads left right i j rs k l) (h' : Leads left right k l rs' m n) :
    Leads left right i j (rs ++ rs') m n := by
  induction h with
  | nil => exact h'
  | cons hi hj hr _ ih => exact .cons hi hj hr (ih h')

theorem singleton (h : r.Fits left right) : Leads left right r.left r.right [r] r.leftEnd r.rightEnd :=
  .cons rfl rfl h .nil

theorem le (h : Leads left right i j rs k l) : i ≤ k ∧ j ≤ l := by
  induction h with
  | nil => exact ⟨Nat.le_refl _, Nat.le_refl _⟩
  | cons hi hj hr _ ih =>
    subst hi hj
    exact ⟨Nat.le_trans hr.left_le ih.1, Nat.le_trans hr.right_le ih.2⟩

/-- The last of several runs. -/
theorem of_concat (h : Leads left right i j (rs ++ [r]) k l) :
    Leads left right i j rs r.left r.right ∧ r.Fits left right ∧ r.leftEnd = k ∧ r.rightEnd = l := by
  induction rs generalizing i j with
  | nil =>
    cases h with
    | cons hi hj hr hrest =>
      cases hrest with
      | nil => exact ⟨hi ▸ hj ▸ .nil, hr, rfl, rfl⟩
  | cons first rest ih =>
    cases h with
    | cons hi hj hfirst hrest =>
      obtain ⟨hfront, hlast⟩ := ih hrest
      exact ⟨.cons hi hj hfirst hfront, hlast⟩

/-- Kept runs lead on alike. -/
theorem alike (h : Leads left right i j rs k l) (hkept : ∀ r ∈ rs, r.kept = true) (hk : k ≤ left.length)
    (hl : l ≤ right.length) : ∃ n, k = i + n ∧ l = j + n ∧ Alike left right i j n := by
  induction h with
  | nil => exact ⟨0, rfl, rfl, .zero hk hl⟩
  | cons hi hj hr _ ih =>
    obtain ⟨hkept, hrest⟩ := List.forall_mem_cons.1 hkept
    obtain ⟨m, hleft, hright, hsame⟩ := hr.alike hkept
    obtain ⟨n, rfl, rfl, hbehind⟩ := ih hrest hk hl
    subst hi hj
    rw [hleft, hright] at hbehind ⊢
    exact ⟨m + n, Nat.add_assoc _ _ _, Nat.add_assoc _ _ _, hsame.append hbehind⟩

end Leads

private theorem leads_changeRun (hi : i ≤ k) (hj : j ≤ l) (hk : k ≤ left.length) (hl : l ≤ right.length) :
    Leads left right i j (changeRun i k j l) k l := by
  rw [changeRun]
  split_ifs with hchange
  · exact .singleton (r := ⟨false, i, k, j, l⟩) ⟨hi, hj, hk, hl, nofun⟩
  · simp only [Bool.or_eq_true, decide_eq_true_iff, not_or, Nat.not_lt] at hchange
    obtain rfl := Nat.le_antisymm hi hchange.1
    obtain rfl := Nat.le_antisymm hj hchange.2
    exact .nil

/-- Blocks one behind the other give runs that lead through them. -/
private theorem leads_runsFrom (h : Chain left right i j bs k l) (hk : k ≤ left.length) (hl : l ≤ right.length) :
    Leads left right i j (runsFrom i j k l bs) k l := by
  induction h with
  | nil hi hj => exact leads_changeRun hi hj hk hl
  | @cons i j k l b bs hleft hright _ hcommon _ ih =>
    have hblock : Alike left right b.left b.right b.size := hcommon
    have hkept : Run.Fits left right ⟨true, b.left, b.left + b.size, b.right, b.right + b.size⟩ :=
      ⟨Nat.le_add_right _ _, Nat.le_add_right _ _, hblock.left_le, hblock.right_le, fun _ => ⟨b.size, rfl, rfl, hblock⟩⟩
    have hchange := leads_changeRun hleft hright (Nat.le_trans hkept.left_le hkept.leftEnd_le)
      (Nat.le_trans hkept.right_le hkept.rightEnd_le)
    exact hchange.append (.cons rfl rfl hkept (ih hk hl))

/-- The runs of two sequences lead from their starts to their ends. -/
theorem leads_runs (left right : List String) :
    Leads left right 0 0 (runs left right) left.length right.length :=
  leads_runsFrom (chain_blocks left right).joinBlocks (Nat.le_refl _) (Nat.le_refl _)

/-! ### The ends of kept runs -/

/-- In front of the end of a run that stands before a change both sides go on alike. -/
private theorem Run.Fits.tail (h : r.Fits left right) : r.tail.Fits left right ∧
    (r.tail.leftEnd = r.leftEnd ∧ r.tail.rightEnd = r.rightEnd) ∧
    ∃ n, r.tail.left = r.left + n ∧ r.tail.right = r.right + n ∧ Alike left right r.left r.right n := by
  by_cases hkept : r.kept = true
  · obtain ⟨n, hleft, hright, hsame⟩ := h.alike hkept
    have htail : r.tail = { r with left := r.left + (n - contextSize), right := r.right + (n - contextSize) } := by
      rw [Run.tail, if_pos hkept, hleft, hright,
        show max r.left (r.left + n - contextSize) = r.left + (n - contextSize) by omega,
        show max r.right (r.right + n - contextSize) = r.right + (n - contextSize) by omega]
    have hle := h.leftEnd_le
    have hle' := h.rightEnd_le
    rw [htail]
    refine ⟨⟨by dsimp only; omega, by dsimp only; omega, hle, hle', fun _ => ⟨n - (n - contextSize), ?_, ?_, ?_⟩⟩,
      ⟨rfl, rfl⟩, n - contextSize, rfl, rfl, hsame.start (Nat.sub_le _ _)⟩
    · dsimp only
      omega
    · dsimp only
      omega
    · exact hsame.part (by omega)
  · rw [Run.tail, if_neg hkept]
    exact ⟨h, ⟨rfl, rfl⟩, 0, rfl, rfl,
      .zero (Nat.le_trans h.left_le h.leftEnd_le) (Nat.le_trans h.right_le h.rightEnd_le)⟩

/-- Behind the start of a run that stands behind a change both sides go on alike. -/
private theorem Run.Fits.head (h : r.Fits left right) : r.head.Fits left right ∧
    (r.head.left = r.left ∧ r.head.right = r.right) ∧
    ∃ n, r.leftEnd = r.head.leftEnd + n ∧ r.rightEnd = r.head.rightEnd + n ∧
      Alike left right r.head.leftEnd r.head.rightEnd n := by
  by_cases hkept : r.kept = true
  · obtain ⟨n, hleft, hright, hsame⟩ := h.alike hkept
    have hhead : r.head = { r with leftEnd := r.left + min n contextSize, rightEnd := r.right + min n contextSize } := by
      rw [Run.head, if_pos hkept, hleft, hright,
        show min (r.left + n) (r.left + contextSize) = r.left + min n contextSize by omega,
        show min (r.right + n) (r.right + contextSize) = r.right + min n contextSize by omega]
    have hle := h.leftEnd_le
    have hle' := h.rightEnd_le
    rw [hhead]
    refine ⟨⟨by dsimp only; omega, by dsimp only; omega, by dsimp only; omega, by dsimp only; omega,
      fun _ => ⟨min n contextSize, rfl, rfl, hsame.start (Nat.min_le_left _ _)⟩⟩, ⟨rfl, rfl⟩, n - min n contextSize,
      ?_, ?_, hsame.part (by omega)⟩
    · dsimp only
      omega
    · dsimp only
      omega
  · rw [Run.head, if_neg hkept]
    exact ⟨h, ⟨rfl, rfl⟩, 0, rfl, rfl, .zero h.leftEnd_le h.rightEnd_le⟩

/-! ### Hunks -/

/-- Whether a hunk ends with kept lines that are not the last ones of the left side. -/
def EndsKept (left : List String) (hunk : Hunk) : Prop :=
  ∃ front r, hunk = front ++ [r] ∧ r.kept = true ∧ r.left < r.leftEnd ∧ r.leftEnd < left.length

/-- Whether from two positions on everything is alike but for what hunks lead through. -/
inductive Covers (left right : List String) : Nat → Nat → List Hunk → Prop
  | nil {i j n : Nat} : Alike left right i j n → i + n = left.length → j + n = right.length → Covers left right i j []
  | cons {i j k l n : Nat} {hunk : Hunk} {hunks : List Hunk} : Alike left right i j n → hunk ≠ [] →
      Leads left right (i + n) (j + n) hunk k l → (hunks ≠ [] → EndsKept left hunk) → Covers left right k l hunks →
      Covers left right i j (hunk :: hunks)

/-- What is alike in front of hunks belongs to what they leave out. -/
theorem Covers.of_alike (h : Covers left right (i + n) (j + n) hs) (hsame : Alike left right i j n) :
    Covers left right i j hs := by
  cases h with
  | nil hrest hi hj => exact .nil (hsame.append hrest) (by omega) (by omega)
  | cons hgap hne hleads hends hrest =>
    rw [Nat.add_assoc, Nat.add_assoc] at hleads
    exact .cons (hsame.append hgap) hne hleads hends hrest

/-- A long kept run is parted between two hunks. -/
private theorem alike_head_tail (h : r.Fits left right) (hkept : r.kept = true)
    (hlong : 2 * contextSize < r.leftEnd - r.left) :
    ∃ n, r.tail.left = r.head.leftEnd + n ∧ r.tail.right = r.head.rightEnd + n ∧
      Alike left right r.head.leftEnd r.head.rightEnd n := by
  obtain ⟨n, hleft, hright, hsame⟩ := h.alike hkept
  rw [hleft] at hlong
  have hhead : r.head.leftEnd = r.left + contextSize ∧ r.head.rightEnd = r.right + contextSize := by
    rw [Run.head, if_pos hkept]
    dsimp only
    omega
  have htail : r.tail.left = r.left + (n - contextSize) ∧ r.tail.right = r.right + (n - contextSize) := by
    rw [Run.tail, if_pos hkept]
    dsimp only
    omega
  rw [hhead.1, hhead.2, htail.1, htail.2]
  exact ⟨n - 2 * contextSize, by omega, by omega, hsame.part (by omega)⟩

/-- A hunk that a long kept run closes ends with kept lines. -/
private theorem endsKept_head (h : r.Fits left right) (hkept : r.kept = true)
    (hlong : 2 * contextSize < r.leftEnd - r.left) (hunk : Hunk) : EndsKept left (r.head :: hunk).reverse := by
  have hle := h.leftEnd_le
  have hhead : r.head.left = r.left ∧ r.head.leftEnd = min r.leftEnd (r.left + contextSize) ∧ r.head.kept = true := by
    rw [Run.head, if_pos hkept]
    exact ⟨rfl, rfl, hkept⟩
  rw [contextSize] at hlong hhead
  exact ⟨hunk.reverse, r.head, List.reverse_cons, hhead.2.2, by omega, by omega⟩

/-- Runs that lead on from a hunk that has been begun are covered by it and by further hunks. -/
private theorem covers_hunksFrom (hhunk : Leads left right i j hunk.reverse k l) (hrs : Leads left right k l rs m n)
    (hends : ∃ p, Alike left right m n p ∧ m + p = left.length ∧ n + p = right.length) :
    Covers left right i j (hunksFrom hunk rs) := by
  obtain ⟨p, hsame, hm, hn⟩ := hends
  induction rs generalizing i j k l hunk with
  | nil =>
    cases hrs
    rw [hunksFrom]
    split_ifs with hany
    · obtain ⟨hi, hj⟩ := hhunk.le
      refine .cons (.zero (by omega) (by omega)) (fun hnil => ?_) hhunk (fun hnone => absurd rfl hnone) (.nil hsame hm hn)
      rw [List.reverse_eq_nil_iff.1 hnil] at hany
      cases hany
    · -- a hunk without a change leaves nothing to cover
      have hkept : ∀ r ∈ hunk.reverse, r.kept = true := by simpa using hany
      obtain ⟨q, rfl, rfl, hunchanged⟩ := hhunk.alike hkept (by omega) (by omega)
      exact .nil (hunchanged.append hsame) (by omega) (by omega)
  | cons r rest ih =>
    cases hrs with
    | cons hi hj hr hrest =>
      subst hi hj
      rw [hunksFrom]
      split_ifs with hlong
      · rw [Bool.and_eq_true, decide_eq_true_iff] at hlong
        obtain ⟨hheadFits, ⟨hleft, hright⟩, -⟩ := hr.head
        obtain ⟨htailFits, ⟨hleftEnd, hrightEnd⟩, -⟩ := hr.tail
        obtain ⟨gap, hgapLeft, hgapRight, hgap⟩ := alike_head_tail hr hlong.1 hlong.2
        have hclosed : Leads left right i j (r.head :: hunk).reverse r.head.leftEnd r.head.rightEnd := by
          rw [List.reverse_cons]
          exact hhunk.append (.cons hleft hright hheadFits .nil)
        have hopened : Leads left right r.tail.left r.tail.right [r.tail].reverse r.leftEnd r.rightEnd :=
          .cons rfl rfl htailFits (hleftEnd ▸ hrightEnd ▸ .nil)
        have hmore := ih hopened hrest
        rw [hgapLeft, hgapRight] at hmore
        have hends := hclosed.le
        exact .cons (.zero (Nat.le_trans hends.1 hheadFits.leftEnd_le) (Nat.le_trans hends.2 hheadFits.rightEnd_le))
          (by simp) hclosed (fun _ => endsKept_head hr hlong.1 hlong.2 hunk) (hmore.of_alike hgap)
      · refine ih ?_ hrest
        rw [List.reverse_cons]
        exact hhunk.append (.cons rfl rfl hr .nil)

/-- Runs that are trimmed leave out what is alike at their start and at their end. -/
private theorem leads_trimRuns (h : Leads left right i j rs k l) (hk : k ≤ left.length) (hl : l ≤ right.length) :
    ∃ n m p q, Alike left right i j n ∧ Leads left right (i + n) (j + n) (trimRuns rs) p q ∧
      Alike left right p q m ∧ p + m = k ∧ q + m = l := by
  cases h with
  | nil => exact ⟨0, 0, i, j, .zero hk hl, .nil, .zero hk hl, rfl, rfl⟩
  | @cons _ _ _ _ first rest hi hj hfirst hrest =>
    subst hi hj
    obtain ⟨htailFits, ⟨hleftEnd, hrightEnd⟩, n, hleft, hright, hfront⟩ := hfirst.tail
    have hleads : Leads left right first.tail.left first.tail.right (first.tail :: rest) k l :=
      .cons rfl rfl htailFits (hleftEnd ▸ hrightEnd ▸ hrest)
    obtain ⟨before, last, hsplit⟩ := (List.eq_nil_or_concat' (first.tail :: rest)).resolve_left (List.cons_ne_nil _ _)
    rw [hsplit] at hleads
    obtain ⟨hbefore, hlast, rfl, rfl⟩ := hleads.of_concat
    obtain ⟨hheadFits, ⟨hheadLeft, hheadRight⟩, m, hheadEnd, hheadRightEnd, hback⟩ := hlast.head
    have htrimmed : trimRuns (first :: rest) = before ++ [last.head] := by
      rw [trimRuns, hsplit]
      simp
    rw [hleft, hright] at hbefore
    rw [htrimmed]
    exact ⟨n, m, last.head.leftEnd, last.head.rightEnd, hfront,
      hbefore.append (.cons hheadLeft hheadRight hheadFits .nil),
      hback, hheadEnd.symm, hheadRightEnd.symm⟩

/-- The hunks of two sequences cover everything in which they differ. -/
theorem covers_hunks (left right : List String) : Covers left right 0 0 (hunks left right) := by
  obtain ⟨n, m, p, q, hfront, hleads, hback, hp, hq⟩ :=
    leads_trimRuns (leads_runs left right) (Nat.le_refl _) (Nat.le_refl _)
  have hbegun : Leads left right (0 + n) (0 + n) (List.reverse []) (0 + n) (0 + n) := .nil
  exact (covers_hunksFrom hbegun hleads ⟨m, hback, hp, hq⟩).of_alike hfront

/-- Only sequences that are the same have no hunks. -/
theorem eq_of_hunks_eq_nil (h : hunks left right = []) : left = right := by
  have hcovers := covers_hunks left right
  rw [h] at hcovers
  cases hcovers with
  | @nil _ _ n hsame hleft hright =>
    refine List.ext_getElem? fun k => ?_
    by_cases hk : k < n
    · simpa using hsame.same k hk
    · rw [List.getElem?_eq_none (by omega), List.getElem?_eq_none (by omega)]

end NavFactory.Diff
