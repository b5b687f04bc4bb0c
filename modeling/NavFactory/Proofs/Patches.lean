import NavFactory.Proofs.Agreement
import NavFactory.Proofs.Applying
import NavFactory.Proofs.Completion
import NavFactory.Proofs.Hunks

/-!
# Differences as patches

A hunk holds the lines of both sides that its heading names, and what stands between the hunks is the same on both
sides: so following the hunks of a patch gives the new text (`Diff.Covers.follow`).  But the lines are joined as they are,
and cut again at newlines only.  So the patch of a text whose only breaks are newlines can be applied exactly if each
of its lines but the last ends with one (`Diff.applyPatch_unified_iff`), which is the case if all lines of both texts
do.
-/

namespace NavFactory

namespace Diff

variable {left right more : List String} {i j k l m n : Nat} {r : Run} {rs : List Run} {hunk : Hunk} {hs : List Hunk}
  {line name before after : String} {lines : List String} {b : BodyLine}

/-! ### Stretches of lines -/

private theorem slice_eq (lines : List String) (i k : Nat) : slice lines i k = (lines.drop i).take (k - i) :=
  List.drop_take

private theorem slice_append (hi : i ≤ m) (hk : m ≤ k) (lines : List String) :
    slice lines i m ++ slice lines m k = slice lines i k := by
  rw [slice_eq, slice_eq, slice_eq, show k - i = (m - i) + (k - m) by omega, List.take_add, List.drop_drop,
    show i + (m - i) = m by omega]

private theorem length_slice (hk : k ≤ lines.length) (i : Nat) : (slice lines i k).length = k - i := by
  rw [slice, List.length_drop, List.length_take, Nat.min_eq_left hk]

/-- What is alike are the same lines. -/
private theorem Alike.take_drop (h : Alike left right i j n) : (left.drop i).take n = (right.drop j).take n := by
  refine List.ext_getElem? fun k => ?_
  by_cases hk : k < n
  · rw [List.getElem?_take_of_lt hk, List.getElem?_take_of_lt hk, List.getElem?_drop, List.getElem?_drop, h.same k hk]
  · rw [List.getElem?_eq_none, List.getElem?_eq_none] <;> rw [List.length_take] <;> omega

private theorem Alike.slice_eq (h : Alike left right i j n) : slice left i (i + n) = slice right j (j + n) := by
  rw [Diff.slice_eq, Diff.slice_eq, Nat.add_sub_cancel_left, Nat.add_sub_cancel_left, h.take_drop]

/-! ### Marked lines of runs -/

/-- The lines of a run with their marks. -/
def Run.body (r : Run) (left right : List String) : List BodyLine :=
  if r.kept then (slice left r.left r.leftEnd).map (⟨.kept, ·⟩)
  else (slice left r.left r.leftEnd).map (⟨.removed, ·⟩) ++ (slice right r.right r.rightEnd).map (⟨.added, ·⟩)

/-- The lines of several runs with their marks. -/
def runsBody (rs : List Run) (left right : List String) : List BodyLine := rs.flatMap (·.body left right)

private theorem lines_eq (r : Run) (left right : List String) :
    r.lines left right = (r.body left right).map BodyLine.text := by
  rw [Run.lines, Run.body]
  split_ifs
  · rw [List.map_map]
    rfl
  · rw [List.map_append, List.map_map, List.map_map]
    rfl

/-- A hunk is its heading and its marked lines. -/
private theorem hunkLines_eq (h : Leads left right i j hunk k l) (hne : hunk ≠ []) :
    hunkLines left right hunk = heading i k j l :: (runsBody hunk left right).map BodyLine.text := by
  obtain ⟨front, last, hlast⟩ := (List.eq_nil_or_concat' hunk).resolve_left hne
  have hends := (hlast ▸ h).of_concat
  have hgetLast : hunk.getLast? = some last := by rw [hlast, List.getLast?_concat]
  have hlines : hunk.flatMap (·.lines left right) = (runsBody hunk left right).map BodyLine.text := by
    rw [runsBody, List.map_flatMap]
    exact List.flatMap_congr fun r _ => lines_eq r left right
  cases h with
  | nil => exact absurd rfl hne
  | cons hi hj _ _ =>
    rw [hunkLines, hgetLast, List.head?_cons]
    dsimp only
    rw [hlines, hi, hj, hends.2.2.1, hends.2.2.2]
    rfl

private theorem oldLines_append (body body' : List BodyLine) :
    oldLines (body ++ body') = oldLines body ++ oldLines body' := List.flatMap_append

private theorem newLines_append (body body' : List BodyLine) :
    newLines (body ++ body') = newLines body ++ newLines body' := List.flatMap_append

/-- The lines of the old text in a run are those it covers, and so are the lines of the new text. -/
private theorem Run.Fits.lines_body (h : r.Fits left right) :
    oldLines (r.body left right) = slice left r.left r.leftEnd ∧
      newLines (r.body left right) = slice right r.right r.rightEnd := by
  have hold : ∀ lines : List String, oldLines (lines.map (⟨.kept, ·⟩)) = lines ∧
      oldLines (lines.map (⟨.removed, ·⟩)) = lines ∧ oldLines (lines.map (⟨.added, ·⟩)) = [] := fun lines => by
    simp [oldLines, List.flatMap_map, Mark.old]
  have hnew : ∀ lines : List String, newLines (lines.map (⟨.kept, ·⟩)) = lines ∧
      newLines (lines.map (⟨.removed, ·⟩)) = [] ∧ newLines (lines.map (⟨.added, ·⟩)) = lines := fun lines => by
    simp [newLines, List.flatMap_map, Mark.new]
  rw [Run.body]
  split_ifs with hkept
  · obtain ⟨n, hleft, hright, hsame⟩ := h.alike hkept
    rw [(hold _).1, (hnew _).1, hleft, hright, hsame.slice_eq]
    exact ⟨rfl, rfl⟩
  · rw [oldLines_append, newLines_append, (hold _).2.1, (hold _).2.2, (hnew _).2.1, (hnew _).2.2, List.append_nil,
      List.nil_append]
    exact ⟨rfl, rfl⟩

/-- Runs that lead from two positions to two others hold the lines between them. -/
private theorem Leads.lines_body (h : Leads left right i j rs k l) :
    oldLines (runsBody rs left right) = slice left i k ∧ newLines (runsBody rs left right) = slice right j l := by
  induction h with
  | nil => simp [runsBody, oldLines, newLines, slice_eq]
  | @cons i j k l r rs hi hj hr hrest ih =>
    obtain ⟨hold, hnew⟩ := hr.lines_body
    obtain ⟨hk, hl⟩ := hrest.le
    subst hi hj
    rw [runsBody, List.flatMap_cons, oldLines_append, newLines_append, hold, hnew, ← runsBody, ih.1, ih.2,
      slice_append hr.left_le hk, slice_append hr.right_le hl]
    exact ⟨rfl, rfl⟩

/-! ### Following the hunks -/

/-- Where a patch has been applied up to two positions. -/
def appliedTo (left right : List String) (i j : Nat) : Applied := ⟨i, left.drop i, right.take j, 0, 0⟩

/-- A heading leads over what is alike in front of its hunk. -/
private theorem step_heading (h : Alike left right i j n) (k l : Nat) :
    (appliedTo left right i j).step (.heading ⟨i + n, k - (i + n)⟩ ⟨j + n, l - (j + n)⟩) =
      some ⟨i + n, left.drop (i + n), right.take (j + n), k - (i + n), l - (j + n)⟩ := by
  have hi := h.left_le
  have hj := h.right_le
  have hgap : right.take j ++ (left.drop i).take n = right.take (j + n) := by rw [h.take_drop, List.take_add]
  rw [appliedTo, Applied.step]
  dsimp only
  rw [Nat.add_sub_cancel_left, List.drop_drop, hgap, if_pos]
  exact ⟨rfl, rfl, by omega, by rw [List.length_drop]; omega, by rw [List.length_take]; omega⟩

/-- A hunk is followed from what is in front of it to its end. -/
private theorem follow_hunkLines (hgap : Alike left right i j n) (hleads : Leads left right (i + n) (j + n) hunk k l)
    (hne : hunk ≠ []) (hk : k ≤ left.length) (hl : l ≤ right.length) (more : List String) :
    (appliedTo left right i j).follow (hunkLines left right hunk ++ more) = (appliedTo left right k l).follow more := by
  obtain ⟨hold, hnew⟩ := hleads.lines_body
  obtain ⟨hik, hjl⟩ := hleads.le
  have hlengthOld : (oldLines (runsBody hunk left right)).length = k - (i + n) := by rw [hold, length_slice hk]
  have hlengthNew : (newLines (runsBody hunk left right)).length = l - (j + n) := by rw [hnew, length_slice hl]
  have hwritten : right.take (j + n) ++ slice right (j + n) l = right.take l := by
    rw [slice_eq, ← List.take_add, Nat.add_sub_cancel' hjl]
  rw [hunkLines_eq hleads hne, List.cons_append, Applied.follow, readLine_heading, Option.bind_some, step_heading hgap,
    Option.bind_some, Applied.follow_body]
  · dsimp only
    rw [hlengthOld, hlengthNew, hnew, hwritten, List.drop_drop, Nat.add_sub_cancel' hik, Nat.sub_self, Nat.sub_self]
    rfl
  · rw [hold, slice_eq]
    exact List.take_prefix _ _
  · exact hlengthOld.le
  · exact hlengthNew.le

theorem Covers.le (h : Covers left right i j hs) : i ≤ left.length ∧ j ≤ right.length := by
  cases h with
  | nil _ hi hj => omega
  | cons hgap _ _ _ _ =>
    have := hgap.left_le
    have := hgap.right_le
    omega

/-- Following hunks that cover everything in which the sequences differ gives the right side. -/
theorem Covers.follow (h : Covers left right i j hs) :
    (appliedTo left right i j).follow (hs.flatMap (hunkLines left right)) = some right := by
  induction h with
  | @nil i j n hsame hi hj =>
    have hrest := hsame.take_drop
    rw [List.take_of_length_le, List.take_of_length_le] at hrest
    · rw [List.flatMap_nil, appliedTo, Applied.follow, if_pos ⟨rfl, rfl⟩, hrest, List.take_append_drop]
    all_goals
      rw [List.length_drop]
      omega
  | cons hgap hne hleads _ hrest ih =>
    rw [List.flatMap_cons, follow_hunkLines hgap hleads hne hrest.le.1 hrest.le.2, ih]

/-! ### Patches that are cut -/

private theorem mem_of_mem_body (h : b ∈ r.body left right) : b.line ∈ left ++ right := by
  have hslice : ∀ {line lines i k}, line ∈ slice lines i k → line ∈ lines := fun h =>
    List.mem_of_mem_take (List.mem_of_mem_drop h)
  rw [List.mem_append]
  rw [Run.body] at h
  split_ifs at h
  · obtain ⟨line, hline, rfl⟩ := List.mem_map.1 h
    exact .inl (hslice hline)
  · rcases List.mem_append.1 h with h | h <;> obtain ⟨line, hline, rfl⟩ := List.mem_map.1 h
    · exact .inl (hslice hline)
    · exact .inr (hslice hline)

/-- The marked lines of runs are lines. -/
private theorem isLine_of_mem_runsBody (hlines : ∀ line ∈ left ++ right, IsLine line) (h : b ∈ runsBody rs left right) :
    IsLine b.text := by
  obtain ⟨r, -, hb⟩ := List.mem_flatMap.1 h
  exact BodyLine.isLine_text (hlines _ (mem_of_mem_body hb))

/-- What holds of headings and of the marked lines of both sides holds of the lines of hunks. -/
private theorem Covers.forall_lines {p : String → Prop} (h : Covers left right i j hs)
    (hheading : ∀ i k j l, p (heading i k j l)) (hbody : ∀ b : BodyLine, b.line ∈ left ++ right → p b.text) :
    ∀ line ∈ hs.flatMap (hunkLines left right), p line := by
  induction h with
  | nil => simp
  | cons hgap hne hleads _ hrest ih =>
    rw [List.flatMap_cons, hunkLines_eq hleads hne]
    refine List.forall_mem_cons.2 ⟨hheading _ _ _ _, List.forall_mem_append.2 ⟨List.forall_mem_map.2 fun b hb => ?_, ih⟩⟩
    obtain ⟨r, -, hr⟩ := List.mem_flatMap.1 hb
    exact hbody b (mem_of_mem_body hr)

/-- The last line of a hunk that ends with kept lines ends with a newline if all lines of the left side but the last
do. -/
private theorem isTerminated_last (hends : EndsKept left hunk) (hlines : ∀ line ∈ left ++ right, IsLine line)
    (hplain : ∀ line ∈ left.dropLast, IsTerminated line) :
    ∀ b ∈ (runsBody hunk left right).getLast?, IsTerminated b.text := by
  obtain ⟨front, r, rfl, hkept, hlt, hle⟩ := hends
  intro b hb
  have hbody : r.body left right = (slice left r.left r.leftEnd).map (⟨.kept, ·⟩) := by rw [Run.body, if_pos hkept]
  have hne : r.body left right ≠ [] := by
    rw [hbody, ← List.length_pos_iff, List.length_map, length_slice hle.le]
    omega
  rw [runsBody, List.flatMap_append, List.flatMap_singleton, List.getLast?_append_of_ne_nil _ hne] at hb
  have hmem := List.mem_of_getLast? hb
  rw [BodyLine.isTerminated_text (hlines _ (mem_of_mem_body hmem))]
  rw [hbody] at hmem
  obtain ⟨line, hline, rfl⟩ := List.mem_map.1 hmem
  refine hplain line ?_
  rw [List.dropLast_eq_take]
  exact (List.take_prefix_take_left (by omega)).subset (List.mem_of_mem_drop hline)

/-- The end of a hunk can be told from the next one. -/
private theorem Covers.bounded (h : Covers left right k l hs) (hends : hs ≠ [] → EndsKept left hunk)
    (hlines : ∀ line ∈ left ++ right, IsLine line) (hplain : ∀ line ∈ left.dropLast, IsTerminated line) :
    Applied.Bounded (runsBody hunk left right) (hs.flatMap (hunkLines left right)) where
  lines _ hb := isLine_of_mem_runsBody hlines hb
  last hne := isTerminated_last (hends (by rintro rfl; exact hne rfl)) hlines hplain
  closes := by
    cases h with
    | nil => exact Applied.closes_nil
    | cons hgap hne hleads _ hrest =>
      rw [List.flatMap_cons, hunkLines_eq hleads hne]
      exact Applied.closes_heading _ _ _ _ _

private theorem mem_dropLast_append {α : Type} {x : α} {xs ys : List α} (h : x ∈ (xs ++ ys).dropLast) :
    x ∈ xs.dropLast ∨ ys ≠ [] ∧ x ∈ xs.getLast? ∨ x ∈ ys.dropLast := by
  cases ys with
  | nil => exact .inl (by rwa [List.append_nil] at h)
  | cons y ys =>
    rw [List.dropLast_append_of_ne_nil (List.cons_ne_nil _ _), List.mem_append] at h
    rcases h with h | h
    · obtain rfl | ⟨front, last, rfl⟩ := List.eq_nil_or_concat' xs
      · cases h
      · rw [List.dropLast_concat, List.getLast?_concat]
        rcases List.mem_append.1 h with h | h
        · exact .inl h
        · exact .inr (.inl ⟨List.cons_ne_nil _ _, by rw [List.mem_singleton.1 h]; rfl⟩)
    · exact .inr (.inr h)

/-- Hunks that are joined and cut again can be followed only if each of their lines but the last ends with a newline. -/
private theorem Covers.isTerminated_of_follow (h : Covers left right i j hs)
    (hlines : ∀ line ∈ left ++ right, IsLine line) (hplain : ∀ line ∈ left.dropLast, IsTerminated line) {a : Applied}
    (hfollow : a.follow (newlineLines (String.join (hs.flatMap (hunkLines left right)))) = some lines) :
    ∀ line ∈ (hs.flatMap (hunkLines left right)).dropLast, IsTerminated line := by
  induction h generalizing a with
  | nil => simp
  | @cons i j k l n hunk hs hgap hne hleads hends hrest ih =>
    obtain ⟨hheading, hend⟩ := isLine_heading (i + n) k (j + n) l
    have hbounded := hrest.bounded hends hlines hplain
    obtain ⟨hold, hnew⟩ := hleads.lines_body
    rw [List.flatMap_cons, hunkLines_eq hleads hne, List.cons_append] at hfollow ⊢
    rw [String.join_cons, hheading.newlineLines_append hend, Applied.follow, readLine_heading,
      Option.bind_some] at hfollow
    obtain ⟨a', hstep, hfollow⟩ := Option.bind_eq_some_iff.1 hfollow
    have hdue : a'.oldDue = k - (i + n) ∧ a'.newDue = l - (j + n) := by
      rw [Applied.step] at hstep
      dsimp only at hstep
      split_ifs at hstep
      obtain rfl := Option.some.inj hstep
      exact ⟨rfl, rfl⟩
    obtain ⟨hbody, _, hmore⟩ := Applied.isTerminated_of_follow hbounded
      (by rw [hold, length_slice hrest.le.1, hdue.1]) (by rw [hnew, length_slice hrest.le.2, hdue.2]) hfollow
    intro line hline
    rw [← List.singleton_append] at hline
    rcases mem_dropLast_append hline with hline | ⟨-, hline⟩ | hline
    · cases hline
    · rwa [← Option.mem_some.1 hline]
    · rcases mem_dropLast_append hline with hline | ⟨hne, hline⟩ | hline
      · rw [← List.map_dropLast] at hline
        obtain ⟨b, hb, rfl⟩ := List.mem_map.1 hline
        exact hbody b hb
      · rw [List.getLast?_map] at hline
        obtain ⟨b, hb, rfl⟩ := Option.mem_map.1 hline
        exact hbounded.last hne b hb
      · exact ih hmore line hline

/-! ### Patches of texts -/

/-- Whether newlines are the only breaks at which a text is cut into lines. -/
def IsPlain (s : String) : Prop := textLines s = newlineLines s

instance (s : String) : Decidable (IsPlain s) := inferInstanceAs (Decidable (_ = _))

/-- The lines of a patch that name the files. -/
def fileLines (name : String) : List String := ["--- a/" ++ name ++ "\n", "+++ b/" ++ name ++ "\n"]

private theorem fileLines_spec (h : '\n' ∉ name.toList) : ∀ line ∈ fileLines name, IsLine line ∧ IsTerminated line := by
  have hnames : '\n' ∉ ("--- a/" ++ name).toList ∧ '\n' ∉ ("+++ b/" ++ name).toList := by simp [h]
  exact List.forall_mem_cons.2 ⟨isLine_append_newline hnames.1,
    List.forall_mem_singleton.2 (isLine_append_newline hnames.2)⟩

/-- The patch of texts that differ names the files and has the lines of hunks. -/
private theorem patchLines_eq (h : left ≠ right) (name : String) :
    patchLines name left right = fileLines name ++ (hunks left right).flatMap (hunkLines left right) := by
  rw [patchLines]
  cases hhunks : hunks left right with
  | nil => exact absurd (eq_of_hunks_eq_nil hhunks) h
  | cons => rfl

private theorem applyPatch_of_cut {patch : String} (h : newlineLines patch = fileLines name ++ lines) :
    applyPatch name patch before = (Applied.follow ⟨0, newlineLines before, [], 0, 0⟩ lines).map String.join := by
  rw [applyPatch, h]
  exact if_pos ⟨rfl, rfl⟩

/-- A patch that can be applied has a line for each file name, so that the name does not have a newline. -/
private theorem notMem_of_applyPatch {patch : String} (h : applyPatch name patch before = some after) :
    '\n' ∉ name.toList := fun hmem => by
  rw [applyPatch] at h
  split at h
  · rename_i old new lines hcut
    split_ifs at h with hnames
    have hline := (isLine_of_mem_newlineLines (hcut ▸ List.mem_cons_self)).inner
    rw [hnames.1, String.toList_append, show "\n".toList = ['\n'] from rfl, List.dropLast_concat] at hline
    exact hline (by simp [hmem])
  · cases h

/-- The patch of empty texts does not name the files. -/
private theorem applyPatch_unified_empty (name : String) : applyPatch name (unified name "" "") "" = none := rfl

private theorem isLine_of_mem_sides (before after : String) :
    ∀ line ∈ textLines before ++ textLines after, IsLine line :=
  List.forall_mem_append.2 ⟨fun _ => isLine_of_mem_textLines, fun _ => isLine_of_mem_textLines⟩

private theorem textLines_ne (h : before ≠ after) : textLines before ≠ textLines after := fun heq => h (by
  rw [← join_textLines before, heq, join_textLines])

/-- The patch of a text whose only breaks are newlines can be applied to it exactly if the name of the file does not have
a newline and each line of the patch but the last ends with one. -/
theorem applyPatch_unified_iff (hplain : IsPlain before) (hne : before ≠ after) (name : String) :
    applyPatch name (unified name before after) before = some after ↔ '\n' ∉ name.toList ∧
      ∀ line ∈ (patchLines name (textLines before) (textLines after)).dropLast, IsTerminated line := by
  have hcovers := covers_hunks (textLines before) (textLines after)
  have hlines := isLine_of_mem_sides before after
  have hends : ∀ line ∈ (textLines before).dropLast, IsTerminated line := fun _ hline =>
    isTerminated_of_mem_dropLast (hplain ▸ hline)
  rw [unified, patchLines_eq (textLines_ne hne)]
  constructor
  · intro happly
    have hname := notMem_of_applyPatch happly
    have hfiles := fileLines_spec hname
    rw [applyPatch_of_cut (newlineLines_join_append hfiles _)] at happly
    obtain ⟨lines, hfollow, -⟩ := Option.map_eq_some_iff.1 happly
    refine ⟨hname, fun line hline => ?_⟩
    rcases mem_dropLast_append hline with hline | ⟨-, hline⟩ | hline
    · exact (hfiles line (List.mem_of_mem_dropLast hline)).2
    · exact (hfiles line (List.mem_of_getLast? hline)).2
    · exact hcovers.isTerminated_of_follow hlines hends hfollow line hline
  · rintro ⟨hname, hterminated⟩
    have hcut := newlineLines_join (List.forall_mem_append.2
      ⟨fun line hline => (fileLines_spec hname line hline).1,
        hcovers.forall_lines (fun _ _ _ _ => (isLine_heading _ _ _ _).1)
          fun b hb => BodyLine.isLine_text (hlines b.line hb)⟩) hterminated
    have hfollow := hcovers.follow
    rw [appliedTo, List.drop_zero, List.take_zero] at hfollow
    rw [applyPatch_of_cut hcut, ← hplain, hfollow, Option.map_some, join_textLines]

/-- A text whose lines all end with newlines has no other breaks. -/
theorem isPlain_of_isTerminated {s : String} (h : ∀ line ∈ textLines s, IsTerminated line) : IsPlain s := by
  have hcut : newlineLines (String.join (textLines s)) = textLines s :=
    newlineLines_join (fun _ => isLine_of_mem_textLines) fun line hline => h line (List.mem_of_mem_dropLast hline)
  rw [join_textLines] at hcut
  exact hcut.symm

/-- A patch of texts whose lines all end with newlines can be applied. -/
theorem applyPatch_unified_of_isTerminated (hne : before ≠ after) (hname : '\n' ∉ name.toList)
    (h : ∀ line ∈ textLines before ++ textLines after, IsTerminated line) :
    applyPatch name (unified name before after) before = some after := by
  have hplain : IsPlain before := isPlain_of_isTerminated fun line hline => h line (List.mem_append_left _ hline)
  refine (applyPatch_unified_iff hplain hne name).2 ⟨hname, fun line hline => ?_⟩
  have hmem := List.mem_of_mem_dropLast hline
  rw [patchLines_eq (textLines_ne hne)] at hmem
  rcases List.mem_append.1 hmem with hmem | hmem
  · exact (fileLines_spec hname line hmem).2
  · refine (covers_hunks _ _).forall_lines (fun _ _ _ _ => (isLine_heading _ _ _ _).2) (fun b hb => ?_) line hmem
    exact (BodyLine.isTerminated_text (isLine_of_mem_sides before after b.line hb)).2 (h b.line hb)

example : applyPatch "a.py" (unified "a.py" "a\nb\n" "a\nc\nd\n") "a\nb\n" = some "a\nc\nd\n" := by decide +kernel

end Diff

/-! ### Differences of files -/

namespace Output

open Diff

variable {tree : Entry} {directory : Path} {name text : String} {current : Option String} {files : Sources}
  {diffs : List (String × String)}

/-- A comparison tells of a file that is not as it should be. -/
theorem lookup_diff (hdiff : diff tree directory files = .ok diffs) (hnd : (files.map (·.1)).Nodup)
    (hmem : (name, text) ∈ files) (hcurrent : currentText tree (directory.child name) = .ok current)
    (hne : current ≠ some text) : diffs.lookup name = some (unified name (current.getD "") text) := by
  induction files generalizing diffs with
  | nil => cases hmem
  | cons file rest ih =>
    obtain ⟨hfresh, hnd⟩ := List.nodup_cons.1 hnd
    rw [diff_cons] at hdiff
    obtain ⟨found, hfound, hdiff⟩ := bind_eq_ok_iff.1 hdiff
    obtain ⟨more, hmore, rfl⟩ := map_eq_ok_iff.1 hdiff
    rcases List.mem_cons.1 hmem with rfl | hmem
    · have hstale : isCurrent tree directory (name, text) = false := by
        rw [Bool.eq_false_iff, ne_eq, isCurrent_iff, hcurrent, Except.ok.injEq]
        exact hne
      rw [hcurrent, Except.ok.injEq] at hfound
      rw [hstale, ← hfound]
      exact List.lookup_cons_self
    · have hother : (name == file.1) = false := by
        rw [beq_eq_false_iff_ne]
        rintro rfl
        exact hfresh (List.mem_map.2 ⟨_, hmem, rfl⟩)
      have hmore := ih hmore hnd hmem
      split_ifs
      · exact hmore
      · rwa [List.lookup_cons, hother]

/-- A comparison tells of every file that is not as it should be.  If newlines are the only breaks of the text on disk, or
there is none, the patch can be applied to it exactly if it is not the patch of a missing file that should be empty, the
name of the file does not have a newline, and each line of the patch but the last ends with a newline. -/
theorem diff_applies_iff (hread : ∀ file ∈ files, ∃ current, currentText tree (directory.child file.1) = .ok current)
    (hnd : (files.map (·.1)).Nodup) (hmem : (name, text) ∈ files)
    (hcurrent : currentText tree (directory.child name) = .ok current) (hne : current ≠ some text) :
    ∃ diffs patch, diff tree directory files = .ok diffs ∧ diffs.lookup name = some patch ∧
      (IsPlain (current.getD "") → (applyPatch name patch (current.getD "") = some text ↔
        '\n' ∉ name.toList ∧ (current = none → text ≠ "") ∧
          ∀ line ∈ (patchLines name (textLines (current.getD "")) (textLines text)).dropLast, IsTerminated line)) ∧
      ('\n' ∉ name.toList → (current = none → text ≠ "") →
        (∀ line ∈ textLines (current.getD "") ++ textLines text, IsTerminated line) →
          applyPatch name patch (current.getD "") = some text) := by
  cases hdiff : diff tree directory files with
  | error f =>
    obtain ⟨file, hfile, hf⟩ := exists_error_of_diff hdiff
    obtain ⟨found, hfound⟩ := hread file hfile
    rw [hf] at hfound
    cases hfound
  | ok diffs =>
    have hsame : current.getD "" = text ↔ current = none ∧ text = "" := by
      cases current <;> simp_all [eq_comm]
    refine ⟨diffs, _, rfl, lookup_diff hdiff hnd hmem hcurrent hne, fun hplain => ?_, fun hname hempty hends => ?_⟩
    · by_cases heq : current.getD "" = text
      · obtain ⟨hnone, htext⟩ := hsame.1 heq
        subst hnone htext
        exact iff_of_false (by rw [Option.getD_none, applyPatch_unified_empty]; exact nofun) fun h => h.2.1 rfl rfl
      · rw [applyPatch_unified_iff hplain heq]
        exact and_congr_right fun _ => (and_iff_right fun hnone htext => heq (hsame.2 ⟨hnone, htext⟩)).symm
    · exact applyPatch_unified_of_isTerminated (fun heq => hempty (hsame.1 heq).1 (hsame.1 heq).2) hname hends

theorem diff_applies_iff_package :
    let files : Sources := [("a.py", "a = 2\n"), ("b.py", "b = 1")]
    (∀ file ∈ files, ∃ current, currentText (packageTree "a = 1\n") (packagePath.child file.1) = .ok current) ∧
      (files.map (·.1)).Nodup ∧ ("a.py", "a = 2\n") ∈ files ∧
      currentText (packageTree "a = 1\n") (packagePath.child "a.py") = .ok (some "a = 1\n") ∧
      some "a = 1\n" ≠ some "a = 2\n" ∧
      ∃ diffs patch, diff (packageTree "a = 1\n") packagePath files = .ok diffs ∧ diffs.lookup "a.py" = some patch ∧
        (IsPlain "a = 1\n" → (applyPatch "a.py" patch "a = 1\n" = some "a = 2\n" ↔
          '\n' ∉ "a.py".toList ∧ (some "a = 1\n" = none → "a = 2\n" ≠ "") ∧
            ∀ line ∈ (patchLines "a.py" (textLines "a = 1\n") (textLines "a = 2\n")).dropLast, IsTerminated line)) ∧
        ('\n' ∉ "a.py".toList → (some "a = 1\n" = none → "a = 2\n" ≠ "") →
          (∀ line ∈ textLines "a = 1\n" ++ textLines "a = 2\n", IsTerminated line) →
            applyPatch "a.py" patch "a = 1\n" = some "a = 2\n") := by
  intro files
  have hcurrent : currentText (packageTree "a = 1\n") (packagePath.child "a.py") = .ok (some "a = 1\n") := by
    decide +kernel
  have hmissing : currentText (packageTree "a = 1\n") (packagePath.child "b.py") = .ok none := by decide +kernel
  have hread : ∀ file ∈ files, ∃ current,
      currentText (packageTree "a = 1\n") (packagePath.child file.1) = .ok current :=
    List.forall_mem_cons.2 ⟨⟨_, hcurrent⟩, List.forall_mem_singleton.2 ⟨_, hmissing⟩⟩
  have hnd : (files.map (·.1)).Nodup := by decide
  have hne : some "a = 1\n" ≠ some "a = 2\n" := by decide
  exact ⟨hread, hnd, List.mem_cons_self, hcurrent, hne, diff_applies_iff hread hnd List.mem_cons_self hcurrent hne⟩

/-- A patch may be of no use: a break that is no newline parts lines that are one in the patch, a last line without a
newline runs into the line behind it, and a missing file that should be empty has an empty patch. -/
theorem exists_useless_patch :
    (∃ patch, diff (packageTree "a\x0cb\n") packagePath [("a.py", "a\x0cc\n")] = .ok [("a.py", patch)] ∧
        applyPatch "a.py" patch "a\x0cb\n" ≠ some "a\x0cc\n") ∧
      (∃ patch, diff (packageTree "x = 1") packagePath [("a.py", "x = 2\n")] = .ok [("a.py", patch)] ∧
        applyPatch "a.py" patch "x = 1" ≠ some "x = 2\n") ∧
      ∃ patch, diff (packageTree "") packagePath [("b.py", "")] = .ok [("b.py", patch)] ∧
        applyPatch "b.py" patch "" ≠ some "" := by
  refine ⟨⟨"--- a/a.py\n+++ b/a.py\n@@ -1,2 +1,2 @@\n a\x0c-b\n+c\n", ?_⟩,
    ⟨"--- a/a.py\n+++ b/a.py\n@@ -1 +1 @@\n-x = 1+x = 2\n", ?_⟩, ⟨"", ?_⟩⟩ <;>
    decide +kernel

end Output

end NavFactory
