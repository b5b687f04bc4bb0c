import NavFactory.Proofs.MethodNames

/-!
# Names of groups

A group other than the default one can be part of a method name exactly if it is made of ASCII letters, digits and
underscores (`isValidGroup_iff`).  It stands there with its first letter in upper case and all others in lower case, so
that the methods of two groups have the same name exactly if the groups differ in nothing but the case of their
letters (`groupSuffix_eq_iff`).
-/

namespace NavFactory

/-- Whether a text is made of ASCII letters, digits and underscores. -/
def IsGroupName (group : String) : Prop := group ≠ "" ∧ ∀ c ∈ group.toList, c.isAlphanum = true ∨ c = '_'

/-! ### Case of ASCII characters -/

/-- What holds of all code points up to `0x7F` holds of ASCII characters. -/
private theorem of_ascii {p : Char → Prop} (h : ∀ n < 0x80, p (Char.ofNat n)) {c : Char} (hc : c.toNat < 0x80) : p c :=
  Char.ofNat_toNat c ▸ h c.toNat hc

private theorem ascii_of_isAlphanum {c : Char} (h : c.isAlphanum = true ∨ c = '_') : c.toNat < 0x80 := by
  rcases h with h | rfl
  · change ((decide (65 ≤ c.val ∧ c.val ≤ 90) || (97 ≤ c.val && c.val ≤ 122)) || (48 ≤ c.val && c.val ≤ 57)) = true at h
    simp only [Bool.or_eq_true, Bool.and_eq_true, decide_eq_true_eq, UInt32.le_iff_toNat_le] at h
    have htoNat : c.toNat = c.val.toNat := rfl
    rw [htoNat]
    rcases h with (⟨-, h⟩ | ⟨-, h⟩) | ⟨-, h⟩ <;> exact lt_of_le_of_lt h (by decide)
  · decide

private theorem lowerChar_ascii {c : Char} (hc : c.toNat < 0x80) : Text.lowerChar c = [c.toLower] := if_pos hc

private theorem upperChar_toLower {c : Char} (hc : c.toNat < 0x80) : Text.upperChar c.toLower = [c.toLower.toUpper] :=
  if_pos (of_ascii (p := fun c => c.toLower.toNat < 0x80) (by decide) hc)

/-- The upper-case form of a letter in lower case tells which letter it is. -/
private theorem toLower_toUpper_toLower {c : Char} (hc : c.toNat < 0x80) : c.toLower.toUpper.toLower = c.toLower :=
  of_ascii (p := fun c => c.toLower.toUpper.toLower = c.toLower) (by decide) hc

private theorem continuesIdentifier_toLower {c : Char} (hc : c.toNat < 0x80) :
    Text.continuesIdentifier c.toLower = true ↔ c.isAlphanum = true ∨ c = '_' :=
  of_ascii (p := fun c => Text.continuesIdentifier c.toLower = true ↔ c.isAlphanum = true ∨ c = '_') (by decide) hc

private theorem continuesIdentifier_toUpper {c : Char} (hc : c.toNat < 0x80) :
    Text.continuesIdentifier c.toLower.toUpper = true ↔ c.isAlphanum = true ∨ c = '_' :=
  of_ascii (p := fun c => Text.continuesIdentifier c.toLower.toUpper = true ↔ c.isAlphanum = true ∨ c = '_')
    (by decide) hc

private theorem lowerFrom_ascii (before : List Char) {cs : List Char} (hcs : ∀ c ∈ cs, c.toNat < 0x80) :
    Text.lowerFrom before cs = cs.map Char.toLower := by
  induction cs generalizing before with
  | nil => rfl
  | cons c rest ih =>
    obtain ⟨hc, hrest⟩ := List.forall_mem_cons.1 hcs
    have hsigma : (c == 'Σ') = false := beq_false_of_ne (by rintro rfl; exact absurd hc (by decide))
    rw [Text.lowerFrom, hsigma, ih _ hrest, lowerChar_ascii hc]
    rfl

/-! ### Groups as parts of names -/

/-- An ASCII group in a name: its first letter in upper case, the others in lower case. -/
private theorem toList_capitalizeGroup {group : String} {c : Char} {rest : List Char} (h : group.toList = c :: rest)
    (hascii : ∀ x ∈ group.toList, x.toNat < 0x80) :
    (capitalizeGroup group).toList = c.toLower.toUpper :: rest.map Char.toLower := by
  have hc := hascii c (h ▸ List.mem_cons_self)
  rw [capitalizeGroup, lowerFrom_ascii [] hascii, h, List.map_cons]
  simp [upperChar_toLower hc]

/-- A group can be part of a method name exactly if it is made of ASCII letters, digits and underscores. -/
theorem isValidGroup_iff {group : String} : isValidGroup group = true ↔ IsGroupName group := by
  have hempty : (!group.isEmpty) = true ↔ group ≠ "" := by simp
  have hall : group.toList.all (·.toNat < 0x80) = true ↔ ∀ c ∈ group.toList, c.toNat < 0x80 := by simp
  rw [isValidGroup, Bool.and_eq_true, Bool.and_eq_true, hempty, hall, IsGroupName, and_assoc]
  refine and_congr_right fun hne => ?_
  have hidentifier (hascii : ∀ c ∈ group.toList, c.toNat < 0x80) :
      Text.isIdentifier ("For" ++ capitalizeGroup group) = true ↔
        ∀ c ∈ group.toList, c.isAlphanum = true ∨ c = '_' := by
    have hlist : group.toList ≠ [] := by simpa using hne
    obtain ⟨c, rest, hcons⟩ := List.exists_cons_of_ne_nil hlist
    have hc := hascii c (hcons ▸ List.mem_cons_self)
    have hrest : ∀ x ∈ rest, x.toNat < 0x80 := fun x hx => hascii x (hcons ▸ List.mem_cons_of_mem _ hx)
    have hfor : "For".toList = ['F', 'o', 'r'] := by decide
    have hstart : Text.startsIdentifier 'F' = true := by decide
    have ho : Text.continuesIdentifier 'o' = true := by decide
    have hr : Text.continuesIdentifier 'r' = true := by decide
    rw [Text.isIdentifier, String.toList_append, toList_capitalizeGroup hcons hascii, hfor, hcons]
    simp only [List.cons_append, List.nil_append, Text.identifierChars, hstart, List.all_cons, ho, hr, Bool.true_and,
      Bool.and_eq_true, List.all_map, List.all_eq_true, Function.comp_apply, List.forall_mem_cons,
      continuesIdentifier_toUpper hc]
    exact and_congr_right fun _ => forall₂_congr fun x hx => continuesIdentifier_toLower (hrest x hx)
  constructor
  · rintro ⟨hascii, h⟩
    exact (hidentifier hascii).1 h
  · intro h
    have hascii : ∀ c ∈ group.toList, c.toNat < 0x80 := fun c hc => ascii_of_isAlphanum (h c hc)
    exact ⟨hascii, (hidentifier hascii).2 h⟩

/-- Two groups are the same in names exactly if they are equal but for the case of their letters. -/
private theorem capitalizeGroup_eq_iff {g h : String} (hg : IsGroupName g) (hh : IsGroupName h) :
    capitalizeGroup g = capitalizeGroup h ↔ g.toLower = h.toLower := by
  have hlist {s : String} (hs : IsGroupName s) : ∃ c rest, s.toList = c :: rest :=
    List.exists_cons_of_ne_nil (by simpa using hs.1)
  have hascii {s : String} (hs : IsGroupName s) : ∀ c ∈ s.toList, c.toNat < 0x80 :=
    fun c hc => ascii_of_isAlphanum (hs.2 c hc)
  obtain ⟨c, cs, hc⟩ := hlist hg
  obtain ⟨d, ds, hd⟩ := hlist hh
  have hcascii := hascii hg c (hc ▸ List.mem_cons_self)
  have hdascii := hascii hh d (hd ▸ List.mem_cons_self)
  have hfirst : c.toLower.toUpper = d.toLower.toUpper ↔ c.toLower = d.toLower := by
    constructor
    · intro h
      rw [← toLower_toUpper_toLower hcascii, h, toLower_toUpper_toLower hdascii]
    · exact congrArg Char.toUpper
  have hlower (s : String) : s.toLower.toList = s.toList.map Char.toLower := String.toList_map
  rw [← String.toList_inj, ← String.toList_inj, toList_capitalizeGroup hc (hascii hg),
    toList_capitalizeGroup hd (hascii hh), hlower, hlower, hc, hd, List.map_cons, List.map_cons, List.cons.injEq,
    List.cons.injEq, hfirst]

/-- The methods of two groups have the same name exactly if the groups are the same, or both are not the default one and
equal but for the case of their letters. -/
theorem groupSuffix_eq_iff {g h : String} (hg : g = defaultGroup ∨ IsGroupName g)
    (hh : h = defaultGroup ∨ IsGroupName h) :
    groupSuffix (some g) = groupSuffix (some h) ↔
      g = h ∨ g ≠ defaultGroup ∧ h ≠ defaultGroup ∧ g.toLower = h.toLower := by
  have hdefault : groupSuffix (some defaultGroup) = "" := rfl
  by_cases hgd : g = defaultGroup <;> by_cases hhd : h = defaultGroup
  · simp [hgd, hhd]
  · rw [hgd, hdefault]
    simp [(groupSuffix_other_ne hhd).symm, Ne.symm hhd]
  · rw [hhd, hdefault]
    simp [groupSuffix_other_ne hgd, hgd]
  · rw [groupSuffix_other hgd, groupSuffix_other hhd, String.append_right_inj,
      capitalizeGroup_eq_iff (hg.resolve_left hgd) (hh.resolve_left hhd)]
    constructor
    · exact fun hcase => Or.inr ⟨hgd, hhd, hcase⟩
    · rintro (rfl | ⟨-, -, hcase⟩)
      · rfl
      · exact hcase

end NavFactory
