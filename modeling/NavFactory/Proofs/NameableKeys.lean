import NavFactory.Proofs.ArgumentNames
import NavFactory.Proofs.Hiding

/-!
# Keys that give identifiers

The argument for a key is free whatever the key is.  It is an identifier exactly if the key holds no word character that
an identifier cannot hold in its place (`argumentName_usable_iff`): letters and numbers are more than that, so that the
argument for `area_m²` is no identifier.  For a key of ASCII characters it always is one (`isNameable_of_ascii`).
-/

namespace NavFactory

variable {key : String} {c : Char} {cs : List Char}

/-- Whether the word characters of a key may stand in an identifier, and the first one in front of it, unless it is a digit
and gets an underscore in front. -/
structure IsNameable (key : String) : Prop where
  continues : ∀ c ∈ Text.trimChars key.toList, Text.isWordChar c = true → Text.continuesIdentifier c = true
  starts : ∀ c ∈ (Text.trimChars key.toList).head?, Text.isWordChar c = true →
    Text.isDigitChar c = true ∨ Text.startsIdentifier c = true

/-! ### Characters -/

/-- A character of a key as the name made from the key has it. -/
def nameChar (c : Char) : Char := if Text.isWordChar c then c else '_'

private theorem continuesIdentifier_nameChar :
    Text.continuesIdentifier (nameChar c) = true ↔ (Text.isWordChar c = true → Text.continuesIdentifier c = true) := by
  have hunderscore : Text.continuesIdentifier '_' = true := by decide
  rw [nameChar]
  split_ifs with hword
  · simp [hword]
  · simp [hword, hunderscore]

private theorem startsIdentifier_nameChar :
    Text.startsIdentifier (nameChar c) = true ↔ (Text.isWordChar c = true → Text.startsIdentifier c = true) := by
  have hunderscore : Text.startsIdentifier '_' = true := by decide
  rw [nameChar]
  split_ifs with hword
  · simp [hword]
  · simp [hword, hunderscore]

/-- Only a digit of the key is one of the name. -/
private theorem isDigitChar_nameChar :
    Text.isDigitChar (nameChar c) = true ↔ Text.isWordChar c = true ∧ Text.isDigitChar c = true := by
  have hunderscore : Text.isDigitChar '_' = false := by decide
  rw [nameChar]
  split_ifs with hword
  · simp [hword]
  · simp [hword, hunderscore]

/-! ### Names -/

/-- The name made from a key. -/
theorem sanitizeKey_eq (key : String) : sanitizeKey key = match Text.trimChars key.toList with
    | [] => "_"
    | c :: rest =>
      if Text.isDigitChar (nameChar c) then String.ofList ('_' :: nameChar c :: rest.map nameChar)
      else String.ofList (nameChar c :: rest.map nameChar) := by
  rw [sanitizeKey]
  cases Text.trimChars key.toList <;> rfl

/-- The name made from a key is an identifier exactly if the key is nameable. -/
theorem isIdentifier_sanitizeKey_iff : Text.isIdentifier (sanitizeKey key) = true ↔ IsNameable key := by
  have hnameable : IsNameable key ↔
      (∀ c ∈ Text.trimChars key.toList, Text.isWordChar c = true → Text.continuesIdentifier c = true) ∧
        ∀ c ∈ (Text.trimChars key.toList).head?, Text.isWordChar c = true →
          Text.isDigitChar c = true ∨ Text.startsIdentifier c = true :=
    ⟨fun h => ⟨h.continues, h.starts⟩, fun h => ⟨h.1, h.2⟩⟩
  rw [hnameable, sanitizeKey_eq]
  cases Text.trimChars key.toList with
  | nil => simp [Text.isIdentifier, show Text.identifierChars ['_'] = true by decide]
  | cons c rest =>
    have hrest : (∀ d ∈ rest, Text.continuesIdentifier (nameChar d) = true) ↔
        ∀ d ∈ rest, Text.isWordChar d = true → Text.continuesIdentifier d = true :=
      forall₂_congr fun _ _ => continuesIdentifier_nameChar
    rw [List.forall_mem_cons, ← hrest, ← continuesIdentifier_nameChar]
    dsimp only
    split_ifs with hdigit
    · -- a digit continues the underscore in front of it
      have hword := isDigitChar_nameChar.1 hdigit
      simp [Text.isIdentifier, Text.identifierChars, show Text.startsIdentifier '_' = true by decide, hword]
    · have hstarts : (Text.isWordChar c = true → Text.isDigitChar c = true ∨ Text.startsIdentifier c = true) ↔
          Text.startsIdentifier (nameChar c) = true := by
        rw [startsIdentifier_nameChar]
        refine forall_congr' fun hword => or_iff_right fun hc => hdigit ?_
        exact isDigitChar_nameChar.2 ⟨hword, hc⟩
      have hcontinues := @Text.continuesIdentifier_of_starts (nameChar c)
      simp only [Text.isIdentifier, Text.identifierChars, String.toList_ofList, Bool.and_eq_true, List.all_map,
        List.all_eq_true, Function.comp_apply, List.head?_cons, Option.mem_some_iff, forall_eq', hstarts]
      exact ⟨fun h => ⟨⟨hcontinues h.1, h.2⟩, h.1⟩, fun h => ⟨h.2, h.1.2⟩⟩

/-- Underscores behind a name leave it an identifier or none. -/
theorem isIdentifier_underscored {name : String} (hne : name ≠ "") (n : Nat) :
    Text.isIdentifier (underscored name n) = Text.isIdentifier name := by
  have hunderscore : Text.continuesIdentifier '_' = true := by decide
  rw [Text.isIdentifier, Text.isIdentifier, underscored, String.toList_ofList]
  cases hname : name.toList with
  | nil => exact absurd (String.toList_eq_nil_iff.1 hname) hne
  | cons c rest => simp [Text.identifierChars, hunderscore]

theorem sanitizeKey_ne_empty (key : String) : sanitizeKey key ≠ "" := by
  rw [sanitizeKey_eq]
  cases Text.trimChars key.toList with
  | nil => decide
  | cons c rest =>
    dsimp only
    split_ifs <;> simp

/-! ### Keys of ASCII characters -/

private theorem trimRightChars_subset (cs : List Char) : Text.trimRightChars cs ⊆ cs := by
  induction cs with
  | nil => exact List.Subset.refl _
  | cons c rest ih =>
    rw [Text.trimRightChars, List.foldr_cons, ← Text.trimRightChars]
    split_ifs
    · exact List.nil_subset _
    · exact List.cons_subset_cons c ih

/-- A key of ASCII characters gives an identifier. -/
theorem isNameable_of_ascii (h : ∀ c ∈ key.toList, c.toNat < 0x80) : IsNameable key := by
  have hascii : ∀ c ∈ Text.trimChars key.toList, c.toNat < 0x80 := fun c hc =>
    h c ((List.dropWhile_suffix _).subset (trimRightChars_subset _ hc))
  have hword : ∀ {c : Char}, c.toNat < 0x80 → Text.isWordChar c = true →
      c.isAlpha = true ∨ c.isDigit = true ∨ c = '_' := by
    intro c hc hword
    simpa [Text.isWordChar, Text.classOf, hc, Char.isAlphanum, or_assoc] using hword
  constructor
  · intro c hc hc'
    obtain h | h | rfl := hword (hascii c hc) hc' <;>
      simp [Text.continuesIdentifier, Text.classOf, hascii _ hc, Char.isAlphanum, *]
  · intro c hc hc'
    have hmem := List.mem_of_head? hc
    obtain h | h | rfl := hword (hascii c hmem) hc' <;>
      simp [Text.isDigitChar, Text.startsIdentifier, Text.classOf, hascii _ hmem, *]

/-! ### Arguments -/

/-- The argument for a key is the name made from the key with as few underscores behind it as make it free: no reserved
word, not the list of the providers, and not taken.  It is an identifier exactly if the key is nameable. -/
theorem argumentName_usable_iff (key : String) (taken : List String) :
    (∃ n, argumentName key taken = underscored (sanitizeKey key) n ∧
      ∀ m < n, isBlockedArgument taken (underscored (sanitizeKey key) m) = true) ∧
    (Text.isReserved (argumentName key taken) = false ∧ argumentName key taken ≠ parameterList ∧
      argumentName key taken ∉ taken) ∧
    (Text.isIdentifier (argumentName key taken) = true ↔ IsNameable key) := by
  obtain ⟨n, hname, hfree, hleast⟩ := argumentName_eq key taken
  refine ⟨⟨n, hname, hleast⟩, ?_, ?_⟩
  · rw [← hname, isBlockedArgument_eq_false_iff, Bool.not_eq_true] at hfree
    exact hfree
  · rw [hname, isIdentifier_underscored (sanitizeKey_ne_empty key), isIdentifier_sanitizeKey_iff]

/-- The superscript of a unit is a word character that no identifier holds. -/
theorem exists_unusable_argument :
    ¬∀ (key : String) (taken : List String), Text.isBlankText key = false →
      Text.isIdentifier (argumentName key taken) = true ∧ Text.isReserved (argumentName key taken) = false ∧
        argumentName key taken ≠ parameterList ∧ argumentName key taken ∉ taken := by
  intro h
  have hidentifier := (h "area_m²" [] (by decide)).1
  rw [show argumentName "area_m²" [] = "area_m²" by decide +kernel] at hidentifier
  exact absurd hidentifier (by decide)

end NavFactory
