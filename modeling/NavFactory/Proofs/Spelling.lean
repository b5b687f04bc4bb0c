import NavFactory.Proofs.BodyNames
import NavFactory.Proofs.DottedPaths
import NavFactory.Proofs.NameableKeys
import NavFactory.Proofs.Source.Levels
import NavFactory.Proofs.UsableParameters

/-!
# Spelling of generated names

The names that a container makes are words if what it makes them from are words: those under which it imports types
(`isWord_nameOf`), its arguments (`isWord_argumentName`) and its methods (`isWord_targetMethodName`).  Made from names, those
of types and methods are names again, which may be bound.
-/

namespace NavFactory

open Source (IsWord isNamePart isNameStart isForbidden)
open Source.Parser (isName)

/-! ### Characters in their places -/

/-- Whether characters start with one that may start a name and go on with those that may continue one. -/
structure IsFormed (starts continues : Char → Bool) (cs : List Char) : Prop where
  start : ∃ c rest, cs = c :: rest ∧ starts c
  parts : ∀ c ∈ cs, continues c

section Forms

variable {starts continues : Char → Bool} {cs ds : List Char} {w module : String} {u : TypeRef}

theorem isWord_iff : IsWord cs ↔ IsFormed isNameStart isNamePart cs := ⟨fun h => ⟨h.1, h.2⟩, fun h => ⟨h.1, h.2⟩⟩

theorem isIdentifier_iff :
    Text.isIdentifier w ↔ IsFormed Text.startsIdentifier Text.continuesIdentifier w.toList := by
  constructor
  · intro h
    refine ⟨?_, Text.continuesIdentifier_of_mem h⟩
    cases hw : w.toList with
    | nil => simp [Text.isIdentifier, hw, Text.identifierChars] at h
    | cons c rest =>
      rw [Text.isIdentifier, hw, Text.identifierChars, Bool.and_eq_true] at h
      exact ⟨c, rest, rfl, h.1⟩
  · rintro ⟨⟨c, rest, hw, hc⟩, hparts⟩
    rw [hw] at hparts
    rw [Text.isIdentifier, hw, Text.identifierChars, hc, Bool.true_and, List.all_eq_true]
    exact fun d hd => hparts d (List.mem_cons_of_mem c hd)

private theorem isNameStart_of_starts {c : Char} (h : Text.startsIdentifier c) : isNameStart c := by
  by_cases hc : c.toNat < 0x80
  · have hascii : c.isAlpha || c == '_' := by simpa [Text.startsIdentifier, Text.classOf, hc] using h
    simp [isNameStart, hascii]
  · simp [isNameStart, Nat.not_lt.1 hc]

private theorem isNamePart_of_continues {c : Char} (h : Text.continuesIdentifier c) : isNamePart c := by
  by_cases hc : c.toNat < 0x80
  · have hascii : c.isAlphanum || c == '_' := by simpa [Text.continuesIdentifier, Text.classOf, hc] using h
    simp only [Char.isAlphanum, Bool.or_eq_true] at hascii
    rcases hascii with (h | h) | h <;> simp [isNamePart, isNameStart, h]
  · simp [isNamePart, isNameStart, Nat.not_lt.1 hc]

theorem isWord_of_isIdentifier (h : Text.isIdentifier w) : IsWord w.toList := by
  obtain ⟨⟨c, rest, hw, hc⟩, hparts⟩ := isIdentifier_iff.1 h
  exact ⟨⟨c, rest, hw, isNameStart_of_starts hc⟩, fun d hd => isNamePart_of_continues (hparts d hd)⟩

theorem isIdentifier_of_isName (h : isName w) : Text.isIdentifier w := (Bool.and_eq_true_iff.1 h).1

theorem isName_of_not_reserved (h : Text.isIdentifier w) (hreserved : w ∉ Text.reservedWords) : isName w := by
  simp [isName, Text.isReserved, h, hreserved]

/-- A word that is read is an identifier, be it a constant. -/
theorem isIdentifier_of_isReadable (h : Source.isReadable w) : Text.isIdentifier w := by
  have hconstants : ∀ v ∈ Source.constantWords, Text.isIdentifier v := by decide
  rcases Bool.or_eq_true_iff.1 h with h | h
  · exact isIdentifier_of_isName h
  · exact hconstants w (List.contains_iff_mem.1 h)

/-- A name with characters behind it that may continue it. -/
theorem IsFormed.append (h : IsFormed starts continues cs) (hds : ∀ d ∈ ds, continues d) :
    IsFormed starts continues (cs ++ ds) := by
  obtain ⟨⟨c, rest, rfl, hc⟩, hparts⟩ := h
  exact ⟨⟨c, rest ++ ds, rfl, hc⟩, List.forall_mem_append.2 ⟨hparts, hds⟩⟩

/-! ### Names of types -/

/-- A character of a dotted path stands in one of its parts, unless it is a dot. -/
private theorem exists_mem_of_mem_text {parts : List String} {c : Char} (hc : c ∈ (DottedPath.text parts).toList)
    (hdot : c ≠ '.') : ∃ w ∈ parts, c ∈ w.toList := by
  induction parts with
  | nil => simp [DottedPath.text] at hc
  | cons w parts ih =>
    by_cases hparts : parts = []
    · rw [hparts, DottedPath.text_singleton] at hc
      exact ⟨w, List.mem_cons_self, hc⟩
    · rw [DottedPath.text_cons hparts, String.toList_append, String.toList_append, List.mem_append, List.mem_append] at hc
      rcases hc with (hc | hc) | hc
      · exact ⟨w, List.mem_cons_self, hc⟩
      · exact absurd (List.mem_singleton.1 hc) hdot
      · obtain ⟨v, hv, hcv⟩ := ih hc
        exact ⟨v, List.mem_cons_of_mem w hv, hcv⟩

/-- A module with underscores for its dots is formed as its parts are. -/
private theorem isFormed_flatModule (hunderscore : continues '_')
    (h : ∀ w ∈ DottedPath.ofText module, IsFormed starts continues w.toList) :
    IsFormed starts continues (ImportTable.flatModule module).toList := by
  have hflat : (ImportTable.flatModule module).toList = module.toList.map fun c => if c == '.' then '_' else c :=
    String.toList_map
  rw [hflat]
  refine ⟨?_, fun d hd => ?_⟩
  · obtain ⟨first, rest, hparts⟩ := List.exists_cons_of_ne_nil (DottedPath.ofText_ne_nil module)
    obtain ⟨c, cs, hfirst, hc⟩ := (h first (hparts ▸ List.mem_cons_self)).start
    have hdot : c ≠ '.' := by
      rintro rfl
      have hmem : first ∈ Text.parts '.' module := by
        rw [← DottedPath.ofText, hparts]
        exact List.mem_cons_self
      exact Text.notMem_of_mem_parts hmem (by simp [hfirst])
    obtain ⟨tail, htail⟩ : ∃ tail, module.toList = c :: tail := by
      rw [← DottedPath.text_ofText module, hparts]
      by_cases hrest : rest = []
      · exact ⟨cs, by rw [hrest, DottedPath.text_singleton, hfirst]⟩
      · exact ⟨_, by rw [DottedPath.text_cons hrest, String.toList_append, String.toList_append, hfirst,
          List.append_assoc, List.cons_append]⟩
    exact ⟨c, _, by rw [htail, List.map_cons, if_neg (by simpa using hdot)], hc⟩
  · obtain ⟨c, hc, rfl⟩ := List.mem_map.1 hd
    split_ifs with hdot
    · exact hunderscore
    · rw [← DottedPath.text_ofText module] at hc
      obtain ⟨w, hw, hcw⟩ := exists_mem_of_mem_text hc (by simpa using hdot)
      exact (h w hw).parts c hcw

/-- The names that are tried for a type are formed as the parts of its module and its own name are. -/
private theorem isFormed_candidateName (hunderscore : continues '_') (hdigit : ∀ c : Char, c.isDigit → continues c)
    (hmodule : ∀ w ∈ DottedPath.ofText u.module, IsFormed starts continues w.toList)
    (hname : IsFormed starts continues u.name.toList) (n : Nat) :
    IsFormed starts continues (u.candidateName n).toList := by
  have hflat : IsFormed starts continues u.flatName.toList := by
    have hmore : ∀ d ∈ ['_'] ++ u.name.toList, continues d :=
      List.forall_mem_append.2 ⟨by simpa using hunderscore, hname.parts⟩
    rw [TypeRef.flatName, String.toList_append, String.toList_append, List.append_assoc]
    exact (isFormed_flatModule hunderscore hmodule).append hmore
  obtain _ | _ | n := n
  · exact hname
  · exact hflat
  · rw [TypeRef.candidateName, String.toList_append]
    refine hflat.append fun d hd => hdigit d ?_
    change d ∈ (Nat.repr (n + 2)).toList at hd
    rw [Nat.toList_repr] at hd
    exact Nat.isDigit_of_mem_toDigits (by omega) (by omega) hd

end Forms

namespace TypeRef

/-- Whether the parts of the module of a type and its own name are words. -/
structure IsSpelled (u : TypeRef) : Prop where
  module : ∀ w ∈ DottedPath.ofText u.module, IsWord w.toList
  name : IsWord u.name.toList

/-- Whether a type can be named in an import. -/
def isImportable (u : TypeRef) : Bool := (DottedPath.ofText u.module).all isName && isName u.name

end TypeRef

section Types

variable {u : TypeRef} {table : ImportTable} {reserved : List String}

theorem isWord_candidateName (hu : u.IsSpelled) (n : Nat) : IsWord (u.candidateName n).toList := by
  rw [isWord_iff]
  exact isFormed_candidateName (by decide) (fun c hc => by simp [isNamePart, hc]) (fun w hw => isWord_iff.1 (hu.module w hw))
    (isWord_iff.1 hu.name) n

/-- Spelled types go by words. -/
theorem isWord_nameOf (htried : table.Tried) (hu : u.IsSpelled) : IsWord (table.nameOf u).toList := by
  obtain ⟨n, hn⟩ := htried.nameOf u
  rw [hn]
  exact isWord_candidateName hu n

private theorem continues_of_isDigit {c : Char} (hc : c.isDigit) : Text.continuesIdentifier c := by
  have hascii : c.toNat < 0x80 := by
    have hrange := (Char.isDigit_iff_toNat.1 hc).2
    exact Nat.lt_of_le_of_lt hrange (by decide)
  simp [Text.continuesIdentifier, Text.classOf, hascii, Char.isAlphanum, hc]

/-- The names that are tried for a type that can be imported are names: no reserved word has an underscore in it. -/
theorem isName_candidateName (hu : u.isImportable) (n : Nat) : isName (u.candidateName n) := by
  rw [TypeRef.isImportable, Bool.and_eq_true, List.all_eq_true] at hu
  have hidentifier : Text.isIdentifier (u.candidateName n) := isIdentifier_iff.2 <|
    isFormed_candidateName (by decide) (fun _ => continues_of_isDigit)
      (fun w hw => isIdentifier_iff.1 (isIdentifier_of_isName (hu.1 w hw)))
      (isIdentifier_iff.1 (isIdentifier_of_isName hu.2)) n
  cases n with
  | zero => exact hu.2
  | succ n =>
    have hunderscore : '_' ∈ (u.candidateName (n + 1)).toList := by
      cases n with
      | zero => simp [TypeRef.candidateName, TypeRef.flatName]
      | succ n => simp [TypeRef.candidateName, TypeRef.flatName]
    have hreserved : ∀ w ∈ Text.reservedWords, '_' ∉ w.toList := by decide
    exact isName_of_not_reserved hidentifier fun hmem => hreserved _ hmem hunderscore

theorem isName_nameOf (htried : table.Tried) (hu : u.isImportable) : isName (table.nameOf u) := by
  obtain ⟨n, hn⟩ := htried.nameOf u
  rw [hn]
  exact isName_candidateName hu n

end Types

/-! ### Names of arguments -/

section Arguments

variable {key : String} {taken : List String}

private theorem isNamePart_of_isWordChar {c : Char} (h : Text.isWordChar c) : isNamePart c := by
  by_cases hc : c.toNat < 0x80
  · have hascii : c.isAlphanum || c == '_' := by simpa [Text.isWordChar, Text.classOf, hc] using h
    simp only [Char.isAlphanum, Bool.or_eq_true] at hascii
    rcases hascii with (h | h) | h <;> simp [isNamePart, isNameStart, h]
  · simp [isNamePart, isNameStart, Nat.not_lt.1 hc]

private theorem isNamePart_nameChar (c : Char) : isNamePart (nameChar c) := by
  rw [nameChar]
  split_ifs with h
  · exact isNamePart_of_isWordChar h
  · decide

private theorem isNameStart_of_not_isDigitChar {c : Char} (h : isNamePart c) (hdigit : Text.isDigitChar c = false) :
    isNameStart c := by
  by_cases hc : c.toNat < 0x80
  · have hascii : c.isDigit = false := by simpa [Text.isDigitChar, Text.classOf, hc] using hdigit
    simpa [isNamePart, hascii] using h
  · simp [isNameStart, Nat.not_lt.1 hc]

private theorem isWord_sanitizeKey (key : String) : IsWord (sanitizeKey key).toList := by
  have hparts : ∀ cs : List Char, ∀ d ∈ cs.map nameChar, isNamePart d := by
    intro cs d hd
    obtain ⟨c, -, rfl⟩ := List.mem_map.1 hd
    exact isNamePart_nameChar c
  rw [sanitizeKey_eq]
  cases Text.trimChars key.toList with
  | nil => exact Source.isWord_literal (by decide)
  | cons c rest =>
    dsimp only
    split_ifs with hdigit
    · rw [String.toList_ofList]
      exact ⟨⟨'_', _, rfl, by decide⟩, List.forall_mem_cons.2 ⟨by decide, hparts (c :: rest)⟩⟩
    · rw [String.toList_ofList]
      have hstart := isNameStart_of_not_isDigitChar (isNamePart_nameChar c) (Bool.eq_false_iff.2 hdigit)
      exact ⟨⟨_, _, rfl, hstart⟩, hparts (c :: rest)⟩

/-- Arguments are words, whatever their keys are. -/
theorem isWord_argumentName (key : String) (taken : List String) : IsWord (argumentName key taken).toList := by
  obtain ⟨n, hn, -⟩ := argumentName_eq key taken
  rw [hn, underscored, String.toList_ofList, isWord_iff]
  refine (isWord_iff.1 (isWord_sanitizeKey key)).append fun d hd => ?_
  rw [(List.mem_replicate.1 hd).2]
  decide

theorem isWord_of_mem_argumentsFor {keys : List String} {argument : String} (h : argument ∈ argumentsFor taken keys) :
    IsWord argument.toList := by
  induction keys generalizing taken with
  | nil => cases h
  | cons key rest ih =>
    rcases List.mem_cons.1 h with rfl | h
    · exact isWord_argumentName key taken
    · exact ih h

end Arguments

/-! ### Composed names -/

section Composition

variable {s : String} {a b c : Char} {rest : List Char}

/-- The rows of the characters of a table text. -/
private def rowsOf (cs : List Char) : List (List Char) :=
  let step (c : Char) (rows : List (List Char)) : List (List Char) :=
    if c == ' ' then [] :: rows
    else match rows with
      | [] => [[c]]
      | row :: rest => (c :: row) :: rest
  (cs.foldr step [[]]).filter (!·.isEmpty)

/-- The check of a row, on its characters. -/
private def composesBeyondAscii (cs : List Char) : Bool :=
  (rowsOf cs).all fun row => (row.drop 2).all fun c => 0x80 ≤ c.toNat

private theorem composesBeyondAscii_ofList {cs : List Char} (h : composesBeyondAscii cs) :
    composesBeyondAscii (String.ofList cs).toList := by
  rwa [String.toList_ofList]

set_option maxRecDepth 20000 in
/-- The texts are checked one by one, each as the list of its characters. -/
private theorem composesBeyondAscii_compositionRows :
    ∀ text ∈ Text.compositionRows, composesBeyondAscii text.toList := by
  refine List.forall_mem_append.2 ⟨?_, ?_⟩
  all_goals
    repeat' refine List.forall_mem_cons.2 ⟨composesBeyondAscii_ofList (by decide +kernel), ?_⟩
    exact List.forall_mem_nil _

/-- Characters compose none of ASCII. -/
private theorem le_toNat_of_composePair (h : Text.composePair a b = some c) : 0x80 ≤ c.toNat := by
  have hvalid : ∀ n, 0x80 ≤ n → n < 0xD800 → 0x80 ≤ (Char.ofNat n).toNat := by
    intro n hlow hhigh
    have hchar : n.isValidChar := .inl hhigh
    rw [Char.ofNat, dif_pos hchar]
    exact hlow
  simp only [Text.composePair] at h
  split_ifs at h with hletters hsyllable
  · simp only [Bool.and_eq_true, decide_eq_true_eq] at hletters
    rw [← Option.some.inj h]
    exact hvalid _ (by omega) (by omega)
  · simp only [Bool.and_eq_true, decide_eq_true_eq, beq_iff_eq] at hsyllable
    rw [← Option.some.inj h]
    exact hvalid _ (by omega) (by omega)
  · obtain ⟨⟨pair, composed⟩, hfound, rfl⟩ := Option.map_eq_some_iff.1 h
    obtain ⟨row, hrow, hpair⟩ := List.mem_filterMap.1 (List.mem_of_find?_eq_some hfound)
    obtain ⟨text, htext, hrow⟩ := List.mem_flatMap.1 hrow
    have hrows := List.all_eq_true.1 (composesBeyondAscii_compositionRows text htext) row hrow
    have hbeyond := List.all_iff_forall_prop.1 hrows
    split at hpair
    · cases hpair
      exact hbeyond _ (by simp)
    · cases hpair

/-- A starter stays in front, unless it is composed. -/
private theorem exists_head_composeFrom (starter : Char) (blocked cs : List Char) :
    ∃ d rest, Text.composeFrom starter blocked cs = d :: rest ∧ (d = starter ∨ 0x80 ≤ d.toNat) := by
  induction cs generalizing starter blocked with
  | nil => exact ⟨starter, _, rfl, .inl rfl⟩
  | cons c cs ih =>
    simp only [Text.composeFrom]
    split
    · rename_i composed hcomposed
      obtain ⟨d, rest, hd, hhead⟩ := ih composed blocked
      refine ⟨d, rest, hd, .inr ?_⟩
      rcases hhead with rfl | hbeyond
      · split_ifs at hcomposed
        exact le_toNat_of_composePair hcomposed
      · exact hbeyond
    · split_ifs
      · exact ⟨starter, _, rfl, .inl rfl⟩
      · exact ih starter _

/-- A name that starts with an ASCII letter may be bound: composition puts no underscore in its place. -/
private theorem isForbidden_composed (hs : s.toList = a :: rest) (ha : a.toNat < 0x80 ∧ Text.markClass a = 0)
    (hne : a ≠ '_') : isForbidden (Text.composed s) = false := by
  have hhead : ∃ d tail, (Text.composed s).toList = d :: tail ∧ (d = a ∨ 0x80 ≤ d.toNat) := by
    rw [Text.composed]
    split_ifs
    · exact ⟨a, rest, hs, .inl rfl⟩
    · have horder : Text.orderMarks [] (s.toList.flatMap Text.decomposeChar) =
          a :: Text.orderMarks [] (rest.flatMap Text.decomposeChar) := by
        simp [hs, Text.decomposeChar, ha.1, Text.orderMarks, ha.2]
      simp only [horder, String.toList_ofList]
      exact exists_head_composeFrom a [] _
  obtain ⟨d, tail, hd, hstart⟩ := hhead
  rw [isForbidden, beq_eq_false_iff_ne]
  intro heq
  have hunderscore : d = '_' := by
    rw [heq] at hd
    exact (List.cons.inj hd).1.symm
  rcases hstart with rfl | hbeyond
  · exact hne hunderscore
  · rw [hunderscore] at hbeyond
    exact absurd hbeyond (by decide)

end Composition

/-! ### Names of methods -/

section Methods

variable {name : String} {group : Option String}

/-- Whether a group has a place in a method name. -/
def IsNamedGroup (group : Option String) : Prop := ∀ g ∈ group, g = defaultGroup ∨ IsGroupName g

private theorem continues_groupSuffix (hgroup : IsNamedGroup group) :
    ∀ c ∈ (groupSuffix group).toList, Text.continuesIdentifier c := by
  cases group with
  | none => simp [groupSuffix]
  | some g =>
    rcases hgroup g rfl with rfl | hg
    · simp [groupSuffix]
    · by_cases hdefault : g = defaultGroup
      · simp [groupSuffix, hdefault]
      · rw [groupSuffix_other hdefault]
        have hvalid := isValidGroup_iff.2 hg
        rw [isValidGroup, Bool.and_eq_true] at hvalid
        exact Text.continuesIdentifier_of_mem hvalid.2

/-- An identifier that starts as no reserved word does is a name. -/
private theorem isName_of_front {front : String} (hfront : ∀ w ∈ Text.reservedWords, ¬front.toList <+: w.toList)
    (h : Text.isIdentifier (front ++ name)) : isName (front ++ name) := by
  refine isName_of_not_reserved h fun hmem => hfront _ hmem ?_
  rw [String.toList_append]
  exact List.prefix_append _ _

private theorem isFormed_methodName {starts continues : Char → Bool} {front : String}
    (hfront : IsFormed starts continues front.toList) (hname : ∀ c ∈ name.toList, continues c)
    (hgroup : ∀ c ∈ (groupSuffix group).toList, continues c) :
    IsFormed starts continues (front ++ (name ++ groupSuffix group)).toList := by
  rw [String.toList_append, String.toList_append]
  exact hfront.append (List.forall_mem_append.2 ⟨hname, hgroup⟩)

/-- Methods for targets are words if their classes are. -/
theorem isWord_targetMethodName (hname : IsWord name.toList) (hgroup : IsNamedGroup group) :
    IsWord (targetMethodName name group).toList := by
  rw [targetMethodName_eq, isWord_iff]
  exact isFormed_methodName (isWord_iff.1 (Source.isWord_literal (by decide))) hname.parts
    fun c hc => isNamePart_of_continues (continues_groupSuffix hgroup c hc)

/-- Methods for targets have names if their classes are identifiers. -/
theorem isName_targetMethodName (hname : Text.isIdentifier name) (hgroup : IsNamedGroup group) :
    isName (targetMethodName name group) := by
  rw [targetMethodName_eq]
  refine isName_of_front (by decide) (isIdentifier_iff.2 ?_)
  exact isFormed_methodName (isIdentifier_iff.1 (by decide)) (Text.continuesIdentifier_of_mem hname)
    (continues_groupSuffix hgroup)

theorem isForbidden_targetMethodName (name : String) (group : Option String) :
    isForbidden (Text.composed (targetMethodName name group)) = false := by
  rw [targetMethodName_eq]
  exact isForbidden_composed (by rw [String.toList_append]; rfl) (by decide) (by decide)

theorem isWord_accessorName (hname : IsWord name.toList) : IsWord (accessorName name).toList := by
  rw [accessorName, String.toList_append, isWord_iff]
  exact (isWord_iff.1 (Source.isWord_literal (w := "get") (by decide))).append hname.parts

theorem isName_accessorName (hname : Text.isIdentifier name) : isName (accessorName name) := by
  refine isName_of_front (by decide) ?_
  rw [isIdentifier_iff, String.toList_append]
  exact ((isIdentifier_iff (w := "get")).1 (by decide)).append (Text.continuesIdentifier_of_mem hname)

theorem isForbidden_accessorName (name : String) : isForbidden (Text.composed (accessorName name)) = false := by
  rw [accessorName]
  exact isForbidden_composed (by rw [String.toList_append]; rfl) (by decide) (by decide)

end Methods

end NavFactory
