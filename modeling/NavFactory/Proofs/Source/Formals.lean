import NavFactory.Proofs.Source.Operands

/-!
# Parameters of methods

The parameters of generated methods: those that must be given, and behind a star those that may be left out.  They
are read exactly if their names are names and their types are expressions (`decides_parameters`).
-/

namespace NavFactory.Source

open NavFactory.Source.Parser

/-- A parameter with its type. -/
structure Formal where
  name : String
  hint : Operand

/-- What stands between two commas of a list of parameters. -/
inductive Part
  | required (f : Formal)
  | star
  /-- A parameter that is nothing unless it is given. -/
  | optional (f : Formal)

namespace Part

def shown : Part → String
  | required f => f.name ++ ": " ++ f.hint.shown
  | star => "*"
  | optional f => f.name ++ ": " ++ f.hint.shown ++ " = None"

def kinds : Part → List TokenKind → List TokenKind
  | required f, tail => wordKinds f.name (.symbol ":" :: f.hint.kinds tail)
  | star, tail => .symbol "*" :: tail
  | optional f, tail => wordKinds f.name (.symbol ":" :: f.hint.kinds (.symbol "=" :: .keyword "None" :: tail))

def formal? : Part → Option Formal
  | required f => some f
  | star => none
  | optional f => some f

/-- Whether a part is read. -/
def isReadable (p : Part) : Bool := p.formal?.all fun f => isName f.name && f.hint.isReadable

/-- Where a part may stand. -/
def rank : Part → Nat
  | required _ => 0
  | star => 1
  | optional _ => 2

def required? : Part → Option Formal
  | required f => some f
  | _ => none

def optional? : Part → Option Formal
  | optional f => some f
  | _ => none

end Part

/-- The parameters of a method. -/
structure Formals where
  required : List Formal
  optional : List Formal

namespace Formals

/-- All parameters. -/
def all (fs : Formals) : List Formal := fs.required ++ fs.optional

/-- The parts of a list of parameters. -/
def parts (fs : Formals) : List Part :=
  fs.required.map .required ++ if fs.optional.isEmpty then [] else .star :: fs.optional.map .optional

def shown (fs : Formals) : String := ", ".intercalate (fs.parts.map Part.shown)

/-- The kinds of tokens from a list of parameters on. -/
def kinds (fs : Formals) (tail : List TokenKind) : List TokenKind :=
  match fs.parts with
  | [] => tail
  | first :: rest => first.kinds (followers "," Part.kinds rest tail)

/-- Whether the names of parameters and the words of their types are words. -/
def HasWords (fs : Formals) : Prop := ∀ f ∈ fs.all, IsWord f.name.toList ∧ ∀ w ∈ f.hint.words, IsWord w.toList

/-- Whether all parameters are read. -/
def isReadable (fs : Formals) : Bool := fs.all.all fun f => isName f.name && f.hint.isReadable

theorem mem_parts {fs : Formals} {f : Formal} (p : Part) (hp : p ∈ fs.parts) (hf : p.formal? = some f) : f ∈ fs.all := by
  simp only [parts, List.mem_append, List.mem_map] at hp
  rcases hp with ⟨g, hg, rfl⟩ | hp
  · cases hf
    exact List.mem_append_left _ hg
  · split at hp
    · cases hp
    · rcases List.mem_cons.1 hp with rfl | hp
      · cases hf
      · obtain ⟨g, hg, rfl⟩ := List.mem_map.1 hp
        cases hf
        exact List.mem_append_right _ hg

end Formals

/-! ### The order of parts -/

namespace Formals

variable {fs : Formals} {before after : List Part}

/-- Parameters that must be given come first, then the star, then those that may be left out. -/
private theorem pairwise_parts (fs : Formals) :
    fs.parts.Pairwise fun p q => p.rank < q.rank ∨ (p.rank = q.rank ∧ p ≠ .star) := by
  have hequal : ∀ mk : Formal → Part, (∀ f g, (mk f).rank = (mk g).rank) → (∀ f, mk f ≠ .star) → ∀ l : List Formal,
      (l.map mk).Pairwise fun p q => p.rank < q.rank ∨ (p.rank = q.rank ∧ p ≠ .star) := by
    intro mk hrank hstar l
    exact List.pairwise_map.2 (List.pairwise_of_forall fun f g => Or.inr ⟨hrank f g, hstar f⟩)
  refine List.pairwise_append.2 ⟨hequal .required (fun _ _ => rfl) (fun _ => nofun) _, ?_, ?_⟩
  · split
    · exact .nil
    · refine List.pairwise_cons.2 ⟨?_, hequal .optional (fun _ _ => rfl) (fun _ => nofun) _⟩
      intro p hp
      obtain ⟨f, -, rfl⟩ := List.mem_map.1 hp
      exact Or.inl (by decide : 1 < 2)
  · intro p hp q hq
    obtain ⟨f, -, rfl⟩ := List.mem_map.1 hp
    split at hq
    · cases hq
    · rcases List.mem_cons.1 hq with rfl | hq
      · exact Or.inl (by decide : 0 < 1)
      · obtain ⟨g, -, rfl⟩ := List.mem_map.1 hq
        exact Or.inl (by decide : 0 < 2)

private theorem star_mem_parts_iff : .star ∈ fs.parts ↔ ∃ f, .optional f ∈ fs.parts := by
  rw [parts]
  cases fs.optional with
  | nil => simp
  | cons f rest => simp

/-- A part comes behind those that are in front of it. -/
private theorem ordered_parts {p : Part} (h : before ++ p :: after = fs.parts) {q : Part} (hq : q ∈ before) :
    q.rank < p.rank ∨ (q.rank = p.rank ∧ q ≠ .star) := by
  have hpairwise := pairwise_parts fs
  rw [← h] at hpairwise
  exact (List.pairwise_append.1 hpairwise).2.2 q hq p List.mem_cons_self

private theorem star_not_mem_of_rank {p : Part} (h : before ++ p :: after = fs.parts) (hp : p.rank ≤ 1) :
    .star ∉ before := by
  intro hstar
  rcases ordered_parts h hstar with hlt | ⟨-, hne⟩
  · exact absurd hlt (Nat.not_lt.2 hp)
  · exact hne rfl

private theorem star_mem_of_optional {f : Formal} (h : before ++ .optional f :: after = fs.parts) : .star ∈ before := by
  have hmem : Part.optional f ∈ fs.parts := by simp [← h]
  have hstar := star_mem_parts_iff.2 ⟨f, hmem⟩
  rw [← h, List.mem_append, List.mem_cons] at hstar
  rcases hstar with hstar | hstar | hstar
  · exact hstar
  · cases hstar
  · obtain ⟨before', after', rfl⟩ := List.append_of_mem hstar
    have hwhole : (before ++ .optional f :: before') ++ .star :: after' = fs.parts := by simpa using h
    have hordered := ordered_parts hwhole (q := .optional f) (by simp)
    rcases hordered with hlt | ⟨heq, -⟩
    · exact absurd hlt (by decide : ¬2 < 1)
    · exact absurd heq (by decide : ¬2 = 1)

/-- The star is never the last part. -/
private theorem ne_nil_of_star (h : before ++ .star :: after = fs.parts) : after ≠ [] := by
  rintro rfl
  obtain ⟨f, hf⟩ := star_mem_parts_iff.1 (show Part.star ∈ fs.parts by simp [← h])
  rw [← h, List.mem_append, List.mem_singleton] at hf
  rcases hf with hf | hf
  · rcases ordered_parts h hf with hlt | ⟨heq, -⟩
    · exact absurd hlt (by decide : ¬2 < 1)
    · exact absurd heq (by decide : ¬2 = 1)
  · cases hf

private theorem filterMap_required_parts (fs : Formals) : fs.parts.filterMap Part.required? = fs.required := by
  have hempty : ∀ l : List Formal, (l.map Part.optional).filterMap Part.required? = [] := by simp [Part.required?]
  have hall : ∀ l : List Formal, (l.map Part.required).filterMap Part.required? = l := by
    intro l
    rw [List.filterMap_map]
    exact List.filterMap_some
  rw [parts, List.filterMap_append, hall]
  split
  · simp
  · rw [List.filterMap_cons_none (by rfl), hempty, List.append_nil]

private theorem filterMap_optional_parts (fs : Formals) : fs.parts.filterMap Part.optional? = fs.optional := by
  have hempty : ∀ l : List Formal, (l.map Part.required).filterMap Part.optional? = [] := by simp [Part.optional?]
  have hall : ∀ l : List Formal, (l.map Part.optional).filterMap Part.optional? = l := by
    intro l
    rw [List.filterMap_map]
    exact List.filterMap_some
  rw [parts, List.filterMap_append, hempty, List.nil_append]
  split
  · rename_i h
    rw [List.isEmpty_iff.1 h]
    rfl
  · rw [List.filterMap_cons_none (by rfl), hall]

end Formals

/-! ### Tokens of parameters -/

section Scans

variable {ws : List Nat} {bs : List Char} {cs : List Char} {kinds : List TokenKind}

private theorem Scans.part {p : Part}
    (hwords : ∀ f, p.formal? = some f → IsWord f.name.toList ∧ ∀ w ∈ f.hint.words, IsWord w.toList)
    (hbs : bs.length < 200) {d : Char} (hd : d = ',' ∨ d = ')') (h : Scans ⟨false, ws, bs⟩ (d :: cs) kinds) :
    Scans ⟨false, ws, bs⟩ (p.shown.toList ++ d :: cs) (p.kinds kinds) := by
  have hends : endsOperand d ∧ endsWord d ∧ isLone '*' d := by rcases hd with rfl | rfl <;> decide
  cases p with
  | star => exact Scans.symbol (c := '*') (by decide) hends.2.2 (by simp) h
  | required f =>
    obtain ⟨hname, hhint⟩ := hwords f rfl
    have hcolon := Scans.symbol (c := ':') (d := ' ') (by decide) (by decide) (by simp)
      (Scans.operand hhint hbs hends.1 h).blank
    simpa [Part.shown, Part.kinds] using hcolon.word hname (by decide)
  | optional f =>
    obtain ⟨hname, hhint⟩ := hwords f rfl
    have hnone := h.word (w := "None") (isWord_literal (by decide)) hends.2.1
    have hequals := (Scans.symbol (c := '=') (d := ' ') (by decide) (by decide) (by simp) hnone.blank).blank
    have hcolon := Scans.symbol (c := ':') (d := ' ') (by decide) (by decide) (by simp)
      (Scans.operand hhint hbs (d := ' ') (by decide) hequals).blank
    have hkeyword : wordKinds "None" kinds = .keyword "None" :: kinds := wordKinds_of_isReserved (by decide)
    rw [hkeyword] at hcolon
    simpa [Part.shown, Part.kinds] using hcolon.word hname (by decide)

/-- Parameters in front of the closing parenthesis. -/
theorem Scans.formals {fs : Formals} (hfs : fs.HasWords) (hbs : bs.length < 200)
    (h : Scans ⟨false, ws, bs⟩ (')' :: cs) kinds) :
    Scans ⟨false, ws, bs⟩ (fs.shown.toList ++ ')' :: cs) (fs.kinds kinds) := by
  have hpart : ∀ p ∈ fs.parts, ∀ d cs kinds, d = ',' ∨ d = ')' → Scans ⟨false, ws, bs⟩ (d :: cs) kinds →
      Scans ⟨false, ws, bs⟩ (p.shown.toList ++ d :: cs) (p.kinds kinds) := by
    intro p hp d cs kinds hd h
    exact Scans.part (fun f hf => hfs f (Formals.mem_parts p hp hf)) hbs hd h
  rw [Formals.shown, Formals.kinds]
  cases hparts : fs.parts with
  | nil => simpa using h
  | cons first rest =>
    rw [hparts] at hpart
    exact Scans.listed hpart h

end Scans

/-! ### Reading parameters -/

/-- What a parameter is read as. -/
def Formal.IsRead (f : Formal) (a : Argument) : Prop :=
  ∃ line hint default, a = .mk line (Text.composed f.name) (some hint) default ∧ Harmless hint ∧
    ∀ e, default = some e → Harmless e

section Decides

variable {kinds : List TokenKind}

/-- The name of a parameter with its type. -/
private theorem decides_parameterName (n : Nat) {f : Formal} (hf : f.hint.IsFit) {stop : TokenKind} (hstop : stop.isStop)
    (hcolon : stop ≠ .symbol ":") :
    (Rules.parameterName true (ruleAt (n + 6)).expression).Decides
      (wordKinds f.name (.symbol ":" :: f.hint.kinds (stop :: kinds))) (stop :: kinds)
      (isName f.name ∧ f.hint.isReadable)
      fun x => ∃ line hint, Harmless hint ∧ x = (line, Text.composed f.name, some hint) := by
  have hhint : (ruleAt (n + 6)).expression.Decides (f.hint.kinds (stop :: kinds)) (stop :: kinds) f.hint.isReadable
      Harmless := decides_operand n hf hstop fun h => absurd h hcolon
  have hsome : (some <$> (ruleAt (n + 6)).expression).Decides (f.hint.kinds (stop :: kinds)) (stop :: kinds)
      f.hint.isReadable fun x => ∃ e, x = some e ∧ Harmless e := .map (hhint.mono fun e he => ⟨e, rfl, he⟩)
  have hname := decides_name (.symbol ":" :: f.hint.kinds (stop :: kinds)) f.name
  rcases wordKinds_cases f.name with ⟨k, -, hcons⟩ | ⟨hbad, hnil⟩
  · rw [hcons] at hname ⊢
    refine decides_here fun line => hname.bind fun _ id hid => ?_
    subst hid
    refine (Decides.bind (decides_accept hsome) fun _ x hx => ?_).congr (by rw [and_true])
    obtain ⟨e, rfl, he⟩ := hx
    exact .pure ⟨line, e, he, rfl⟩
  · rw [hnil]
    refine (Decides.nil ⟨_, rfl⟩).congr (iff_of_false not_false fun h => ?_)
    simp [isReadable, h.1] at hbad

/-- No mark stands in front of the name of a parameter. -/
private theorem decides_parameter_word {r : Rules} {ps : Rules.ParameterList} (hkeywords : ps.keywords = none)
    {w : String} {tail rest : List TokenKind} {good : Prop} {R : Rules.ParameterList → Prop} (hgood : good → isName w)
    (h : (Rules.plainParameter r true (Rules.closes ")") ps).Decides (wordKinds w tail) rest good R) :
    (Rules.parameter r true (Rules.closes ")") ps).Decides (wordKinds w tail) rest good R := by
  rcases wordKinds_cases w with ⟨k, hk, hcons⟩ | ⟨hbad, hnil⟩
  · rw [hcons] at h ⊢
    refine decides_here fun line => ?_
    rw [hkeywords]
    exact decides_sees_ne (hk "/") (decides_sees_ne (hk "*") (decides_accept_ne (hk "**") h))
  · rw [hnil]
    refine (Decides.nil ⟨_, rfl⟩).congr (iff_of_false not_false fun h => ?_)
    simp [isReadable, hgood h] at hbad

private theorem decides_required (n : Nat) {ps : Rules.ParameterList} (hkeywords : ps.keywords = none)
    (hstar : ps.sawStar = false) (hdefault : ps.sawDefault = false) {f : Formal} (hf : f.hint.IsFit) {stop : TokenKind}
    (hstop : stop = .symbol "," ∨ stop = .symbol ")") :
    (Rules.parameter (ruleAt (n + 6)) true (Rules.closes ")") ps).Decides ((Part.required f).kinds (stop :: kinds))
      (stop :: kinds) (isName f.name ∧ f.hint.isReadable) fun ps' =>
        ∃ a, f.IsRead a ∧ ps' = { ps with regular := a :: ps.regular } := by
  have hstop' : stop.isStop ∧ stop ≠ .symbol ":" ∧ stop ≠ .symbol "=" := by
    rcases hstop with rfl | rfl <;> decide
  refine decides_parameter_word hkeywords And.left ?_
  refine ((decides_parameterName n hf hstop'.1 hstop'.2.1).bind fun _ x hx => ?_).congr (by rw [and_true])
  obtain ⟨line, hint, hhint, rfl⟩ := hx
  refine decides_here fun _ => decides_accept_ne hstop'.2.2 ?_
  rw [hstar, if_neg Bool.false_ne_true]
  refine decides_sees (decides_peek fun t _ => ?_)
  rw [hdefault, Bool.false_and, if_neg Bool.false_ne_true]
  exact .pure ⟨_, ⟨line, hint, none, rfl, hhint, nofun⟩, rfl⟩

private theorem decides_star (r : Rules) {ps : Rules.ParameterList} (hkeywords : ps.keywords = none)
    (hstar : ps.sawStar = false) :
    (Rules.parameter r true (Rules.closes ")") ps).Decides (Part.star.kinds (.symbol "," :: kinds)) (.symbol "," :: kinds)
      True fun ps' => ∃ line, ps' = { ps with sawStar := true, bareStar := some line } := by
  refine decides_here fun line => ?_
  rw [hkeywords, hstar]
  refine decides_sees_ne (by decide) (decides_sees ?_)
  rw [beq_self_eq_true, if_pos rfl]
  refine decides_next fun _ _ => decides_sees ?_
  rw [beq_self_eq_true, if_pos rfl]
  exact .pure ⟨line, rfl⟩

private theorem decides_optional (n : Nat) {ps : Rules.ParameterList} (hkeywords : ps.keywords = none)
    (hstar : ps.sawStar = true) {f : Formal} (hf : f.hint.IsFit) {stop : TokenKind}
    (hstop : stop = .symbol "," ∨ stop = .symbol ")") :
    (Rules.parameter (ruleAt (n + 6)) true (Rules.closes ")") ps).Decides ((Part.optional f).kinds (stop :: kinds))
      (stop :: kinds) (isName f.name ∧ f.hint.isReadable) fun ps' =>
        ∃ a, f.IsRead a ∧ ps' = { ps with keywordOnly := a :: ps.keywordOnly, bareStar := none } := by
  have hstop' : stop.isStop ∧ stop ≠ .symbol ":" := by rcases hstop with rfl | rfl <;> decide
  have hnone : (ruleAt (n + 6)).expression.Decides (.keyword "None" :: stop :: kinds) (stop :: kinds) (isReadable "None")
      (IsWordOf "None") := by
    have hword := decides_word kinds (n + 3) "None" hstop'.1 fun h => absurd h hstop'.2
    rwa [wordKinds_of_isReserved (by decide)] at hword
  refine decides_parameter_word hkeywords And.left ?_
  refine ((decides_parameterName n hf rfl (by decide)).bind fun _ x hx => ?_).congr
    (show _ ∧ isReadable "None" ↔ _ from and_iff_left (by decide))
  obtain ⟨line, hint, hhint, rfl⟩ := hx
  refine decides_here fun _ => decides_accept ?_
  refine decides_sees_ne nofun (decides_sees_ne nofun (decides_sees_ne nofun ?_))
  refine (hnone.bind fun _ e he => ?_).congr (by rw [and_true])
  rw [hstar]
  refine .pure ⟨_, ⟨line, hint, some e, rfl, hhint, ?_⟩, rfl⟩
  rintro _ ⟨⟩
  exact he.harmless

/-- What has been read of a list of parameters when some parts have been. -/
private structure PartsRead (before : List Part) (ps : Rules.ParameterList) : Prop where
  positionalOnly : ps.positionalOnly = []
  rest : ps.rest = none
  keywords : ps.keywords = none
  sawDefault : ps.sawDefault = false
  sawStar : ps.sawStar ↔ .star ∈ before
  regular : List.Forall₂ Formal.IsRead (before.filterMap Part.required?) ps.regular.reverse
  keywordOnly : List.Forall₂ Formal.IsRead (before.filterMap Part.optional?) ps.keywordOnly.reverse
  bareStar : ps.bareStar.isSome → ∃ parts, before = parts ++ [.star]

private theorem filterMap_concat {before : List Part} {p : Part} {g : Part → Option Formal} (h : g p = none) :
    (before ++ [p]).filterMap g = before.filterMap g := by
  simp [h]

/-- What the parameters of a method are read as. -/
def Formals.IsRead (fs : Formals) (p : Parameters) : Prop :=
  ∃ regular keywordOnly, p = .mk [] regular none keywordOnly none ∧ List.Forall₂ Formal.IsRead fs.required regular ∧
    List.Forall₂ Formal.IsRead fs.optional keywordOnly

private theorem decides_part (n : Nat) {fs : Formals} (hfs : ∀ f ∈ fs.all, f.hint.IsFit) {before after : List Part}
    {p : Part} {ps : Rules.ParameterList} (hparts : before ++ p :: after = fs.parts) (hps : PartsRead before ps)
    {stop : TokenKind} (hstop : stop = if after.isEmpty then .symbol ")" else .symbol ",") :
    (Rules.parameter (ruleAt (n + 6)) true (Rules.closes ")") ps).Decides (p.kinds (stop :: kinds)) (stop :: kinds)
      p.isReadable (PartsRead (before ++ [p])) := by
  have hmem : p ∈ fs.parts := by simp [← hparts]
  have hstop' : stop = .symbol "," ∨ stop = .symbol ")" := by
    rw [hstop]
    split
    · exact Or.inr rfl
    · exact Or.inl rfl
  cases p with
  | required f =>
    have hstar := Formals.star_not_mem_of_rank hparts (Nat.zero_le 1)
    have hsaw : ps.sawStar = false := Bool.eq_false_iff.2 fun h => hstar (hps.sawStar.1 h)
    have hbare : ps.bareStar.isSome = false := by
      refine Bool.eq_false_iff.2 fun h => hstar ?_
      obtain ⟨parts, rfl⟩ := hps.bareStar h
      simp
    refine ((decides_required n hps.keywords hsaw hps.sawDefault (hfs f (Formals.mem_parts _ hmem rfl)) hstop').mono ?_).congr
      (by simp [Part.isReadable, Part.formal?])
    rintro ps' ⟨a, ha, rfl⟩
    refine ⟨hps.positionalOnly, hps.rest, hps.keywords, hps.sawDefault, ?_, ?_, ?_, ?_⟩
    · simpa using hps.sawStar
    · rw [List.filterMap_append, List.reverse_cons]
      exact List.rel_append hps.regular (.cons ha .nil)
    · rw [filterMap_concat (by rfl)]
      exact hps.keywordOnly
    · intro h
      rw [hbare] at h
      cases h
  | star =>
    have hstar := Formals.star_not_mem_of_rank hparts (Nat.le_refl 1)
    have hsaw : ps.sawStar = false := Bool.eq_false_iff.2 fun h => hstar (hps.sawStar.1 h)
    have hcomma : stop = .symbol "," := by
      rw [hstop, if_neg]
      simpa using Formals.ne_nil_of_star hparts
    subst hcomma
    refine ((decides_star _ hps.keywords hsaw).mono ?_).congr (by simp [Part.isReadable, Part.formal?])
    rintro ps' ⟨line, rfl⟩
    refine ⟨hps.positionalOnly, hps.rest, hps.keywords, hps.sawDefault, by simp, ?_, ?_, fun _ => ⟨before, rfl⟩⟩
    · rw [filterMap_concat (by rfl)]
      exact hps.regular
    · rw [filterMap_concat (by rfl)]
      exact hps.keywordOnly
  | optional f =>
    have hstar := Formals.star_mem_of_optional hparts
    refine ((decides_optional n hps.keywords (hps.sawStar.2 hstar) (hfs f (Formals.mem_parts _ hmem rfl))
      hstop').mono ?_).congr
      (by simp [Part.isReadable, Part.formal?])
    rintro ps' ⟨a, ha, rfl⟩
    refine ⟨hps.positionalOnly, hps.rest, hps.keywords, hps.sawDefault, ?_, ?_, ?_, nofun⟩
    · simpa using hps.sawStar
    · rw [filterMap_concat (by rfl)]
      exact hps.regular
    · rw [List.filterMap_append, List.reverse_cons]
      exact List.rel_append hps.keywordOnly (.cons ha .nil)

private theorem startsItem_part (p : Part) (tail : List TokenKind) :
    StartsItem (Rules.closes ")") (p.kinds tail) p.isReadable := by
  have hword : ∀ (f : Formal) (tail : List TokenKind),
      StartsItem (Rules.closes ")") (wordKinds f.name tail) (isName f.name && f.hint.isReadable) := by
    intro f tail
    rcases wordKinds_cases f.name with ⟨k, hk, hcons⟩ | ⟨hbad, hnil⟩
    · rw [hcons]
      rintro t rfl
      exact beq_false_of_ne (hk ")")
    · rw [hnil]
      have hname : isName f.name = false := by
        rw [isReadable, Bool.or_eq_false_iff] at hbad
        exact hbad.1
      simp [StartsItem, hname]
  cases p with
  | required f => exact hword f _
  | star =>
    rintro t ht
    rw [Rules.closes, ht]
    rfl
  | optional f => exact hword f _

private theorem isReadable_iff (fs : Formals) : fs.isReadable ↔ ∀ p ∈ fs.parts, p.isReadable := by
  have hrequired : ∀ f, (Part.required f).isReadable = (isName f.name && f.hint.isReadable) := fun _ => rfl
  have hoptional : ∀ f, (Part.optional f).isReadable = (isName f.name && f.hint.isReadable) := fun _ => rfl
  rw [Formals.isReadable, List.all_eq_true]
  constructor
  · intro h p hp
    rw [Part.isReadable]
    cases hf : p.formal? with
    | none => rfl
    | some f => exact h f (Formals.mem_parts p hp hf)
  · intro h f hf
    rcases List.mem_append.1 hf with hf | hf
    · rw [← hrequired]
      exact h _ (List.mem_append_left _ (List.mem_map_of_mem hf))
    · rw [← hoptional]
      refine h _ (List.mem_append_right _ ?_)
      rw [if_neg (by simpa using List.ne_nil_of_mem hf)]
      exact List.mem_cons_of_mem _ (List.mem_map_of_mem hf)

/-- The state behind the last part gives the parameters. -/
private theorem PartsRead.finish {fs : Formals} {ps : Rules.ParameterList} (hps : PartsRead fs.parts ps) :
    ps.bareStar = none ∧
      fs.IsRead (.mk ps.positionalOnly.reverse ps.regular.reverse ps.rest ps.keywordOnly.reverse ps.keywords) := by
  have hbare : ps.bareStar = none := by
    rw [← Option.not_isSome_iff_eq_none]
    intro h
    obtain ⟨before, hparts⟩ := hps.bareStar h
    exact Formals.ne_nil_of_star hparts.symm rfl
  refine ⟨hbare, ps.regular.reverse, ps.keywordOnly.reverse, ?_, ?_, ?_⟩
  · rw [hps.positionalOnly, hps.rest, hps.keywords]
    rfl
  · exact Formals.filterMap_required_parts fs ▸ hps.regular
  · exact Formals.filterMap_optional_parts fs ▸ hps.keywordOnly

/-- A list of parameters is read exactly if their names are names and their types are expressions. -/
theorem decides_parameters (n : Nat) {fs : Formals} (hfs : ∀ f ∈ fs.all, f.hint.IsFit) (hn : fs.parts.length < n) :
    (Rules.parameters (ruleAt (n + 6)) true (Rules.closes ")")).Decides (fs.kinds (.symbol ")" :: kinds))
      (.symbol ")" :: kinds) fs.isReadable fs.IsRead := by
  have hread : PartsRead [] {} := ⟨rfl, rfl, rfl, rfl, by simp, .nil, .nil, nofun⟩
  have hreadable := isReadable_iff fs
  rw [Formals.kinds]
  cases hparts : fs.parts with
  | nil =>
    rw [hparts] at hreadable
    obtain ⟨-, hfinish⟩ := PartsRead.finish (hparts.symm ▸ hread)
    refine (decides_peek fun t ht => ?_).congr (show True ↔ _ by simp [hreadable])
    have hclosed : Rules.closes ")" t = true := by
      rw [Rules.closes, ht]
      rfl
    rw [hclosed, if_pos rfl]
    exact .pure hfinish
  | cons first rest =>
    rw [hparts] at hreadable hn
    have hitem : ∀ before p after ps kinds', before ++ p :: after = first :: rest → PartsRead before ps →
        ∀ k', k' = (if after.isEmpty then .symbol ")" else .symbol ",") →
          (Rules.parameter (ruleAt (n + 6)) true (Rules.closes ")") ps).Decides (p.kinds (k' :: kinds')) (k' :: kinds')
            p.isReadable (PartsRead (before ++ [p])) :=
      fun before p after ps kinds' hwhole hps k' hk' => decides_part n hfs (hwhole.trans hparts.symm) hps hk'
    have hrest : rest.length < n + 6 := by
      rw [List.length_cons] at hn
      omega
    have hstart := startsItem_part first (followers "," Part.kinds rest (.symbol ")" :: kinds))
    refine Decides.congr ?_ hreadable.symm
    dsimp only
    cases hkinds : first.kinds (followers "," Part.kinds rest (.symbol ")" :: kinds)) with
    | nil =>
      rw [hkinds] at hstart
      exact (Decides.nil ⟨_, rfl⟩).congr (iff_of_false not_false fun h => hstart (h first List.mem_cons_self))
    | cons k kinds' =>
      rw [hkinds] at hstart
      refine decides_peek fun t ht => ?_
      rw [hstart t ht, if_neg Bool.false_ne_true, ← hkinds]
      refine ((decides_items (by decide) hitem (fun p _ kinds' => startsItem_part p kinds') rfl hread hrest).bind
        fun _ ps hps => ?_).congr (by rw [and_true])
      obtain ⟨hbare, hfinish⟩ := PartsRead.finish (hparts ▸ hps)
      simp only [hbare]
      exact .pure hfinish

end Decides

/-! ### Violations in parameters -/

section Checks

variable {fs : Formals} {p : Parameters}

private theorem names_of_isRead {fs : List Formal} {args : List Argument} (h : List.Forall₂ Formal.IsRead fs args) :
    args.map (·.named.2) = fs.map fun f => Text.composed f.name := by
  induction h with
  | nil => rfl
  | cons hf _ ih =>
    obtain ⟨line, hint, default, rfl, -, -⟩ := hf
    rw [List.map_cons, List.map_cons, ih]
    rfl

/-- The names of parameters as they are read. -/
theorem Formals.IsRead.names (h : fs.IsRead p) : p.names.map (·.2) = fs.all.map fun f => Text.composed f.name := by
  obtain ⟨regular, keywordOnly, rfl, hregular, hkeywordOnly⟩ := h
  have hall : (Parameters.mk [] regular none keywordOnly none).all = regular ++ keywordOnly := by
    simp [Parameters.all]
  rw [Parameters.names, hall, List.map_map, Formals.all, List.map_append, List.map_append, ← names_of_isRead hregular,
    ← names_of_isRead hkeywordOnly]
  rfl

/-- No name is repeated exactly if the names differ as the scopes know them. -/
theorem Formals.IsRead.namesLine_eq_none_iff (h : fs.IsRead p) (s : Surroundings) :
    namesLine s p = none ↔ (fs.all.map fun f => s.privateName (Text.composed f.name)).Nodup := by
  have hmap := congrArg (List.map s.privateName) h.names
  rw [List.map_map, List.map_map] at hmap
  rw [namesLine, repeatedName_eq_none_iff, List.map_map]
  refine (and_iff_left fun _ _ => List.not_mem_nil).trans (Eq.to_iff ?_)
  exact congrArg List.Nodup hmap

/-- No name of a parameter is forbidden. -/
theorem Formals.IsRead.any_isForbidden (h : fs.IsRead p) :
    (p.names.any fun x => isForbidden x.2) = fs.all.any fun f => isForbidden (Text.composed f.name) := by
  have hany := congrArg (List.any · isForbidden) h.names
  simpa [Function.comp_def] using hany

private theorem argumentsLine_of_isRead {fs : List Formal} {args : List Argument} (h : List.Forall₂ Formal.IsRead fs args)
    (s : Surroundings) : argumentsLine s args = none := by
  induction h with
  | nil => rw [argumentsLine]
  | cons hf _ ih =>
    obtain ⟨line, hint, default, rfl, hhint, hdefault⟩ := hf
    have hvalue : optionalLine s .value default = none := by
      cases default with
      | none => rw [optionalLine]
      | some e => rw [optionalLine, hdefault e rfl s .value rfl]
    rw [argumentsLine, hvalue, optionalLine, hhint s .item rfl, ih]
    rfl

/-- The types and defaults of parameters are harmless. -/
theorem Formals.IsRead.parametersLine (h : fs.IsRead p) (s : Surroundings) : parametersLine s p = none := by
  obtain ⟨regular, keywordOnly, rfl, hregular, hkeywordOnly⟩ := h
  rw [Source.parametersLine, argumentsLine_of_isRead hregular, argumentsLine_of_isRead hkeywordOnly, argumentsLine,
    argumentLine]
  rfl

end Checks

end NavFactory.Source
