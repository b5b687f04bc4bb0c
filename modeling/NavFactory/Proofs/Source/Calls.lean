import NavFactory.Proofs.Source.Operands

/-!
# Calls

Calls of generated text with keyword arguments: how they are cut into tokens (`Scans.invocation`) and when they
are expressions (`decides_invocation`).
-/

namespace NavFactory.Source

open NavFactory.Source.Parser

/-! ### Keyword arguments -/

/-- A keyword with the operand that it passes on. -/
abbrev Keyword := String × Operand

namespace Keyword

def shown (k : Keyword) : String := k.1 ++ "=" ++ k.2.shown

def kinds (k : Keyword) (tail : List TokenKind) : List TokenKind := wordKinds k.1 (.symbol "=" :: k.2.kinds tail)

end Keyword

/-- Whether keywords can stand in one call. -/
structure AreKeywords (ks : List Keyword) : Prop where
  names : ∀ k ∈ ks, isName k.1 ∧ isForbidden (Text.composed k.1) = false
  nodup : (ks.map fun k => Text.composed k.1).Nodup
  fit : ∀ k ∈ ks, k.2.IsFit

/-- A call with keyword arguments. -/
structure Invocation where
  function : String
  first : Keyword
  rest : List Keyword

namespace Invocation

/-- The keywords of a call. -/
def keywords (c : Invocation) : List Keyword := c.first :: c.rest

def shown (c : Invocation) : String := c.function ++ "(" ++ ", ".intercalate (c.keywords.map Keyword.shown) ++ ")"

def kinds (c : Invocation) (tail : List TokenKind) : List TokenKind :=
  wordKinds c.function (.symbol "(" :: c.first.kinds (followers "," Keyword.kinds c.rest (.symbol ")" :: tail)))

/-- Whether what stands in a call are words. -/
structure HasWords (c : Invocation) : Prop where
  function : IsWord c.function.toList
  keywords : ∀ k ∈ c.keywords, IsWord k.1.toList ∧ ∀ w ∈ k.2.words, IsWord w.toList

/-- Whether all operands of a call are expressions. -/
def isReadable (c : Invocation) : Bool := c.keywords.all (·.2.isReadable)

end Invocation

section Scans

variable {ws : List Nat} {bs : List Char} {cs : List Char} {kinds : List TokenKind}

/-- No operand makes a longer symbol of an equals sign in front of it. -/
private theorem exists_head_shown {o : Operand} (ho : ∀ w ∈ o.words, IsWord w.toList) :
    ∃ c rest, o.shown.toList = c :: rest ∧ isLone '=' c := by
  have hword : ∀ {w : String} (tail : List Char), IsWord w.toList →
      ∃ c rest, w.toList ++ tail = c :: rest ∧ isLone '=' c := by
    intro w tail hw
    obtain ⟨c, rest, hc, -⟩ := hw.start
    exact ⟨c, rest ++ tail, by rw [hc]; rfl, isLone_of_isNamePart '=' (hw.parts c (by simp [hc]))⟩
  cases o with
  | word w => simpa [Operand.shown] using hword [] (ho w (by simp [Operand.words]))
  | member w m => simpa [Operand.shown] using hword ('.' :: m.toList) (ho w (by simp [Operand.words]))
  | subscript w first rest =>
    have hw := hword ('[' :: ((", ".intercalate (first :: rest)).toList ++ [']'])) (ho w (by simp [Operand.words]))
    simpa [Operand.shown] using hw
  | text s =>
    obtain ⟨-, c, rest, hc, hquote⟩ := isClean_quoteChars s.toList
    refine ⟨c, rest, by rw [Operand.shown, Text.quote, String.toList_ofList, hc], ?_⟩
    have hall : c = '"' ∨ c = '\'' := by simpa [isQuote] using hquote
    rcases hall with rfl | rfl <;> decide
  | int i =>
    obtain ⟨c, digits, hdigits, hc⟩ : ∃ c digits, Nat.toDigits 10 i.natAbs = c :: digits ∧ isNamePart c := by
      cases hdigits : Nat.toDigits 10 i.natAbs with
      | nil => exact absurd hdigits Nat.toDigits_ne_nil
      | cons c digits =>
        have hc : c.isDigit := Nat.isDigit_of_mem_toDigits (b := 10) (n := i.natAbs) (by omega) (by omega) (by simp [hdigits])
        exact ⟨c, digits, rfl, by simp [isNamePart, hc]⟩
    rw [Operand.shown, Int.toString_eq_repr, Int.repr_eq_if]
    by_cases hi : 0 ≤ i
    · have hnat : i.toNat = i.natAbs := by omega
      rw [if_pos hi, Nat.toList_repr, hnat]
      exact ⟨c, digits, hdigits, isLone_of_isNamePart '=' hc⟩
    · rw [if_neg hi, String.toList_append]
      exact ⟨'-', _, rfl, by decide⟩
  | empty => exact ⟨'[', [']'], rfl, by decide⟩
  | state m =>
    unfold Operand.shown FragmentState.shown
    simp only [String.toList_append, List.append_assoc]
    exact ⟨'<', _, rfl, by decide⟩

private theorem Scans.keyword {k : Keyword} (hname : IsWord k.1.toList) (hwords : ∀ w ∈ k.2.words, IsWord w.toList)
    (hbs : bs.length < 200) {d : Char} (hd : endsOperand d) (h : Scans ⟨false, ws, bs⟩ (d :: cs) kinds) :
    Scans ⟨false, ws, bs⟩ (k.shown.toList ++ d :: cs) (k.kinds kinds) := by
  obtain ⟨c, rest, hc, hlone⟩ := exists_head_shown hwords
  have hoperand := Scans.operand hwords hbs hd h
  rw [hc, List.cons_append] at hoperand
  have hequals := Scans.symbol (c := '=') (by decide) hlone (by simp) hoperand
  simpa [Keyword.shown, Keyword.kinds, hc] using hequals.word hname (by decide)

theorem Scans.invocation {c : Invocation} (hc : c.HasWords) (hbs : bs.length < 199) (h : Scans ⟨false, ws, bs⟩ cs kinds) :
    Scans ⟨false, ws, bs⟩ (c.shown.toList ++ cs) (c.kinds kinds) := by
  have hclose := Scans.closes (c := ')') (by decide) h
  have hbs' : (')' :: bs).length < 200 := Nat.succ_lt_succ hbs
  have hitems : ∀ k ∈ c.first :: c.rest, ∀ d cs kinds, d = ',' ∨ d = ')' → Scans ⟨false, ws, ')' :: bs⟩ (d :: cs) kinds →
      Scans ⟨false, ws, ')' :: bs⟩ (k.shown.toList ++ d :: cs) (k.kinds kinds) := by
    intro k hk d cs kinds hd h
    refine Scans.keyword (hc.keywords k hk).1 (hc.keywords k hk).2 hbs' ?_ h
    rcases hd with rfl | rfl <;> decide
  have hopen := Scans.opens (c := '(') (by decide) rfl (by omega) (Scans.listed hitems hclose)
  simpa [Invocation.shown, Invocation.kinds, Invocation.keywords] using hopen.word hc.function (by decide)

end Scans

/-! ### Arguments -/

section Decides

variable {r : Rules} {kinds : List TokenKind}

theorem decides_seesLoop {β : Type} {f : Bool → Parser β} {k : TokenKind} {rest : List TokenKind} {good : Prop}
    {R : β → Prop} (hk : ∀ s, k ≠ .keyword s) (h : (f false).Decides (k :: kinds) rest good R) :
    (Rules.seesLoop >>= f).Decides (k :: kinds) rest good R := by
  refine Decides.bind_true (?_ : Decides _ _ (k :: kinds) True (· = false)) ?_
  · refine decides_peek fun t ht => ?_
    cases k with
    | keyword s => exact absurd rfl (hk s)
    | _ =>
      simp only [ht]
      exact .pure rfl
  · rintro _ rfl
    exact h

/-- What a keyword argument is read as. -/
def Keyword.IsRead (k : Keyword) (x : Option String × Expr) : Prop := x.1 = some (Text.composed k.1) ∧ Harmless x.2

private theorem decides_argument_keyword (n opened : Nat) (s : Rules.ArgumentList) {k : Keyword} (hname : isName k.1)
    (hfit : k.2.IsFit) {stop : TokenKind} (hstop : stop = .symbol "," ∨ stop = .symbol ")") :
    (Rules.argument (ruleAt (n + 6)) opened s).Decides (k.kinds (stop :: kinds)) (stop :: kinds) k.2.isReadable fun s' =>
      s'.arguments = s.arguments ∧ s'.misplaced = s.misplaced ∧ ∃ x, k.IsRead x ∧ s'.keywords = x :: s.keywords := by
  have hstop' : stop.isStop := by rcases hstop with rfl | rfl <;> rfl
  have hcolon : stop = .symbol ":" → ∃ rest, kinds = .newline :: rest := by rcases hstop with rfl | rfl <;> nofun
  have hkeyword : ∀ s, stop ≠ .keyword s := by rcases hstop with rfl | rfl <;> nofun
  have hoperand : (ruleAt (n + 6)).expression.Decides (k.2.kinds (stop :: kinds)) (stop :: kinds) k.2.isReadable Harmless :=
    decides_operand n hfit hstop' hcolon
  rw [Keyword.kinds, wordKinds_of_isName hname]
  refine decides_peek fun t ht => ?_
  refine decides_accept_ne nofun (decides_accept_ne nofun ?_)
  simp only [ht]
  refine decides_seesSecond ?_
  rw [beq_self_eq_true, Bool.and_self, if_pos rfl]
  refine decides_name_token (decides_next fun _ _ => (hoperand.bind fun _ e he => ?_).congr (by rw [and_true]))
  exact decides_seesLoop hkeyword (.pure ⟨rfl, rfl, (some (Text.composed k.1), e), ⟨rfl, he⟩, rfl⟩)

/-- What has been read of a call when some keyword arguments have been. -/
private structure AreRead (before : List Keyword) (s : Rules.ArgumentList) : Prop where
  arguments : s.arguments = []
  misplaced : s.misplaced = false
  keywords : List.Forall₂ Keyword.IsRead before s.keywords.reverse

/-- Keyword arguments up to the closing parenthesis are well formed exactly if their operands are expressions. -/
theorem decides_arguments (n opened : Nat) {first : Keyword} {rest : List Keyword} (hks : AreKeywords (first :: rest))
    (hrest : rest.length < n) :
    (Rules.arguments (ruleAt (n + 6)) opened).Decides
      (first.kinds (followers "," Keyword.kinds rest (.symbol ")" :: kinds))) kinds
      (∀ k ∈ first :: rest, k.2.isReadable) fun x => x.1 = [] ∧ List.Forall₂ Keyword.IsRead (first :: rest) x.2 := by
  have hkinds : ∀ k ∈ first :: rest, ∀ tail, k.kinds tail = .name (Text.composed k.1) :: .symbol "=" :: k.2.kinds tail :=
    fun k hk tail => wordKinds_of_isName (hks.names k hk).1
  have hitem : ∀ before k after s kinds', before ++ k :: after = first :: rest → AreRead before s →
      ∀ k', k' = (if after.isEmpty then .symbol ")" else .symbol ",") →
        (Rules.argument (ruleAt (n + 6)) opened s).Decides (k.kinds (k' :: kinds')) (k' :: kinds') k.2.isReadable
          (AreRead (before ++ [k])) := by
    intro before k after s kinds' hwhole hs k' hk'
    have hk : k ∈ first :: rest := by simp [← hwhole]
    have hstop : k' = .symbol "," ∨ k' = .symbol ")" := by
      rw [hk']
      split
      · exact Or.inr rfl
      · exact Or.inl rfl
    refine (decides_argument_keyword n opened s (hks.names k hk).1 (hks.fit k hk) hstop).mono ?_
    rintro s' ⟨harguments, hmisplaced, x, hx, hkeywords⟩
    refine ⟨harguments.trans hs.arguments, hmisplaced.trans hs.misplaced, ?_⟩
    rw [hkeywords, List.reverse_cons]
    exact List.rel_append hs.keywords (.cons hx .nil)
  have hstart : ∀ k ∈ first :: rest, ∀ kinds', StartsItem (Rules.closes ")") (k.kinds kinds') k.2.isReadable := by
    intro k hk kinds'
    rw [hkinds k hk]
    rintro t ht
    rw [Rules.closes, ht]
    rfl
  have hiterate := hkinds first List.mem_cons_self
  rw [hiterate]
  refine decides_peek fun t ht => ?_
  have hclosed : Rules.closes ")" t = false := by
    rw [Rules.closes, ht]
    rfl
  rw [hclosed, if_neg Bool.false_ne_true, ← hiterate]
  have hempty : AreRead [] {} := ⟨rfl, rfl, .nil⟩
  refine ((decides_items (by decide) hitem hstart rfl hempty (Nat.lt_add_right 6 hrest)).bind fun _ s hs => ?_).congr
    (by rw [and_true])
  dsimp only
  rw [hs.misplaced]
  refine (decides_expect.bind fun _ _ _ => ?_).congr (and_self_iff (a := True))
  exact .pure ⟨by rw [hs.arguments]; rfl, hs.keywords⟩

private theorem decides_suffix_call (start : Nat) (e : Expr) {rest : List TokenKind} {good : Prop}
    {Q : List Expr × List (Option String × Expr) → Prop}
    (h : ∀ opened, (Rules.arguments r opened).Decides kinds rest good Q) :
    (Rules.suffix r start e).Decides (.symbol "(" :: kinds) rest good fun x =>
      x.2 = true ∧ ∃ a, Q a ∧ x.1 = .call start e a.1 a.2 := by
  refine decides_peek fun t ht => ?_
  simp only [ht]
  refine decides_next fun _ _ => ((h t.line).bind fun _ a ha => ?_).congr (by rw [and_true])
  exact .pure ⟨rfl, a, ha, rfl⟩

private theorem harmless_keywords {ks : List Keyword} (hks : AreKeywords ks) {read : List (Option String × Expr)}
    (hread : List.Forall₂ Keyword.IsRead ks read) (line : Nat) {function : Expr} (hfunction : Harmless function) :
    Harmless (.call line function [] read) := by
  have hnames : read.filterMap (·.1) = ks.map fun k => Text.composed k.1 := by
    clear hks
    induction hread with
    | nil => rfl
    | cons hk _ ih => rw [List.filterMap_cons_some hk.1, ih, List.map_cons]
  refine harmless_call line hfunction nofun ?_ (hnames ▸ hks.nodup) ?_
  · intro x hx
    obtain ⟨_, _, hk⟩ := exists_of_forall₂ hread x hx
    exact hk.2
  · intro x hx id hid
    obtain ⟨k, hk, hread⟩ := exists_of_forall₂ hread x hx
    rw [hread.1] at hid
    cases hid
    exact (hks.names k hk).2

/-- A call is an expression exactly if its operands are. -/
theorem decides_invocation (n : Nat) {c : Invocation} (hfunction : isName c.function) (hks : AreKeywords c.keywords)
    (hrest : c.rest.length < n) {stop : TokenKind} (hstop : stop.isStop) :
    (Rules.expressionRule (ruleAt (n + 6))).Decides (c.kinds (stop :: kinds)) (stop :: kinds) c.isReadable Harmless := by
  rw [Invocation.kinds, wordKinds_of_isName hfunction]
  refine (Rules.passes_expressionRule (r := ruleAt (n + 6)) rfl (Nat.succ_pos _)).decides ?_ rfl hstop
  refine (decides_primary rfl (decides_atom_name _ _) ?_).congr
    (show True ∧ (∀ k ∈ c.first :: c.rest, k.2.isReadable) ↔ _ by simp [Invocation.isReadable, Invocation.keywords])
  rintro - start e ⟨line, rfl⟩
  refine (decides_iterate_more (stop :: kinds) Harmless ?_ ?_).congr (by rw [and_true])
  · refine (decides_suffix_call start _ fun opened => decides_arguments n opened hks hrest).mono ?_
    rintro ⟨e, more⟩ ⟨rfl, ⟨positional, read⟩, ⟨rfl, hread⟩, rfl⟩
    exact ⟨rfl, harmless_keywords hks hread start (harmless_name line _)⟩
  · intro _ e he
    exact decides_suffixes_none _ start (n + 4) hstop he

/-! ### Positional arguments -/

/-- A single argument without a keyword. -/
private theorem decides_arguments_plain (hfuel : 0 < r.fuel) (opened : Nat) {id : String} {k : TokenKind}
    {rest : List TokenKind} {good : Prop} {Q : Expr → Prop} (hk : k ≠ .symbol "=" ∧ k ≠ .symbol ":=")
    (h : r.expression.Decides (.name id :: k :: kinds) (.symbol ")" :: rest) good Q) :
    (Rules.arguments r opened).Decides (.name id :: k :: kinds) rest good fun x => ∃ e, Q e ∧ x = ([e], []) := by
  obtain ⟨n, hn⟩ : ∃ n, r.fuel = n + 1 := ⟨r.fuel - 1, by omega⟩
  have hplain : (Rules.plainArgument r).Decides (.name id :: k :: kinds) (.symbol ")" :: rest) good Q := by
    refine decides_peek fun t ht => ?_
    simp only [ht]
    exact decides_seesSecond_ne hk.2 h
  have hargument : (Rules.argument r opened {}).Decides (.name id :: k :: kinds) (.symbol ")" :: rest) good fun s =>
      ∃ e, Q e ∧ s.arguments = [e] ∧ s.keywords = [] ∧ s.misplaced = false := by
    refine decides_peek fun t ht => ?_
    refine decides_accept_ne nofun (decides_accept_ne nofun ?_)
    simp only [ht]
    refine decides_seesSecond_ne hk.1 ?_
    refine (hplain.bind fun _ e he => ?_).congr (by rw [and_true])
    refine decides_sees_ne (by decide) (decides_seesLoop nofun (.pure ?_))
    exact ⟨e, he, rfl, rfl, rfl⟩
  refine decides_peek fun t ht => ?_
  have hclosed : Rules.closes ")" t = false := by
    rw [Rules.closes, ht]
    rfl
  rw [hclosed, if_neg Bool.false_ne_true, hn]
  refine (Decides.bind (?_ : Decides _ _ (.symbol ")" :: rest) good fun s =>
    ∃ e, Q e ∧ s.arguments = [e] ∧ s.keywords = [] ∧ s.misplaced = false) fun _ s hs => ?_).congr (by rw [and_true])
  · refine decides_iterate_stop ((hargument.bind fun _ s hs => ?_).congr (by rw [and_true]))
    exact decides_accept_ne (by decide) (.pure ⟨rfl, hs⟩)
  · obtain ⟨e, he, harguments, hkeywords, hmisplaced⟩ := hs
    dsimp only
    rw [hmisplaced]
    refine (decides_expect.bind fun _ _ _ => ?_).congr (and_self_iff (a := True))
    exact .pure ⟨e, he, by rw [harguments, hkeywords]; rfl⟩

/-- A call with one argument in parentheses. -/
theorem decides_suffix_plain (hfuel : 0 < r.fuel) (start : Nat) {function : Expr} (hfunction : Harmless function)
    {id : String} {k : TokenKind} {rest : List TokenKind} {good : Prop} (hk : k ≠ .symbol "=" ∧ k ≠ .symbol ":=")
    (h : r.expression.Decides (.name id :: k :: kinds) (.symbol ")" :: rest) good Harmless) :
    (Rules.suffix r start function).Decides (.symbol "(" :: .name id :: k :: kinds) rest good fun x =>
      x.2 = true ∧ Harmless x.1 := by
  refine (decides_suffix_call start function fun opened => decides_arguments_plain hfuel opened hk h).mono ?_
  rintro ⟨e, more⟩ ⟨rfl, a, ⟨e, he, rfl⟩, rfl⟩
  exact ⟨rfl, harmless_call start hfunction (by simpa using he) nofun List.nodup_nil nofun⟩

end Decides

end NavFactory.Source
