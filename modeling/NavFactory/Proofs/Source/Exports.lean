import NavFactory.Proofs.Source.Definitions

/-!
# Exports

The statement that lists the names that a package exports, one on each line.
-/

namespace NavFactory.Source

open NavFactory.Source.Parser

/-- The variable that lists the exported names. -/
def exportList : String := "__all__"

/-- The lines that list exported names. -/
def exportListLines (names : List String) : List String :=
  (exportList ++ " = [") :: names.map (fun w => "    \"" ++ w ++ "\",") ++ ["]"]

/-- The kinds of tokens of a list of texts with a comma behind each. -/
def itemKinds (names : List String) (tail : List TokenKind) : List TokenKind :=
  names.foldr (fun w kinds => .string { body := w.toList } :: .symbol "," :: kinds) tail

/-- The kinds of tokens from the list of exported names on. -/
def exportKinds (names : List String) (tail : List TokenKind) : List TokenKind :=
  .name exportList :: .symbol "=" :: .symbol "[" :: itemKinds names (.symbol "]" :: tail)

/-! ### Tokens of exports -/

section Scans

variable {ws : List Nat} {cs : List Char} {kinds : List TokenKind}

/-- The characters of lines that end with a break each. -/
def lineChars (lines : List String) : List Char := lines.flatMap fun l => l.toList ++ ['\n']

private theorem Scans.items {names : List String} (hnames : ∀ w ∈ names, ∀ c ∈ w.toList, isNamePart c)
    (h : Scans ⟨true, ws, [']']⟩ cs kinds) :
    Scans ⟨true, ws, [']']⟩ (lineChars (names.map fun w => "    \"" ++ w ++ "\",") ++ cs) (itemKinds names kinds) := by
  induction names with
  | nil => exact h
  | cons w names ih =>
    have hw := hnames w List.mem_cons_self
    have hne : ∀ c ∈ w.toList, c ≠ '\\' ∧ c ≠ '"' ∧ c ≠ '\n' ∧ c ≠ '\r' ∧ c ≠ '\x00' := fun c hc =>
      ⟨ne_of_isNamePart (hw c hc) (by decide), ne_of_isNamePart (hw c hc) (by decide), ne_of_isNamePart (hw c hc) (by decide),
        ne_of_isNamePart (hw c hc) (by decide), ne_of_isNamePart (hw c hc) (by decide)⟩
    have hrest := (ih fun v hv => hnames v (List.mem_cons_of_mem w hv)).innerBreak
    have hcomma := Scans.symbol (c := ',') (d := '\n') (by decide) (by decide) (by simp) hrest
    have hplain : IsClean ('"' :: w.toList ++ ['"']) := by
      simp only [IsClean, List.mem_append, List.mem_cons, List.not_mem_nil, or_false]
      rintro c ((rfl | hc) | rfl)
      · decide
      · exact (hne c hc).2.2.2
      · decide
    have hopen := openString_plain (',' :: '\n' :: (lineChars (names.map fun w => "    \"" ++ w ++ "\",") ++ cs))
      (fun c hc => ⟨(hne c hc).1, (hne c hc).2.1, (hne c hc).2.2.1⟩) (by simp)
    have hstring := Scans.string ('"' :: w.toList ++ ['"']) ⟨_, _, rfl, by decide⟩ hplain (by simpa using hopen) hcomma
    have hline := Scans.innerLine (k := 4) (by simp [opensLine]) hstring
    simpa [lineChars, itemKinds, List.replicate] using hline

/-- The list of exported names. -/
theorem Scans.exports {names : List String} (hnames : ∀ w ∈ names, ∀ c ∈ w.toList, isNamePart c)
    (h : Scans ⟨true, ws, []⟩ cs kinds) :
    Scans ⟨false, ws, []⟩ (lineChars (exportListLines names) ++ cs) (exportKinds names (.newline :: kinds)) := by
  have hclose := Scans.innerLine (k := 0) (by simp [opensLine]) (Scans.closes (c := ']') (by decide) h.lineBreak)
  have hopen := Scans.opens (c := '[') (by decide) rfl (by simp) (Scans.items hnames hclose).innerBreak
  have hequals := (Scans.symbol (c := '=') (d := ' ') (by decide) (by decide) (by simp) hopen.blank).blank
  have hname := hequals.word (w := exportList) (isWord_literal (by decide)) (by decide)
  rw [wordKinds_of_isName (by decide)] at hname
  have hcomposed : Text.composed exportList = exportList := by decide
  rw [hcomposed] at hname
  simpa [exportListLines, exportKinds, lineChars] using hname

end Scans

/-! ### Reading exports -/

section Decides

variable {r : Rules} {kinds : List TokenKind}

/-- A text of a list, in front of a comma or of the end of the list. -/
private theorem decides_item (n : Nat) {w : String} (hw : '\\' ∉ w.toList) {k : TokenKind}
    (hk : k = .symbol "," ∨ k = .symbol "]") :
    (Rules.starred (ruleAt (n + 4)).operand (Rules.namedRule (ruleAt (n + 4)))).Decides
      (.string { body := w.toList } :: k :: kinds) (k :: kinds) True Harmless := by
  have hbody := decodeLiteral_of_plain hw
  have hk' : (∀ s, k ≠ .string s) ∧ k.isStop ∧ k ≠ .symbol ":=" ∧ k ≠ .symbol "=" := by
    rcases hk with rfl | rfl <;> exact ⟨nofun, rfl, by decide, by decide⟩
  have hatom := decides_atom_string (r := ruleAt (n + 3)) (k := k) kinds (Nat.succ_lt_succ (Nat.succ_pos _))
    hk'.1 hbody
  have hstring : (ruleAt (n + 4)).expression.Decides (.string { body := w.toList } :: k :: kinds) (k :: kinds) True
      Harmless := by
    refine decides_operand_atom (n + 2) rfl hk'.2.1 (hatom.mono ?_)
    rintro e ⟨line, rfl⟩
    exact harmless_constant line _
  exact decides_here fun _ => decides_accept_ne nofun (decides_namedRule hstring hk'.2.2.1 hk'.2.1 hk'.2.2.2)

private theorem itemKinds_eq_followers (names : List String) (tail : List TokenKind) :
    .symbol "," :: itemKinds names tail =
      followers "," (fun w kinds => .string { body := w.toList } :: kinds) names (ending "," true tail) := by
  induction names with
  | nil => rfl
  | cons w names ih =>
    rw [followers_cons, ← ih]
    rfl

/-- The texts behind the first of a list. -/
private theorem decides_items_behind (n : Nat) {v : String} {names : List String} (hnames : ∀ w ∈ v :: names, '\\' ∉ w.toList)
    (hlength : names.length < n) :
    (separated (ruleAt (n + 4)).fuel "," (Rules.endsItems "]")
      (Rules.starred (ruleAt (n + 4)).operand (Rules.namedRule (ruleAt (n + 4))))).Decides
        (itemKinds (v :: names) (.symbol "]" :: kinds)) (.symbol "]" :: kinds) True fun x => ∀ e ∈ x.1, Harmless e := by
  have hkinds : itemKinds (v :: names) (.symbol "]" :: kinds) = .string { body := v.toList } ::
      followers "," (fun w kinds => .string { body := w.toList } :: kinds) names
        (ending "," true (.symbol "]" :: kinds)) := by
    rw [← itemKinds_eq_followers]
    rfl
  rw [hkinds]
  have hend : true → ∀ t : Token, t.kind = .symbol "]" → Rules.endsItems "]" t := by
    intro _ t ht
    rw [Rules.endsItems, Rules.closes, ht]
    rfl
  have hstart : ∀ w ∈ names, ∀ tail : List TokenKind,
      StartsItem (Rules.endsItems "]") (.string { body := w.toList } :: tail) True := by
    intro w _ tail t ht
    rw [Rules.endsItems, Rules.closes, ht]
    rfl
  have hitem : ∀ w ∈ v :: names, ∀ k' kinds', k' = .symbol "," ∨ k' = .symbol "]" →
      (Rules.starred (ruleAt (n + 4)).operand (Rules.namedRule (ruleAt (n + 4)))).Decides
        (.string { body := w.toList } :: k' :: kinds') (k' :: kinds') True Harmless :=
    fun w hw _ _ hk' => decides_item n (hnames w hw) hk'
  refine ((decides_separated (by decide) hend hitem hstart (Nat.lt_add_right 4 hlength)).mono fun x hx e he => ?_).congr
    (iff_of_true (fun _ _ => trivial) trivial)
  obtain ⟨_, -, he⟩ := exists_of_forall₂ hx.2 e he
  exact he

/-- A list of texts with a comma behind each. -/
private theorem decides_list (n : Nat) {names : List String} (hnames : ∀ w ∈ names, '\\' ∉ w.toList)
    (hlength : names.length < n) :
    (Rules.atom (ruleAt (n + 4))).Decides (.symbol "[" :: itemKinds names (.symbol "]" :: kinds)) kinds True Harmless := by
  have hfinish : ∀ line start (first : Expr) rest, (∀ e ∈ first :: rest, Harmless e) → (do
      if ← Rules.seesLoop then Rules.refuseLoop (ruleAt (n + 4)) line
      else do
        symbol "]"
        pure (.list start (first :: rest)) : Parser Expr).Decides (.symbol "]" :: kinds) kinds True Harmless := by
    intro line start first rest hall
    refine decides_seesLoop (by simp) ((decides_expect.bind fun _ _ _ => ?_).congr (and_self_iff (a := True)))
    exact .pure (harmless_list start hall)
  refine decides_peek fun t ht => ?_
  simp only [ht]
  refine decides_here fun start => (decides_expect.bind fun _ _ _ => ?_).congr (and_self_iff (a := True))
  cases names with
  | nil => exact decides_accept (.pure (harmless_list start (by simp)))
  | cons w names =>
    refine decides_accept_ne (by simp) ?_
    refine ((decides_item n (hnames w List.mem_cons_self) (Or.inl rfl)).bind fun _ first hfirst => ?_).congr
      (and_self_iff (a := True))
    refine decides_seesLoop (by simp) (decides_accept ?_)
    cases names with
    | nil =>
      refine decides_peek fun t ht => ?_
      have hclosed : Rules.closes "]" t = true := by
        rw [Rules.closes, ht]
        rfl
      rw [hclosed, if_pos rfl]
      exact hfinish _ start first [] (by simpa using hfirst)
    | cons v names =>
      refine decides_peek fun t ht => ?_
      have hclosed : Rules.closes "]" t = false := by
        rw [Rules.closes, ht]
        rfl
      rw [hclosed, if_neg Bool.false_ne_true]
      refine decides_seesLoop (by simp) ?_
      rw [if_neg Bool.false_ne_true]
      rw [List.length_cons, List.length_cons] at hlength
      refine ((decides_items_behind n (fun w hw => hnames w (List.mem_cons_of_mem _ hw)) (by omega)).bind
        fun _ x hx => ?_).congr (and_self_iff (a := True))
      exact hfinish _ start first x.1 (List.forall_mem_cons.2 ⟨hfirst, hx⟩)

/-- Whether a statement is an assignment that violates no rule. -/
def IsHarmlessAssignment (stmt : Stmt) : Prop :=
  (∃ line targets value, stmt = .assign line targets value) ∧ ∀ s, stmtLine s stmt = none

/-- The list of exported names is an assignment, which violates no rule. -/
theorem decides_exports (n : Nat) {names : List String} (hnames : ∀ w ∈ names, '\\' ∉ w.toList)
    (hlength : names.length < n) :
    (Rules.statement (ruleAt (n + 5))).Decides (exportKinds names (.newline :: kinds)) kinds True fun ss =>
      ∃ stmt, IsHarmlessAssignment stmt ∧ ss = [stmt] := by
  have hname : (ruleAt (n + 5)).expression.Decides
      (.name exportList :: .symbol "=" :: .symbol "[" :: itemKinds names (.symbol "]" :: .newline :: kinds))
      (.symbol "=" :: .symbol "[" :: itemKinds names (.symbol "]" :: .newline :: kinds)) True
      fun e => ∃ line, e = .name line exportList :=
    decides_operand_atom (n + 3) rfl rfl (decides_atom_name _ _)
  have hlist : (ruleAt (n + 5)).expression.Decides (.symbol "[" :: itemKinds names (.symbol "]" :: .newline :: kinds))
      (.newline :: kinds) True Harmless := decides_operand_atom (n + 3) rfl rfl (decides_list n hnames hlength)
  have htarget : ∀ line s, exprsLine s .target [.name line exportList] = none := by
    intro line s
    rw [exprsLine, exprsLine, exprLine, Option.or_none, violation_eq_none_iff]
    rfl
  have hassign : ∀ line line', (Rules.assignment (ruleAt (n + 5)) line false (.name line' exportList)).Decides
      (.symbol "=" :: .symbol "[" :: itemKinds names (.symbol "]" :: .newline :: kinds)) (.newline :: kinds) True
      IsHarmlessAssignment := by
    intro line line'
    refine (Decides.bind (?_ : Decides _ _ (.newline :: kinds) True fun (x : List Expr × Bool × Expr) =>
      x.1 = [.name line' exportList] ∧ Harmless x.2.2) fun _ x hx => ?_).congr (and_self_iff (a := True))
    · refine (decides_iterate_more (.newline :: kinds) (fun x => x.1 = [.name line' exportList] ∧ Harmless x.2.2)
        ?_ ?_).congr (and_self_iff (a := True))
      · refine decides_sees ?_
        rw [beq_self_eq_true, if_pos rfl, if_neg Bool.false_ne_true]
        refine decides_next fun _ _ => decides_sees_ne (by simp) ?_
        have hvalue := decides_assignedValue (Nat.succ_pos _) hlist ⟨by decide, by simp⟩ (by decide)
        refine (hvalue.bind fun _ e he => ?_).congr (and_self_iff (a := True))
        exact .pure ⟨rfl, rfl, he⟩
      · rintro - x hx
        exact decides_iterate_stop (decides_sees_ne (by simp) (.pure ⟨rfl, hx⟩))
    · obtain ⟨htargets, hvalue⟩ := hx
      refine .pure ⟨⟨line, x.1.reverse, x.2.2, rfl⟩, fun s => ?_⟩
      rw [htargets, List.reverse_singleton, stmtLine, hvalue s .value rfl, htarget line' s]
      rfl
  have hstatement : (Rules.expressionStatement (ruleAt (n + 5))).Decides (exportKinds names (.newline :: kinds))
      (.newline :: kinds) True IsHarmlessAssignment := by
    refine decides_here fun line => decides_sees_ne (by simp) ?_
    have hfirst := decides_assignedValue (Nat.succ_pos _) hname ⟨by simp, by simp⟩ (by decide)
    refine (hfirst.bind fun _ first hfirst => ?_).congr (and_self_iff (a := True))
    obtain ⟨line', rfl⟩ := hfirst
    refine decides_peek fun t ht => ?_
    simp only [ht]
    exact hassign line line'
  refine decides_statement_simple (by decide) ?_
  exact decides_simpleStatements (Nat.succ_pos _) (decides_simpleStatement (Or.inr ⟨_, rfl⟩) hstatement)

end Decides

end NavFactory.Source
