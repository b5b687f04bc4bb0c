import NavFactory.ModuleText
import NavFactory.Naming
import NavFactory.Proofs.Source.Calls

/-!
# Lines of methods

The simple statements that generated classes and methods are made of: how they are cut into tokens (`Scans.statement`)
and when they are statements (`decides_line`).
-/

namespace NavFactory.Source

open NavFactory.Source.Parser

/-- A statement on one line. -/
inductive Line
  | doc (s : String)
  /-- Makes the list of parameters. -/
  | allocate (type item : String)
  /-- Adds what a call gives to the list of parameters. -/
  | append (c : Invocation)
  | returns (c : Invocation)
  /-- Returns what a call with one argument gives. -/
  | construct (function argument : String)

namespace Line

/-- The text of a line. -/
def shown : Line → String
  | doc s => docstringText s
  | allocate type item => parameterList ++ ": " ++ type ++ "[" ++ item ++ "] = []"
  | append c => parameterList ++ ".append(" ++ c.shown ++ ")"
  | returns c => "return " ++ c.shown
  | construct function argument => "return " ++ function ++ "(" ++ argument ++ ")"

/-- The kinds of tokens from a line on. -/
def kinds : Line → List TokenKind → List TokenKind
  | doc s, tail => .string { body := s.toList } :: tail
  | allocate type item, tail =>
    .name parameterList :: .symbol ":" :: (Operand.subscript type item []).kinds (.symbol "=" :: Operand.empty.kinds tail)
  | append c, tail =>
    .name parameterList :: .symbol "." :: wordKinds "append" (.symbol "(" :: c.kinds (.symbol ")" :: tail))
  | returns c, tail => .keyword "return" :: c.kinds tail
  | construct function argument, tail =>
    .keyword "return" :: wordKinds function (.symbol "(" :: wordKinds argument (.symbol ")" :: tail))

/-- Whether the words of a line are words and its documentation has nothing to escape. -/
def HasWords : Line → Prop
  | doc s => ∀ c ∈ s.toList, c ≠ '"' ∧ c ≠ '\\' ∧ c ≠ '\r' ∧ c ≠ '\x00'
  | allocate type item => IsWord type.toList ∧ IsWord item.toList
  | append c => c.HasWords
  | returns c => c.HasWords
  | construct function argument => IsWord function.toList ∧ IsWord argument.toList

/-- Whether the words of a line are names where no other word may stand. -/
def HasNames (n : Nat) : Line → Prop
  | doc s => '\\' ∉ s.toList
  | allocate type _ => isName type
  | append c => isName c.function ∧ AreKeywords c.keywords ∧ c.rest.length < n
  | returns c => isName c.function ∧ AreKeywords c.keywords ∧ c.rest.length < n
  | construct function argument => Source.isReadable function ∧ isName argument

/-- Whether all operands of a line are expressions. -/
def isReadable : Line → Bool
  | allocate _ item => Source.isReadable item
  | append c => c.isReadable
  | returns c => c.isReadable
  | _ => true

end Line

/-! ### Tokens of lines -/

section Scans

variable {ws : List Nat} {cs : List Char} {kinds : List TokenKind}

private theorem isWord_parameterList : IsWord parameterList.toList :=
  (isWord_literal (by decide))

private theorem wordKinds_parameterList (kinds : List TokenKind) :
    wordKinds parameterList kinds = .name parameterList :: kinds := wordKinds_of_isName (by decide)

private theorem Scans.return_ (h : Scans ⟨false, ws, []⟩ cs kinds) :
    Scans ⟨false, ws, []⟩ ("return ".toList ++ cs) (.keyword "return" :: kinds) :=
  h.blank.word (w := "return") (isWord_literal (by decide)) (by decide)

/-- A line in front of a line break. -/
theorem Scans.statement {l : Line} (hl : l.HasWords) (h : Scans ⟨false, ws, []⟩ ('\n' :: cs) kinds) :
    Scans ⟨false, ws, []⟩ (l.shown.toList ++ '\n' :: cs) (l.kinds kinds) := by
  cases l with
  | doc s =>
    have hquote : '"' ∉ s.toList := fun hmem => (hl _ hmem).1 rfl
    have hslash : '\\' ∉ s.toList := fun hmem => (hl _ hmem).2.1 rfl
    have hplain : IsClean ('"' :: '"' :: '"' :: s.toList ++ ['"', '"', '"']) := by
      simp only [IsClean, List.mem_append, List.mem_cons, List.not_mem_nil, or_false]
      rintro c ((rfl | rfl | rfl | hc) | rfl | rfl | rfl)
      all_goals first
        | exact (hl c hc).2.2
        | decide
    have hopen := openString_doc ('\n' :: cs) hquote hslash
    have hstring := Scans.string ('"' :: '"' :: '"' :: s.toList ++ ['"', '"', '"']) ⟨_, _, rfl, by decide⟩ hplain
      (by simpa using hopen) h
    simpa [Line.shown, Line.kinds, docstringText] using hstring
  | allocate type item =>
    have hempty := Scans.operand (o := .empty) (by simp [Operand.words]) (by simp) (d := '\n') (by decide) h
    have hequals := (Scans.symbol (c := '=') (d := ' ') (by decide) (by decide) (by simp) hempty.blank).blank
    have hwords : ∀ w ∈ (Operand.subscript type item []).words, IsWord w.toList := by
      have hl' : IsWord type.toList ∧ IsWord item.toList := hl
      simpa [Operand.words] using hl'
    have hhint := (Scans.operand hwords (by simp) (d := ' ') (by decide) hequals).blank
    have hcolon := Scans.symbol (c := ':') (d := ' ') (by decide) (by decide) (by simp) hhint
    have hname := hcolon.word isWord_parameterList (by decide)
    rw [wordKinds_parameterList] at hname
    simpa [Line.shown, Line.kinds, Operand.shown] using hname
  | append c =>
    have hclose := Scans.closes (c := ')') (by decide) h
    have hopen := Scans.opens (c := '(') (by decide) rfl (by simp) (Scans.invocation hl (by simp) hclose)
    have happend := hopen.word (w := "append") (isWord_literal (by decide)) (by decide)
    have hdot := happend.dot (isWord_literal (by decide))
    have hname := hdot.word isWord_parameterList (by decide)
    rw [wordKinds_parameterList] at hname
    simpa [Line.shown, Line.kinds] using hname
  | returns c => simpa [Line.shown, Line.kinds] using (Scans.invocation hl (by simp) h).return_
  | construct function argument =>
    have hclose := (Scans.closes (c := ')') (by decide) h).word hl.2 (by decide)
    have hopen := Scans.opens (c := '(') (by decide) rfl (by simp) hclose
    simpa [Line.shown, Line.kinds] using (hopen.word hl.1 (by decide)).return_

end Scans

/-! ### Statements of lines -/

section Decides

variable {r : Rules} {k stop : TokenKind} {kinds rest : List TokenKind} {good : Prop} {Q : Expr → Prop}

/-- One expression where several might stand. -/
theorem decides_severalRule (hfuel : 0 < r.fuel) (h : r.expression.Decides (k :: kinds) (stop :: rest) good Q)
    (hk : k ≠ .symbol "*") (hstop : stop ≠ .symbol ",") :
    (Rules.severalRule r).Decides (k :: kinds) (stop :: rest) good Q := by
  have hitem : (Rules.starred r.operand r.expression).Decides (k :: kinds) (stop :: rest) good Q :=
    decides_here fun _ => decides_accept_ne hk h
  refine decides_here fun start => ((decides_separated_one hfuel hitem hstop).bind fun _ x hx => ?_).congr
    (by rw [and_true])
  obtain ⟨e, he, rfl⟩ := hx
  exact .pure he

/-- A value that is assigned. -/
theorem decides_assignedValue (hfuel : 0 < r.fuel) (h : r.expression.Decides (k :: kinds) (stop :: rest) good Q)
    (hk : k ≠ .symbol "*" ∧ k ≠ .keyword "yield") (hstop : stop ≠ .symbol ",") :
    (Rules.assignedValue r).Decides (k :: kinds) (stop :: rest) good Q :=
  decides_sees_ne hk.2 (decides_severalRule hfuel h hk.1 hstop)

/-- An expression by itself. -/
theorem decides_expressionStatement (hfuel : 0 < r.fuel)
    (h : r.expression.Decides (k :: kinds) (.newline :: rest) good Q) (hk : k ≠ .symbol "*" ∧ k ≠ .keyword "yield") :
    (Rules.expressionStatement r).Decides (k :: kinds) (.newline :: rest) good fun s =>
      ∃ line e, Q e ∧ s = .expression line e := by
  refine decides_here fun line => decides_sees_ne hk.2 ?_
  refine ((decides_assignedValue hfuel h hk (by decide)).bind fun _ e he => ?_).congr (by rw [and_true])
  refine decides_peek fun t ht => ?_
  simp only [ht]
  exact .pure ⟨line, e, he, rfl⟩

/-- A statement that starts with a string or a name is an expression or an assignment. -/
theorem decides_simpleStatement {R : Stmt → Prop} (hk : (∃ literal, k = .string literal) ∨ ∃ id, k = .name id)
    (h : (Rules.expressionStatement r).Decides (k :: kinds) rest good R) :
    (Rules.simpleStatement r).Decides (k :: kinds) rest good R := by
  refine decides_peek fun t ht => ?_
  rcases hk with ⟨literal, rfl⟩ | ⟨id, rfl⟩
  all_goals
    simp only [ht]
    exact h

/-- A documentation string. -/
theorem decides_doc (n : Nat) {s : String} (hs : '\\' ∉ s.toList) :
    (Rules.simpleStatement (ruleAt (n + 4))).Decides ((Line.doc s).kinds (.newline :: kinds)) (.newline :: kinds) True
      fun stmt => ∃ line line', stmt = .expression line (.constant line' (.text s false)) := by
  have hbody := decodeLiteral_of_plain hs
  have hatom := decides_atom_string (r := ruleAt (n + 3)) (k := .newline) kinds
    (Nat.succ_lt_succ (Nat.succ_pos _)) nofun hbody
  have hstring : (ruleAt (n + 4)).expression.Decides ((Line.doc s).kinds (.newline :: kinds)) (.newline :: kinds) True
      fun e => ∃ line, e = .constant line (.text s false) := by
    rw [String.ofList_toList] at hatom
    exact decides_operand_atom (n + 2) rfl rfl hatom
  refine decides_simpleStatement (Or.inl ⟨_, rfl⟩)
    ((decides_expressionStatement (Nat.succ_pos _) hstring ⟨nofun, nofun⟩).mono ?_)
  rintro stmt ⟨line, e, ⟨line', rfl⟩, rfl⟩
  exact ⟨line, line', rfl⟩

/-- Whether a statement violates no rule in a function. -/
def HarmlessInFunction (stmt : Stmt) : Prop := ∀ s : Surroundings, s.inFunction → stmtLine s stmt = none

private theorem decides_allocate (n : Nat) {type item : String} (htype : isName type) :
    (Rules.simpleStatement (ruleAt (n + 7))).Decides ((Line.allocate type item).kinds (.newline :: kinds))
      (.newline :: kinds) (isReadable item) HarmlessInFunction := by
  have hname : (ruleAt (n + 7)).expression.Decides
      (.name parameterList :: .symbol ":" ::
        (Operand.subscript type item []).kinds (.symbol "=" :: Operand.empty.kinds (.newline :: kinds)))
      (.symbol ":" :: (Operand.subscript type item []).kinds (.symbol "=" :: Operand.empty.kinds (.newline :: kinds))) True
      fun e => ∃ line, e = .name line parameterList :=
    decides_operand_atom (n + 5) rfl rfl (decides_atom_name _ _)
  have hhint : (ruleAt (n + 7)).expression.Decides
      ((Operand.subscript type item []).kinds (.symbol "=" :: Operand.empty.kinds (.newline :: kinds)))
      (.symbol "=" :: Operand.empty.kinds (.newline :: kinds)) (Operand.subscript type item []).isReadable Harmless :=
    decides_operand (o := .subscript type item []) (n + 1) ⟨htype, Nat.succ_pos 1⟩ rfl nofun
  have hempty : (ruleAt (n + 7)).expression.Decides (Operand.empty.kinds (.newline :: kinds)) (.newline :: kinds)
      Operand.empty.isReadable Harmless := decides_operand (o := .empty) (n + 1) trivial rfl nofun
  have hvalue := hempty.congr (iff_of_true rfl trivial)
  refine decides_simpleStatement (Or.inr ⟨_, rfl⟩) ?_
  refine decides_here fun line => decides_sees_ne nofun ?_
  refine ((decides_assignedValue (Nat.succ_pos _) hname ⟨nofun, nofun⟩ (by decide)).bind fun _ first hfirst => ?_).congr
    (show True ∧ (Operand.subscript type item []).isReadable ↔ _ by simp [Operand.isReadable])
  obtain ⟨line', rfl⟩ := hfirst
  refine decides_peek fun t ht => ?_
  simp only [ht, isSingleTarget]
  refine decides_next fun _ _ => (hhint.bind fun _ hint hhint => ?_).congr (by rw [and_true])
  have hsome : (some <$> Rules.assignedValue (ruleAt (n + 7))).Decides (Operand.empty.kinds (.newline :: kinds))
      (.newline :: kinds) True fun value => ∃ e, value = some e ∧ Harmless e := by
    have hassigned := decides_assignedValue (Nat.succ_pos _) hvalue ⟨by decide, by decide⟩ (by decide)
    exact .map (hassigned.mono fun e he => ⟨e, rfl, he⟩)
  refine (Decides.bind (decides_accept hsome) fun _ value hvalue => ?_).congr (and_self_iff (a := True))
  obtain ⟨e, rfl, he⟩ := hvalue
  refine .pure fun s _ => ?_
  have htarget : exprLine s .target (.name line' parameterList) = none := by
    simp [exprLine, isForbidden, parameterList]
  rw [stmtLine, optionalLine, he s .value rfl, hhint s .value rfl, htarget]
  rfl

private theorem Invocation.kinds_eq {c : Invocation} (hc : isName c.function) (tail : List TokenKind) :
    c.kinds tail = .name (Text.composed c.function) :: .symbol "(" ::
      c.first.kinds (followers "," Keyword.kinds c.rest (.symbol ")" :: tail)) := wordKinds_of_isName hc

private theorem decides_append (n : Nat) {c : Invocation} (hc : isName c.function) (hks : AreKeywords c.keywords)
    (hrest : c.rest.length < n) :
    (Rules.simpleStatement (ruleAt (n + 8))).Decides ((Line.append c).kinds (.newline :: kinds)) (.newline :: kinds)
      c.isReadable HarmlessInFunction := by
  have hinner : (ruleAt (n + 7)).expression.Decides (c.kinds (.symbol ")" :: .newline :: kinds))
      (.symbol ")" :: .newline :: kinds) c.isReadable Harmless := decides_invocation n hc hks hrest rfl
  have hcall : (ruleAt (n + 8)).expression.Decides ((Line.append c).kinds (.newline :: kinds)) (.newline :: kinds)
      c.isReadable Harmless := by
    refine (Rules.passes_expressionRule (r := ruleAt (n + 7)) rfl (Nat.succ_pos _)).decides ?_ rfl rfl
    refine (decides_primary rfl (decides_atom_name _ _) ?_).congr (by rw [true_and])
    rintro - start e ⟨line, rfl⟩
    refine (decides_iterate_more (.symbol "(" :: c.kinds (.symbol ")" :: .newline :: kinds)) Harmless ?_ ?_).congr
      (by rw [true_and])
    · refine ((decides_suffix_member _ start _ "append").congr (iff_of_true (by decide) trivial)).mono ?_
      rintro x rfl
      exact ⟨rfl, harmless_attribute start (harmless_name line _) _⟩
    · intro _ e he
      refine (decides_iterate_more (.newline :: kinds) Harmless ?_ ?_).congr (by rw [and_true])
      · rw [Invocation.kinds_eq hc] at hinner ⊢
        exact decides_suffix_plain (Nat.succ_pos _) start he ⟨by decide, by decide⟩ hinner
      · intro _ e he
        exact decides_suffixes_none _ start (n + 4) rfl he
  refine decides_simpleStatement (Or.inr ⟨_, rfl⟩)
    ((decides_expressionStatement (Nat.succ_pos _) hcall ⟨nofun, nofun⟩).mono ?_)
  rintro stmt ⟨line, e, he, rfl⟩ s _
  rw [stmtLine]
  exact he s .value rfl

/-- A statement that returns the value of an expression. -/
private theorem decides_return (hfuel : 0 < r.fuel) {k : TokenKind} (hk : k.isWord)
    (h : r.expression.Decides (k :: kinds) (.newline :: rest) good Harmless) :
    (Rules.simpleStatement r).Decides (.keyword "return" :: k :: kinds) (.newline :: rest) good HarmlessInFunction := by
  have hsymbol : ∀ s, k ≠ .symbol s := by
    rintro s rfl
    cases hk
  refine decides_peek fun t ht => ?_
  simp only [ht]
  refine decides_next fun _ _ => decides_peek fun u hu => ?_
  have hends : Rules.endsStatement u = false := by
    rw [Rules.endsStatement, hu]
    cases k with
    | name id => rfl
    | keyword w => rfl
    | _ => cases hk
  rw [hends, if_neg Bool.false_ne_true]
  refine ((decides_severalRule hfuel h (hsymbol _) (by decide)).bind fun _ e he => ?_).congr (by rw [and_true])
  refine .pure fun s hs => ?_
  rw [stmtLine, hs, he s .value rfl]
  rfl

private theorem decides_construct (n : Nat) {function argument : String} (hfunction : isReadable function)
    (hargument : isName argument) :
    (Rules.simpleStatement (ruleAt (n + 4))).Decides ((Line.construct function argument).kinds (.newline :: kinds))
      (.newline :: kinds) True HarmlessInFunction := by
  have hword : (ruleAt (n + 3)).expression.Decides (wordKinds argument (.symbol ")" :: .newline :: kinds))
      (.symbol ")" :: .newline :: kinds) (isReadable argument) (IsWordOf argument) := decides_word _ n argument rfl nofun
  have hinner := (hword.mono fun _ he => he.harmless).congr
    (iff_of_true (by simp [isReadable, hargument]) trivial)
  rw [wordKinds_of_isName hargument] at hinner
  obtain ⟨k, ⟨hword, hstart⟩, hcons, hatom⟩ := decides_atom_word (ruleAt (n + 3)) hfunction
  rw [Line.kinds, hcons, wordKinds_of_isName hargument]
  refine decides_return (Nat.succ_pos _) hword ?_
  refine (Rules.passes_expressionRule (r := ruleAt (n + 3)) rfl (Nat.succ_pos _)).decides ?_ hstart rfl
  refine (decides_primary rfl (hatom _) ?_).congr (and_self_iff (a := True))
  rintro - start e he
  refine (decides_iterate_more (.newline :: kinds) Harmless ?_ ?_).congr (and_self_iff (a := True))
  · exact decides_suffix_plain (Nat.succ_pos _) start he.harmless ⟨by decide, by decide⟩ hinner
  · intro _ e he
    exact decides_suffixes_none _ start (n + 1) rfl he

/-- A line is a statement exactly if its operands are expressions. -/
theorem decides_line (kinds : List TokenKind) (n : Nat) {l : Line} (hl : l.HasNames n) :
    (Rules.simpleStatement (ruleAt (n + 8))).Decides (l.kinds (.newline :: kinds)) (.newline :: kinds) l.isReadable
      HarmlessInFunction := by
  cases l with
  | doc s =>
    refine ((decides_doc (n + 4) hl).mono ?_).congr (iff_of_true trivial rfl)
    rintro stmt ⟨line, line', rfl⟩ s _
    rw [stmtLine, exprLine]
  | allocate type item => exact decides_allocate (n + 1) hl
  | append c => exact decides_append n hl.1 hl.2.1 hl.2.2
  | returns c =>
    have hcall : (ruleAt (n + 8)).expression.Decides (c.kinds (.newline :: kinds)) (.newline :: kinds) c.isReadable
        Harmless := decides_invocation (n + 1) hl.1 hl.2.1 (Nat.lt_succ_of_lt hl.2.2) rfl
    rw [Line.kinds]
    rw [Invocation.kinds_eq hl.1] at hcall ⊢
    exact decides_return (Nat.succ_pos _) rfl hcall
  | construct function argument =>
    exact (decides_construct (n + 4) hl.1 hl.2).congr (iff_of_true trivial rfl)

end Decides

end NavFactory.Source
