import NavFactory.Proofs.Source.Harmless
import NavFactory.Proofs.Source.Parsing

/-!
# Levels of the grammar

An expression that is followed by a comma, a closing bracket, a colon, an equals sign or the end of its line passes
unchanged through all levels of the grammar (`passes_expressionRule`), so that only atoms and what stands behind them
need to be looked at.  A word by itself is an expression exactly if it is a name or the word of a constant
(`decides_word`).
-/

namespace NavFactory.Source

open NavFactory.Source.Parser

/-! ### Levels of the grammar -/

/-- Whether an expression ends in front of a token. -/
def TokenKind.isStop : TokenKind → Bool
  | .symbol s => [",", ")", "]", ":", "="].contains s
  | .newline => true
  | _ => false

/-- Whether an operand may start with a token without more ado. -/
def TokenKind.startsOperand : TokenKind → Bool
  | .keyword s => !(["await", "not", "lambda"].contains s)
  | .symbol s => !(["+", "-", "~"].contains s)
  | _ => true

/-- Whether a rule gives what another one gives, provided that an expression ends behind it, and fails where that one
fails. -/
structure Passes (p q : Parser Expr) (first : TokenKind → Prop) : Prop where
  ok : ∀ t ts e u rest, first t.kind → p (t :: ts) = .ok (e, u :: rest) → u.kind.isStop →
    q (t :: ts) = .ok (e, u :: rest)
  error : ∀ t ts f, first t.kind → p (t :: ts) = .error f → ∃ f', q (t :: ts) = .error f'

theorem Passes.trans {p q r : Parser Expr} {first : TokenKind → Prop} (h : Passes p q first) (h' : Passes q r first) :
    Passes p r first where
  ok t ts e u rest ht hp hu := h'.ok t ts e u rest ht (h.ok t ts e u rest ht hp hu) hu
  error t ts f ht hp := by
    obtain ⟨f', hq⟩ := h.error t ts f ht hp
    exact h'.error t ts f' ht hq

theorem Passes.weaken {p q : Parser Expr} {first first' : TokenKind → Prop} (h : Passes p q first)
    (hfirst : ∀ k, first' k → first k) : Passes p q first' where
  ok t ts e u rest ht := h.ok t ts e u rest (hfirst _ ht)
  error t ts f ht := h.error t ts f (hfirst _ ht)

namespace Rules

variable {r : Rules}

theorem part_full {α : Type} (hr : r.reading = .full) (without : α) (p : Parser (α × Bool)) : r.part without p = p := by
  funext ts
  rw [part, hr]
  rcases p ts with f | ⟨a, rest⟩
  · cases f <;> rfl
  · rfl

theorem parts_full {α : Type} (hr : r.reading = .full) (step : α → Parser (α × Bool)) (first : α) :
    r.parts step first = Parser.iterate step r.fuel first := by
  rw [parts]
  congr 1
  funext a
  exact part_full hr a (step a)

/-- Parts of which there are none. -/
theorem parts_none {α : Type} (hr : r.reading = .full) (hfuel : 0 < r.fuel) {step : α → Parser (α × Bool)} {a : α}
    {ts : List Token} (h : step a ts = .ok ((a, false), ts)) : r.parts step a ts = .ok (a, ts) := by
  obtain ⟨n, hn⟩ : ∃ n, r.fuel = n + 1 := ⟨r.fuel - 1, by omega⟩
  rw [parts_full hr, hn, Parser.iterate, bind_apply, h]
  rfl

private theorem passes_leftChain (hr : r.reading = .full) (hfuel : 0 < r.fuel)
    (operator : String → Option BinaryOperator) {operand : Parser Expr} {first : TokenKind → Prop}
    (hop : ∀ s ∈ [",", ")", "]", ":", "="], operator s = none) : Passes operand (leftChain r operator operand) first where
  ok t ts e u rest _ hp hu := by
    rw [leftChain, bind_apply, here]
    dsimp only
    rw [bind_apply, hp]
    refine parts_none hr hfuel ?_
    rw [bind_apply, peek]
    cases hk : u.kind with
    | symbol s =>
      have hs : operator s = none := hop s (by simpa [TokenKind.isStop, hk] using hu)
      simp [hk, hs, pure_apply]
    | _ => simp [hk, pure_apply]
  error t ts f _ hp := by
    refine ⟨f, ?_⟩
    rw [leftChain, bind_apply, here]
    dsimp only
    rw [bind_apply, hp]

private theorem passes_wordChain (hr : r.reading = .full) (hfuel : 0 < r.fuel) (word : String) {operand : Parser Expr}
    (build : Nat → List Expr → Expr) {first : TokenKind → Prop} :
    Passes operand (wordChain r word operand build) first where
  ok t ts e u rest _ hp hu := by
    have hword : u.kind ≠ .keyword word := by
      intro h
      simp [h, TokenKind.isStop] at hu
    rw [wordChain, bind_apply, here]
    dsimp only
    rw [bind_apply, hp]
    dsimp only
    rw [bind_apply, parts_none hr hfuel]
    · rfl
    · simp [bind_apply, acceptKeyword, accept, hword, pure_apply]
  error t ts f _ hp := by
    refine ⟨f, ?_⟩
    rw [wordChain, bind_apply, here]
    dsimp only
    rw [bind_apply, hp]

private theorem passes_power (hr : r.reading = .full) :
    Passes (primary r) (power r) fun k => k ≠ .keyword "await" where
  ok t ts e u rest ht hp hu := by
    have hstar : u.kind ≠ .symbol "**" := by
      intro h
      simp [h, TokenKind.isStop] at hu
    simp [power, awaitPrimary, bind_apply, here, acceptKeyword, acceptSymbol, accept, ht, hp, part_full hr, hstar,
      pure_apply]
  error t ts f ht hp := by
    refine ⟨f, ?_⟩
    simp [power, awaitPrimary, bind_apply, here, acceptKeyword, accept, ht, hp]

private theorem passes_factorRule :
    Passes (power r) (factorRule r) fun k => ∀ s, k = .symbol s → signOperator s = none where
  ok t ts e u rest ht hp hu := by
    rw [factorRule, bind_apply, peek]
    dsimp only
    cases hk : t.kind with
    | symbol s => simp only [ht s hk, hp]
    | _ => exact hp
  error t ts f ht hp := by
    refine ⟨f, ?_⟩
    rw [factorRule, bind_apply, peek]
    dsimp only
    cases hk : t.kind with
    | symbol s => simp only [ht s hk, hp]
    | _ => exact hp

private theorem passes_bitwiseOr (hr : r.reading = .full) (hfuel : 0 < r.fuel) {first : TokenKind → Prop} :
    Passes (factorRule r) (bitwiseOr r) first := by
  have hproduct : Passes (factorRule r) (leftChain r productOperator (factorRule r)) first :=
    passes_leftChain hr hfuel productOperator (by decide)
  have hsum := hproduct.trans (passes_leftChain hr hfuel sumOperator (by decide))
  have hshift := hsum.trans (passes_leftChain hr hfuel shiftOperator (by decide))
  have hand := hshift.trans (passes_leftChain hr hfuel (fun s => if s == "&" then some .bitAnd else none) (by decide))
  have hxor := hand.trans (passes_leftChain hr hfuel (fun s => if s == "^" then some .bitXor else none) (by decide))
  exact hxor.trans (passes_leftChain hr hfuel _ (by decide))

private theorem comparison_none {u : Token} {rest : List Token} (hu : u.kind.isStop) :
    comparison (u :: rest) = .ok (none, u :: rest) := by
  rw [comparison, bind_apply, peek]
  cases hk : u.kind with
  | symbol s =>
    have hs : s = "," ∨ s = ")" ∨ s = "]" ∨ s = ":" ∨ s = "=" := by simpa [TokenKind.isStop, hk] using hu
    rcases hs with rfl | rfl | rfl | rfl | rfl <;> simp [hk, pure_apply]
  | keyword s => simp [hk, TokenKind.isStop] at hu
  | _ => simp [hk, pure_apply]

private theorem passes_comparisonRule (hr : r.reading = .full) (hfuel : 0 < r.fuel) {first : TokenKind → Prop} :
    Passes (bitwiseOr r) (comparisonRule r) first where
  ok t ts e u rest _ hp hu := by
    rw [comparisonRule, bind_apply, here]
    dsimp only
    rw [bind_apply, hp]
    dsimp only
    rw [bind_apply, parts_none hr hfuel]
    · rfl
    · rw [bind_apply, comparison_none hu]
      rfl
  error t ts f _ hp := by
    refine ⟨f, ?_⟩
    rw [comparisonRule, bind_apply, here]
    dsimp only
    rw [bind_apply, hp]

private theorem passes_inversionRule :
    Passes (comparisonRule r) (inversionRule r) fun k => k ≠ .keyword "not" where
  ok t ts e u rest ht hp hu := by
    simp [inversionRule, bind_apply, here, acceptKeyword, accept, ht, hp]
  error t ts f ht hp := by
    refine ⟨f, ?_⟩
    simp [inversionRule, bind_apply, here, acceptKeyword, accept, ht, hp]

private theorem passes_disjunctionRule (hr : r.reading = .full) (hfuel : 0 < r.fuel) {first : TokenKind → Prop} :
    Passes (inversionRule r) (disjunctionRule r) first :=
  (passes_wordChain hr hfuel "and" .conjunction).trans (passes_wordChain hr hfuel "or" .disjunction)

private theorem passes_choice (hr : r.reading = .full) {first : TokenKind → Prop} :
    Passes (disjunctionRule r) (choice r) first where
  ok t ts e u rest _ hp hu := by
    have hif : u.kind ≠ .keyword "if" := by
      intro h
      simp [h, TokenKind.isStop] at hu
    simp [choice, bind_apply, here, hp, part_full hr, acceptKeyword, accept, hif, pure_apply]
  error t ts f _ hp := by
    refine ⟨f, ?_⟩
    simp [choice, bind_apply, here, hp]

private theorem missesComma_of_isStop {start : List Token} {e : Expr} {u : Token} {rest : List Token}
    (hu : u.kind.isStop) : missesComma r start e (u :: rest) = .ok false := by
  have hstart : startsExpression u = false := by
    unfold startsExpression
    cases hk : u.kind with
    | symbol s =>
      have hs : s = "," ∨ s = ")" ∨ s = "]" ∨ s = ":" ∨ s = "=" := by simpa [TokenKind.isStop, hk] using hu
      rcases hs with rfl | rfl | rfl | rfl | rfl <;> rfl
    | newline => rfl
    | _ => simp [hk, TokenKind.isStop] at hu
  simp [missesComma, hstart]

private theorem passes_completeChoice {first : TokenKind → Prop} : Passes (choice r) (completeChoice r) first where
  ok t ts e u rest _ hp hu := by
    simp [completeChoice, hp, missesComma_of_isStop hu, bind, Except.bind]
  error t ts f _ hp := by
    cases f with
    | unexpected line left =>
      simp only [completeChoice, hp]
      rcases r.parse .shortened .disjunction (t :: ts) with f' | ⟨e, rest⟩
      · exact ⟨_, rfl⟩
      · dsimp only
        rcases missesComma r (t :: ts) e rest with f' | b
        · exact ⟨_, rfl⟩
        · simp only [bind, Except.bind]
          split
          · exact ⟨_, rfl⟩
          · exact ⟨_, rfl⟩
    | mistake line left => exact ⟨.mistake line left, by simp only [completeChoice, hp]⟩
    | exhausted => exact ⟨.exhausted, by simp only [completeChoice, hp]⟩

private theorem passes_expressionRule_choice (hr : r.reading = .full) :
    Passes (completeChoice r) (expressionRule r) fun k => k ≠ .keyword "lambda" where
  ok t ts e u rest ht hp hu := by
    simp [expressionRule, bind_apply, here, acceptKeyword, accept, ht, hr, hp]
  error t ts f ht hp := by
    refine ⟨f, ?_⟩
    simp [expressionRule, bind_apply, here, acceptKeyword, accept, ht, hr, hp]

theorem passes_above_inversion (hr : r.reading = .full) (hfuel : 0 < r.fuel) :
    Passes (inversionRule r) (expressionRule r) fun k => k ≠ .keyword "lambda" :=
  ((passes_disjunctionRule hr hfuel).trans ((passes_choice hr).trans passes_completeChoice)).trans
    (passes_expressionRule_choice hr)

theorem passes_inversionRule_factor (hr : r.reading = .full) (hfuel : 0 < r.fuel) :
    Passes (factorRule r) (inversionRule r) fun k => k ≠ .keyword "not" :=
  ((passes_bitwiseOr hr hfuel).trans (passes_comparisonRule hr hfuel)).trans passes_inversionRule

/-- From signs up, only the words `not` and `lambda` make a difference. -/
theorem passes_above_factor (hr : r.reading = .full) (hfuel : 0 < r.fuel) :
    Passes (factorRule r) (expressionRule r) fun k => k ≠ .keyword "not" ∧ k ≠ .keyword "lambda" :=
  ((passes_inversionRule_factor hr hfuel).weaken fun _ hk => hk.1).trans
    ((passes_above_inversion hr hfuel).weaken fun _ hk => hk.2)

private theorem signOperator_of_startsOperand {k : TokenKind} (hk : k.startsOperand) (s : String) (h : k = .symbol s) :
    signOperator s = none := by
  subst h
  have hs : s ≠ "+" ∧ s ≠ "-" ∧ s ≠ "~" := by simpa [TokenKind.startsOperand] using hk
  simp [signOperator, hs]

theorem ne_of_startsOperand {k : TokenKind} (hk : k.startsOperand) :
    k ≠ .keyword "await" ∧ k ≠ .keyword "not" ∧ k ≠ .keyword "lambda" := by
  refine ⟨?_, ?_, ?_⟩ <;>
    · rintro rfl
      cases hk

theorem passes_factorRule_primary (hr : r.reading = .full) :
    Passes (primary r) (factorRule r) (TokenKind.startsOperand · = true) :=
  ((passes_power hr).weaken fun _ hk => (ne_of_startsOperand hk).1).trans
    (passes_factorRule.weaken fun _ hk => signOperator_of_startsOperand hk)

/-- What is read as an atom with what stands behind it is an expression. -/
theorem passes_expressionRule (hr : r.reading = .full) (hfuel : 0 < r.fuel) :
    Passes (primary r) (expressionRule r) (TokenKind.startsOperand · = true) :=
  (passes_factorRule_primary hr).trans ((passes_above_factor hr hfuel).weaken fun _ hk => (ne_of_startsOperand hk).2)

end Rules

/-- A rule decides what the rule whose results it passes on decides. -/
theorem Passes.decides {p q : Parser Expr} {first : TokenKind → Prop} (h : Passes p q first) {k stop : TokenKind}
    {kinds rest : List TokenKind} {good : Prop} {Q : Expr → Prop}
    (hp : p.Decides (k :: kinds) (stop :: rest) good Q) (hk : first k) (hstop : stop.isStop) :
    q.Decides (k :: kinds) (stop :: rest) good Q where
  reads hgood ts hts := by
    obtain ⟨e, ts', he, hts', hq⟩ := hp.reads hgood ts hts
    obtain ⟨t, tail, rfl, rfl, -⟩ := kindsOf_eq_cons hts
    obtain ⟨u, tail', rfl, rfl, -⟩ := kindsOf_eq_cons hts'
    exact ⟨e, _, h.ok t tail e u tail' hk he hstop, hts', hq⟩
  refuses hbad ts hts := by
    obtain ⟨f, hf⟩ := hp.refuses hbad ts hts
    obtain ⟨t, tail, rfl, rfl, -⟩ := kindsOf_eq_cons hts
    exact h.error t tail f hk hf

/-! ### Rules for a nesting depth -/

/-- The rules for texts with so many levels of nesting. -/
def ruleAt (k : Nat) : Rules := ⟨k, .full, parseEntry k⟩

/-! ### Words -/

/-- The words that are constants. -/
def constantWords : List String := ["None", "True", "False"]

/-- Whether a word is an expression by itself. -/
def isReadable (w : String) : Bool := isName w || constantWords.contains w

/-- Whether a token is a word. -/
def TokenKind.isWord : TokenKind → Bool
  | .name _ => true
  | .keyword _ => true
  | _ => false

/-- What a word is read as. -/
structure IsWordOf (w : String) (e : Expr) : Prop where
  harmless : Harmless e
  name : isName w → ∃ line, e = .name line (Text.composed w)

theorem not_isName_of_mem_constantWords {w : String} (hw : w ∈ constantWords) : isName w = false := by
  have hall : ∀ w ∈ constantWords, isName w = false := by decide
  exact hall w hw

theorem wordKinds_of_isReserved {w : String} {kinds : List TokenKind} (hw : Text.isReserved w) :
    wordKinds w kinds = .keyword w :: kinds := by
  simp [wordKinds, wordKind, hw]

/-- A word is one token that is no symbol, or malformed. -/
theorem wordKinds_cases (w : String) :
    (∃ k, (∀ s, k ≠ .symbol s) ∧ ∀ kinds, wordKinds w kinds = k :: kinds) ∨
      (isReadable w = false ∧ ∀ kinds, wordKinds w kinds = []) := by
  by_cases hname : isName w
  · exact Or.inl ⟨.name (Text.composed w), fun _ => nofun, fun _ => wordKinds_of_isName hname⟩
  rw [Bool.not_eq_true] at hname
  by_cases hreserved : Text.isReserved w
  · exact Or.inl ⟨.keyword w, fun _ => nofun, fun _ => wordKinds_of_isReserved hreserved⟩
  refine Or.inr ⟨?_, fun kinds => ?_⟩
  · have hconstant : w ∉ constantWords := by
      intro hw
      have hall : ∀ w ∈ constantWords, Text.isReserved w := by decide
      exact hreserved (hall w hw)
    simp [isReadable, hname, hconstant]
  · rcases wordKinds_of_not_isName kinds hname with ⟨h, -⟩ | ⟨-, h⟩
    · exact absurd h hreserved
    · exact h

variable {r : Rules} {kinds : List TokenKind}

private theorem decides_atom_constant (r : Rules) {w : String} (hw : w ∈ constantWords) :
    (Rules.atom r).Decides (.keyword w :: kinds) kinds True (IsWordOf w) := by
  have hname := not_isName_of_mem_constantWords hw
  refine decides_peek fun t ht => ?_
  rw [constantWords] at hw
  simp only [List.mem_cons, List.not_mem_nil, or_false] at hw
  rcases hw with rfl | rfl | rfl
  all_goals
    simp only [ht]
    refine decides_next fun _ _ => .pure ⟨harmless_constant _ _, fun h => ?_⟩
    rw [hname] at h
    cases h

theorem decides_atom_name (r : Rules) (id : String) :
    (Rules.atom r).Decides (.name id :: kinds) kinds True fun e => ∃ line, e = .name line id := by
  refine decides_peek fun t ht => ?_
  simp only [ht]
  exact decides_next fun _ _ => .pure ⟨_, rfl⟩

private theorem atom_keyword {w : String} (hw : w ∉ constantWords) {t : Token} (ht : t.kind = .keyword w)
    (ts : List Token) : ∃ f, Rules.atom r (t :: ts) = .error f := by
  have hne : w ≠ "None" ∧ w ≠ "True" ∧ w ≠ "False" := by simpa [constantWords] using hw
  refine ⟨.unexpected t.line (ts.length + 1), ?_⟩
  simp [Rules.atom, bind_apply, peek, ht, hne, fail]

/-- No expression starts where one ends. -/
theorem primary_stop {t : Token} (ht : t.kind.isStop) (ts : List Token) : ∃ f, Rules.primary r (t :: ts) = .error f := by
  refine ⟨.unexpected t.line (ts.length + 1), ?_⟩
  cases hk : t.kind with
  | symbol s =>
    have hs : s = "," ∨ s = ")" ∨ s = "]" ∨ s = ":" ∨ s = "=" := by simpa [TokenKind.isStop, hk] using ht
    rcases hs with rfl | rfl | rfl | rfl | rfl <;> simp [Rules.primary, Rules.atom, bind_apply, here, peek, hk, fail]
  | newline => simp [Rules.primary, Rules.atom, bind_apply, here, peek, hk, fail]
  | _ => simp [hk, TokenKind.isStop] at ht

theorem decides_suffix_none (r : Rules) (start : Nat) (e : Expr) {stop : TokenKind} (hstop : stop.isStop) :
    (Rules.suffix r start e).Decides (stop :: kinds) (stop :: kinds) True (· = (e, false)) := by
  refine decides_peek fun t ht => ?_
  cases stop with
  | symbol s =>
    have hs : s = "," ∨ s = ")" ∨ s = "]" ∨ s = ":" ∨ s = "=" := by simpa [TokenKind.isStop] using hstop
    rcases hs with rfl | rfl | rfl | rfl | rfl <;>
      · simp only [ht]
        exact .pure rfl
  | newline =>
    simp only [ht]
    exact .pure rfl
  | _ => simp [TokenKind.isStop] at hstop

/-- An atom with what stands behind it. -/
theorem decides_primary (hr : r.reading = .full) {k : TokenKind} {kinds' rest : List TokenKind} {good good' : Prop}
    {Q R : Expr → Prop} (hatom : (Rules.atom r).Decides (k :: kinds) kinds' good Q)
    (hsuffix : good → ∀ start e, Q e → (iterate (Rules.suffix r start) r.fuel e).Decides kinds' rest good' R) :
    (Rules.primary r).Decides (k :: kinds) rest (good ∧ good') R := by
  refine decides_here fun start => hatom.bind fun hgood e he => ?_
  rw [Rules.parts_full hr]
  exact hsuffix hgood start e he

/-- Nothing stands behind an expression that ends. -/
theorem decides_suffixes_none (r : Rules) (start n : Nat) {e : Expr} {Q : Expr → Prop} {stop : TokenKind}
    (hstop : stop.isStop) (he : Q e) :
    (iterate (Rules.suffix r start) (n + 1) e).Decides (stop :: kinds) (stop :: kinds) True Q := by
  refine decides_iterate_stop ((decides_suffix_none r start e hstop).mono ?_)
  rintro a rfl
  exact ⟨rfl, he⟩

/-- An atom by itself. -/
theorem decides_primary_atom (hr : r.reading = .full) (hfuel : 0 < r.fuel) {k stop : TokenKind}
    {kinds rest : List TokenKind} {good : Prop} {Q : Expr → Prop} (hstop : stop.isStop)
    (h : (Rules.atom r).Decides (k :: kinds) (stop :: rest) good Q) :
    (Rules.primary r).Decides (k :: kinds) (stop :: rest) good Q := by
  obtain ⟨n, hn⟩ : ∃ n, r.fuel = n + 1 := ⟨r.fuel - 1, by omega⟩
  refine (decides_primary hr h fun _ start e he => ?_).congr (by rw [and_true])
  rw [hn]
  exact decides_suffixes_none r start n hstop he

section Refused

variable (n : Nat) {t u : Token} {ts : List Token}

theorem startsOperand_of_isStop {k : TokenKind} (hk : k.isStop) : k.startsOperand := by
  cases k with
  | symbol s =>
    have hs : s = "," ∨ s = ")" ∨ s = "]" ∨ s = ":" ∨ s = "=" := by simpa [TokenKind.isStop] using hk
    rcases hs with rfl | rfl | rfl | rfl | rfl <;> decide
  | newline => rfl
  | _ => simp [TokenKind.isStop] at hk

/-- No expression starts where one ends. -/
private theorem expressionRule_stop (hu : u.kind.isStop) :
    ∃ f, Rules.expressionRule (ruleAt (n + 1)) (u :: ts) = .error f := by
  obtain ⟨f, hf⟩ := primary_stop (r := ruleAt (n + 1)) hu ts
  exact (Rules.passes_expressionRule rfl (Nat.succ_pos n)).error u ts f (startsOperand_of_isStop hu) hf

/-- The word `not` with nothing behind it. -/
private theorem expressionRule_not (ht : t.kind = .keyword "not") (hu : u.kind.isStop) :
    ∃ f, Rules.expressionRule (ruleAt (n + 2)) (t :: u :: ts) = .error f := by
  have hfirst := startsOperand_of_isStop hu
  obtain ⟨f, hf⟩ := primary_stop (r := ruleAt (n + 1)) hu ts
  obtain ⟨f', hf'⟩ := (Rules.passes_factorRule_primary rfl).error u ts f hfirst hf
  obtain ⟨f'', hf''⟩ := (Rules.passes_inversionRule_factor (r := ruleAt (n + 1)) rfl (Nat.succ_pos n)).error u ts f'
    (Rules.ne_of_startsOperand hfirst).2.1 hf'
  have hinner : (ruleAt (n + 2)).inversion (u :: ts) = .error f'' := hf''
  refine (Rules.passes_above_inversion (r := ruleAt (n + 2)) rfl (Nat.succ_pos _)).error t (u :: ts) f'' ?_ ?_
  · rw [ht]
    decide
  · simp [Rules.inversionRule, bind_apply, here, acceptKeyword, accept, ht, hinner]

/-- The word `await` with nothing behind it. -/
private theorem expressionRule_await (ht : t.kind = .keyword "await") (hu : u.kind.isStop) :
    ∃ f, Rules.expressionRule (ruleAt (n + 2)) (t :: u :: ts) = .error f := by
  obtain ⟨f, hf⟩ := primary_stop (r := ruleAt (n + 2)) hu ts
  refine (Rules.passes_above_factor (r := ruleAt (n + 2)) rfl (Nat.succ_pos _)).error t (u :: ts) f ?_ ?_
  · rw [ht]
    decide
  · simp [Rules.factorRule, Rules.power, Rules.awaitPrimary, bind_apply, peek, here, acceptKeyword, accept, ht, hf]

private theorem parameter_stop {annotated : Bool} {ends : Token → Bool} (hu : u.kind.isStop) (p : Rules.ParameterList) :
    ∃ f, Rules.parameter r annotated ends p (u :: ts) = .error f := by
  refine ⟨.unexpected u.line (ts.length + 1), ?_⟩
  cases hk : u.kind with
  | symbol s =>
    have hs : s = "," ∨ s = ")" ∨ s = "]" ∨ s = ":" ∨ s = "=" := by simpa [TokenKind.isStop, hk] using hu
    rcases hs with rfl | rfl | rfl | rfl | rfl <;>
      · cases hp : p.keywords.isSome <;>
          simp [Rules.parameter, Rules.plainParameter, Rules.parameterName, bind_apply, here, seesSymbol, sees,
            acceptSymbol, accept, name, fail, hk, hp]
  | newline =>
    cases hp : p.keywords.isSome <;>
      simp [Rules.parameter, Rules.plainParameter, Rules.parameterName, bind_apply, here, seesSymbol, sees,
        acceptSymbol, accept, name, fail,
        hk, hp]
  | _ => simp [hk, TokenKind.isStop] at hu

/-- The word `lambda` with nothing behind it, or with a colon at the end of a line. -/
private theorem expressionRule_lambda (ht : t.kind = .keyword "lambda") (hu : u.kind.isStop)
    (hcolon : u.kind = .symbol ":" → ∃ v rest, ts = v :: rest ∧ v.kind = .newline) :
    ∃ f, Rules.expressionRule (ruleAt (n + 2)) (t :: u :: ts) = .error f := by
  by_cases hc : u.kind = .symbol ":"
  · obtain ⟨v, rest, rfl, hv⟩ := hcolon hc
    obtain ⟨f, hf⟩ : ∃ f, Rules.expressionRule (ruleAt (n + 1)) (v :: rest) = .error f :=
      expressionRule_stop n (by rw [hv]; rfl)
    have hbody : (ruleAt (n + 2)).expression (v :: rest) = .error f := hf
    refine ⟨f, ?_⟩
    simp [Rules.expressionRule, Rules.parameters, bind_apply, here, peek, acceptKeyword, accept, symbol, expect,
      Rules.closes, ht, hc, pure_apply, hbody]
  · obtain ⟨f, hf⟩ : ∃ f, Rules.parameter (ruleAt (n + 2)) false (Rules.closes ":") {} (u :: ts) = .error f :=
      parameter_stop hu {}
    refine ⟨f, ?_⟩
    have hiterate : (ruleAt (n + 2)).fuel = n + 1 + 1 := rfl
    simp [Rules.expressionRule, Rules.parameters, bind_apply, here, peek, acceptKeyword, accept, Rules.closes, ht, hc,
      hiterate, iterate, hf]

/-- A word that is no expression. -/
private theorem expressionRule_refused {w : String} (hw : isReadable w = false) {kinds : List TokenKind} {stop : TokenKind}
    (hstop : stop.isStop) (hcolon : stop = .symbol ":" → ∃ rest, kinds = .newline :: rest)
    (hts : kindsOf ts = wordKinds w (stop :: kinds)) :
    ∃ f, Rules.expressionRule (ruleAt (n + 2)) ts = .error f := by
  simp only [isReadable, Bool.or_eq_false_iff, List.contains_eq_mem, decide_eq_false_iff_not] at hw
  rcases wordKinds_of_not_isName (stop :: kinds) hw.1 with ⟨-, h⟩ | ⟨-, h⟩
  · rw [h] at hts
    obtain ⟨t, ts₁, rfl, ht, hts₁⟩ := kindsOf_eq_cons hts
    obtain ⟨u, ts₂, rfl, rfl, hts₂⟩ := kindsOf_eq_cons hts₁
    by_cases hnot : w = "not"
    · exact expressionRule_not n (by rw [ht, hnot]) hstop
    by_cases hawait : w = "await"
    · exact expressionRule_await n (by rw [ht, hawait]) hstop
    by_cases hlambda : w = "lambda"
    · refine expressionRule_lambda n (by rw [ht, hlambda]) hstop fun hu => ?_
      obtain ⟨rest, hrest⟩ := hcolon hu
      obtain ⟨v, ts₃, rfl, hv, -⟩ := kindsOf_eq_cons (hts₂.trans hrest)
      exact ⟨v, ts₃, rfl, hv⟩
    obtain ⟨f, hf⟩ := atom_keyword (r := ruleAt (n + 2)) hw.2 ht (u :: ts₂)
    refine (Rules.passes_expressionRule (r := ruleAt (n + 2)) rfl (Nat.succ_pos _)).error t (u :: ts₂) f ?_ ?_
    · rw [ht]
      simp [TokenKind.startsOperand, hnot, hawait, hlambda]
    · simp [Rules.primary, bind_apply, here, hf]
  · rw [h] at hts
    rw [kindsOf_eq_nil hts]
    exact ⟨.exhausted, rfl⟩

end Refused

/-- A name or the word of a constant is one token, which is an atom. -/
theorem decides_atom_word (r : Rules) {w : String} (hw : isReadable w) :
    ∃ k : TokenKind, (k.isWord ∧ k.startsOperand) ∧ (∀ kinds, wordKinds w kinds = k :: kinds) ∧
      ∀ kinds, (Rules.atom r).Decides (k :: kinds) kinds True (IsWordOf w) := by
  simp only [isReadable, Bool.or_eq_true, List.contains_eq_mem, decide_eq_true_eq] at hw
  by_cases hname : isName w
  · refine ⟨_, ⟨rfl, rfl⟩, fun _ => wordKinds_of_isName hname, fun _ => (decides_atom_name _ _).mono ?_⟩
    rintro e ⟨line, rfl⟩
    exact ⟨harmless_name _ _, fun _ => ⟨line, rfl⟩⟩
  · have hconstant : w ∈ constantWords := hw.resolve_left hname
    have hall : ∀ w ∈ constantWords, Text.isReserved w ∧ (TokenKind.keyword w).startsOperand := by decide
    obtain ⟨hreserved, hstart⟩ := hall w hconstant
    exact ⟨_, ⟨rfl, hstart⟩, fun _ => wordKinds_of_isReserved hreserved, fun _ => decides_atom_constant _ hconstant⟩

/-- A word by itself is an expression exactly if it is a name or the word of a constant. -/
theorem decides_word (kinds : List TokenKind) (n : Nat) (w : String) {stop : TokenKind} (hstop : stop.isStop)
    (hcolon : stop = .symbol ":" → ∃ rest, kinds = .newline :: rest) :
    (Rules.expressionRule (ruleAt (n + 2))).Decides (wordKinds w (stop :: kinds)) (stop :: kinds) (isReadable w)
      (IsWordOf w) := by
  have hpasses := Rules.passes_expressionRule (r := ruleAt (n + 2)) rfl (Nat.succ_pos _)
  cases hw : isReadable w with
  | false =>
    refine (Decides.refused fun ts hts => ?_).congr (by simp)
    exact expressionRule_refused n hw hstop hcolon hts
  | true =>
    refine Decides.congr ?_ (show True ↔ true = true by simp)
    obtain ⟨k, ⟨-, hstart⟩, hcons, hatom⟩ := decides_atom_word (ruleAt (n + 2)) hw
    rw [hcons]
    exact hpasses.decides (decides_primary_atom rfl (Nat.succ_pos _) hstop (hatom _)) hstart hstop

end NavFactory.Source
