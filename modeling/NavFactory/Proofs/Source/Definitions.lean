import NavFactory.Proofs.Source.Formals
import NavFactory.Proofs.Source.Lines

/-!
# Methods and classes

Static methods and the class that holds them: how they are cut into tokens, when they are read, and which rules they
violate (`decides_definition`, `decides_class`).
-/

namespace NavFactory.Source

open NavFactory.Source.Parser

/-- A static method. -/
structure Definition where
  name : String
  formals : Formals
  returns : String
  body : List Line

namespace Definition

/-- The kinds of tokens from the body of a method on. -/
def suite (d : Definition) (tail : List TokenKind) : List TokenKind :=
  .symbol ":" :: .newline :: .indent :: d.body.foldr (fun l kinds => l.kinds (.newline :: kinds)) (.dedent :: tail)

/-- The kinds of tokens from the name of a method on. -/
def heading (d : Definition) (tail : List TokenKind) : List TokenKind :=
  wordKinds d.name (.symbol "(" :: d.formals.kinds (.symbol ")" :: .symbol "->" :: wordKinds d.returns (d.suite tail)))

/-- The kinds of tokens from a method on. -/
def kinds (d : Definition) (tail : List TokenKind) : List TokenKind :=
  .symbol "@" :: .name "staticmethod" :: .newline :: .keyword "def" :: d.heading tail

/-- Whether the words of a method are names where no other word may stand. -/
structure HasNames (n : Nat) (d : Definition) : Prop where
  formals : ∀ f ∈ d.formals.all, f.hint.IsFit
  parts : d.formals.parts.length < n
  body : Source.isReadable d.returns → ∀ l ∈ d.body, l.HasNames n
  length : d.body.length < n

/-- Whether a method is read. -/
def isReadable (d : Definition) : Bool :=
  isName d.name && d.formals.isReadable && Source.isReadable d.returns && d.body.all Line.isReadable

/-- Whether the names that a method binds may be bound in a class. -/
structure IsPlaced (className : String) (d : Definition) : Prop where
  allowed : isForbidden (Text.composed d.name) = false
  allowedFormals : ∀ f ∈ d.formals.all, isForbidden (Text.composed f.name) = false
  nodup : (d.formals.all.map fun f =>
    (Surroundings.classBody {} (Text.composed className)).privateName (Text.composed f.name)).Nodup

end Definition

/-- A class of static methods. -/
structure ClassForm where
  name : String
  documentation : String
  methods : List Definition

namespace ClassForm

/-- The kinds of tokens from the first method of a class on. -/
def suite (c : ClassForm) (tail : List TokenKind) : List TokenKind := c.methods.foldr Definition.kinds (.dedent :: tail)

/-- The kinds of tokens from a class on. -/
def kinds (c : ClassForm) (tail : List TokenKind) : List TokenKind :=
  .keyword "class" :: wordKinds c.name (.symbol ":" :: .newline :: .indent ::
    (Line.doc c.documentation).kinds (.newline :: c.suite tail))

/-- Whether the words of a class are names where no other word may stand. -/
structure HasNames (n : Nat) (c : ClassForm) : Prop where
  documentation : '\\' ∉ c.documentation.toList
  methods : ∀ d ∈ c.methods, d.HasNames n
  length : c.methods.length < n

/-- Whether a class is read. -/
def isReadable (c : ClassForm) : Bool := isName c.name && c.methods.all Definition.isReadable

/-- Whether the names that a class and its methods bind may be bound. -/
structure IsPlaced (c : ClassForm) : Prop where
  allowed : isForbidden (Text.composed c.name) = false
  methods : ∀ d ∈ c.methods, d.IsPlaced c.name

/-- What a class is read as: it violates no rule in a module exactly if the names that it binds may be bound. -/
def IsRead (c : ClassForm) (stmt : Stmt) : Prop :=
  (∃ line body, stmt = .classDef line (Text.composed c.name) [] [] body []) ∧ (stmtLine {} stmt = none ↔ c.IsPlaced)

end ClassForm

/-! ### Blocks -/

section Decides

variable {r : Rules} {kinds rest : List TokenKind}

/-- A statement by itself on its line. -/
theorem decides_simpleStatements (hfuel : 0 < r.fuel) {good : Prop} {Q : Stmt → Prop}
    (h : (Rules.simpleStatement r).Decides kinds (.newline :: rest) good Q) :
    (Rules.simpleStatements r).Decides kinds rest good fun ss => ∃ s, Q s ∧ ss = [s] := by
  refine ((decides_separated_one hfuel h (by decide)).bind fun _ x hx => ?_).congr (by rw [and_true])
  obtain ⟨s, hs, rfl⟩ := hx
  exact (decides_expect.bind fun _ _ _ => .pure ⟨s, hs, rfl⟩).congr (and_self_iff (a := True))

/-- Statements, one after the other, in front of others. -/
theorem decides_run {γ : Type} {ends : TokenKind} {item : γ → List TokenKind → List TokenKind} {good : γ → Prop}
    {Q : γ → Stmt → Prop} {good' : Prop} {R : List Stmt → Prop} {kinds' : List TokenKind} {n : Nat} {cs : List γ}
    (hitem : ∀ c ∈ cs, ∀ tail, (Rules.statement r).Decides (item c tail) tail (good c) fun ss => ∃ s, Q c s ∧ ss = [s])
    (hstart : ∀ c ∈ cs, ∀ tail, ∃ k tail', item c tail = k :: tail' ∧ k ≠ ends) {found : List Stmt}
    (hmore : (∀ c ∈ cs, good c) → ∀ ss, List.Forall₂ Q cs ss →
      (iterate (fun found => do
        if ← sees ends then pure (found, false)
        else do
          let more ← r.statement
          pure (more.reverse ++ found, true)) n (ss.reverse ++ found)).Decides kinds' rest good' R) :
    (iterate (fun found => do
      if ← sees ends then pure (found, false)
      else do
        let more ← r.statement
        pure (more.reverse ++ found, true)) (n + cs.length) found).Decides
          (cs.foldr item kinds') rest ((∀ c ∈ cs, good c) ∧ good') R := by
  induction cs generalizing found with
  | nil => exact (hmore nofun [] .nil).congr (by simp)
  | cons c cs ih =>
    obtain ⟨k, tail, hcons, hk⟩ := hstart c List.mem_cons_self (cs.foldr item kinds')
    have hc := hitem c List.mem_cons_self (cs.foldr item kinds')
    rw [List.foldr_cons, List.forall_mem_cons, and_assoc]
    rw [hcons] at hc ⊢
    refine decides_iterate_more (cs.foldr item kinds') (fun ss => ∃ s, Q c s ∧ ss = s :: found) ?_ ?_
    · refine decides_sees_ne hk ((hc.bind fun _ ss hss => ?_).congr (by rw [and_true]))
      obtain ⟨s, hs, rfl⟩ := hss
      exact .pure ⟨rfl, s, hs, rfl⟩
    · rintro hgood _ ⟨s, hs, rfl⟩
      refine ih (fun d hd => hitem d (List.mem_cons_of_mem c hd)) (fun d hd => hstart d (List.mem_cons_of_mem c hd)) ?_
      intro hall ss hss
      have hfound := hmore (List.forall_mem_cons.2 ⟨hgood, hall⟩) (s :: ss) (.cons hs hss)
      rwa [List.reverse_cons, List.append_assoc] at hfound

/-- The end of a run of statements. -/
theorem decides_run_end {ends : TokenKind} {n : Nat} {found : List Stmt} :
    (iterate (fun found => do
      if ← sees ends then pure (found, false)
      else do
        let more ← r.statement
        pure (more.reverse ++ found, true)) (n + 1) found).Decides (ends :: kinds) (ends :: kinds) True (· = found) := by
  refine decides_iterate_stop (decides_sees ?_)
  rw [beq_self_eq_true, if_pos rfl]
  exact .pure ⟨rfl, rfl⟩

/-- Whether a token starts a statement without a block. -/
def startsSimple : TokenKind → Bool
  | .string _ => true
  | .name s => s != "match"
  | .keyword s => s == "return" || s == "from"
  | _ => false

theorem decides_statement_simple {k : TokenKind} (hk : startsSimple k) {good : Prop} {Q : List Stmt → Prop}
    (h : (Rules.simpleStatements r).Decides (k :: kinds) rest good Q) :
    (Rules.statement r).Decides (k :: kinds) rest good Q := by
  refine decides_peek fun t ht => ?_
  cases k with
  | string literal =>
    simp only [ht]
    exact h
  | name s =>
    have hs : s ≠ "match" := by simpa [startsSimple] using hk
    rw [ht]
    split
    case h_10 heq =>
      cases heq
      exact absurd rfl hs
    case h_11 => exact h
    all_goals
      rename_i heq
      cases heq
  | keyword s =>
    have hs : s = "return" ∨ s = "from" := by simpa [startsSimple] using hk
    rcases hs with rfl | rfl
    all_goals
      simp only [ht]
      exact h
  | _ => cases hk

/-- The statements of a block. -/
private theorem decides_colonBlock {n : Nat} {good : Prop} {Q : List Stmt → Prop}
    (h : (Rules.statements (ruleAt n) .dedent).Decides kinds (.dedent :: rest) good Q) :
    (Rules.colonBlock (ruleAt (n + 1))).Decides (.symbol ":" :: .newline :: .indent :: kinds) rest good Q := by
  have hblock : (ruleAt (n + 1)).block.Decides (.newline :: .indent :: kinds) rest good Q := by
    refine decides_accept ?_
    have hindent : Rules.indentation.Decides (.indent :: kinds) kinds True fun _ => True := by
      refine decides_sees ?_
      rw [beq_self_eq_true, if_pos rfl]
      exact decides_expect
    refine (hindent.bind fun _ _ _ => h.bind fun _ ss hss => ?_).congr (by rw [true_and, and_true])
    exact (decides_expect.bind fun _ _ _ => .pure hss).congr (and_self_iff (a := True))
  exact (decides_expect.bind fun _ _ _ => hblock).congr (by rw [true_and])

/-- The first token of a line. -/
private theorem exists_head_line {l : Line} {n : Nat} (hl : l.HasNames n) (tail : List TokenKind) :
    ∃ k kinds, l.kinds tail = k :: kinds ∧ startsSimple k := by
  cases l with
  | doc s => exact ⟨_, _, rfl, rfl⟩
  | allocate type item => exact ⟨_, _, rfl, by decide⟩
  | append c => exact ⟨_, _, rfl, by decide⟩
  | returns c => exact ⟨_, _, rfl, rfl⟩
  | construct function argument => exact ⟨_, _, rfl, rfl⟩

/-- The body of a method. -/
private theorem decides_body (n : Nat) {ls : List Line} (hls : ∀ l ∈ ls, l.HasNames n) (hlength : ls.length < n) :
    (Rules.colonBlock (ruleAt (n + 9))).Decides
      (.symbol ":" :: .newline :: .indent :: ls.foldr (fun l kinds => l.kinds (.newline :: kinds)) (.dedent :: kinds)) kinds
      (∀ l ∈ ls, l.isReadable) fun ss => ∀ s ∈ ss, HarmlessInFunction s := by
  have hitem : ∀ l ∈ ls, ∀ tail, (Rules.statement (ruleAt (n + 8))).Decides (l.kinds (.newline :: tail)) tail l.isReadable
      fun ss => ∃ s, HarmlessInFunction s ∧ ss = [s] := by
    intro l hl tail
    have hline := decides_simpleStatements (Nat.succ_pos _) (decides_line tail n (hls l hl))
    obtain ⟨k, kinds', hcons, hk⟩ := exists_head_line (hls l hl) (.newline :: tail)
    rw [hcons] at hline ⊢
    exact decides_statement_simple hk hline
  have hstart : ∀ l ∈ ls, ∀ tail, ∃ k tail', l.kinds (.newline :: tail) = k :: tail' ∧ k ≠ .dedent := by
    intro l hl tail
    obtain ⟨k, kinds', hcons, hk⟩ := exists_head_line (hls l hl) (.newline :: tail)
    refine ⟨k, kinds', hcons, ?_⟩
    rintro rfl
    cases hk
  refine decides_colonBlock ?_
  obtain ⟨m, hm⟩ : ∃ m, n + 8 = (m + 1) + ls.length := ⟨n + 7 - ls.length, by omega⟩
  rw [Rules.statements, show (ruleAt (n + 8)).fuel = (m + 1) + ls.length from hm]
  refine (Decides.bind (?_ : Decides _ _ (.dedent :: kinds) ((∀ l ∈ ls, l.isReadable) ∧ True) fun ss =>
    ∀ s ∈ ss, HarmlessInFunction s) fun _ ss hss => ?_).congr (by rw [and_true, and_true])
  · refine decides_run hitem hstart fun _ ss hss => decides_run_end.mono ?_
    rintro _ rfl s hs
    rw [List.append_nil, List.mem_reverse] at hs
    obtain ⟨_, -, h⟩ := exists_of_forall₂ hss s hs
    exact h
  · exact .pure fun s hs => hss s (List.mem_reverse.1 hs)

/-! ### Methods -/

/-- The type of what a method returns. -/
private theorem decides_returnHint {good : Prop} {Q : Expr → Prop}
    (h : r.expression.Decides kinds (.symbol ":" :: rest) good Q) :
    (Rules.returnHint r).Decides (.symbol "->" :: kinds) (.symbol ":" :: rest) good fun e? => ∃ e, e? = some e ∧ Q e where
  reads hgood ts hts := by
    obtain ⟨t, ts', rfl, ht, hts'⟩ := kindsOf_eq_cons hts
    obtain ⟨e, rest', he, hrest, hq⟩ := h.reads hgood ts' hts'
    exact ⟨some e, rest', by simp [Rules.returnHint, ht, he], hrest, e, rfl, hq⟩
  refuses hbad ts hts := by
    obtain ⟨t, ts', rfl, ht, hts'⟩ := kindsOf_eq_cons hts
    obtain ⟨f, hf⟩ := h.refuses hbad ts' hts'
    simp only [Rules.returnHint, ht, bne_self_eq_false, Bool.false_eq_true, if_false, hf]
    cases f with
    | exhausted => exact ⟨_, rfl⟩
    | _ =>
      dsimp only
      split
      · exact ⟨_, rfl⟩
      · exact ⟨_, rfl⟩

/-- The decorator of a static method. -/
private theorem decides_decorators (n : Nat) {k : TokenKind} (hk : k ≠ .symbol "@") :
    (Rules.decorators (ruleAt (n + 5))).Decides (.symbol "@" :: .name "staticmethod" :: .newline :: k :: kinds) (k :: kinds)
      True fun ds => ∀ e ∈ ds, Harmless e := by
  have hexpression : (ruleAt (n + 5)).expression.Decides (.name "staticmethod" :: .newline :: k :: kinds)
      (.newline :: k :: kinds) True Harmless := by
    refine decides_operand_atom (n + 3) rfl rfl ((decides_atom_name _ _).mono ?_)
    rintro e ⟨line, rfl⟩
    exact harmless_name line _
  have hnamed := decides_namedRule hexpression (by decide) rfl (by decide)
  refine (Decides.bind (?_ : Decides _ _ (k :: kinds) True fun ds => ∀ e ∈ ds, Harmless e) fun _ ds hds => ?_).congr
    (and_self_iff (a := True))
  · refine (decides_iterate_more (k :: kinds) (fun ds => ∀ e ∈ ds, Harmless e) ?_ ?_).congr (and_self_iff (a := True))
    · refine decides_accept ((hnamed.bind fun _ e he => ?_).congr (and_self_iff (a := True)))
      refine (decides_expect.bind fun _ _ _ => ?_).congr (and_self_iff (a := True))
      exact .pure ⟨rfl, by simpa using he⟩
    · intro _ ds hds
      exact decides_iterate_stop (decides_accept_ne hk (.pure ⟨rfl, hds⟩))
  · exact .pure fun e he => hds e (List.mem_reverse.1 he)

/-- What a method is read as: it violates no rule in a class exactly if the names that it binds may be bound. -/
def Definition.IsRead (d : Definition) (stmt : Stmt) : Prop :=
  ∀ className, stmtLine (Surroundings.classBody {} (Text.composed className)) stmt = none ↔ d.IsPlaced className

private theorem isRead_function {d : Definition} {line : Nat} {p : Parameters} (hp : d.formals.IsRead p) {returns : Expr}
    (hreturns : Harmless returns) {body : List Stmt} (hbody : ∀ s ∈ body, HarmlessInFunction s) {decorators : List Expr}
    (hdecorators : ∀ e ∈ decorators, Harmless e) :
    d.IsRead (.function line false (Text.composed d.name) p (some returns) body decorators) := by
  intro className
  have hlines : ∀ s : Surroundings, s.inFunction → stmtsLine s body = none := by
    intro s hs
    clear hp hdecorators
    induction body with
    | nil => rw [stmtsLine]
    | cons stmt rest ih =>
      rw [stmtsLine, hbody stmt List.mem_cons_self s hs, ih fun t ht => hbody t (List.mem_cons_of_mem _ ht)]
      rfl
  have hdecorated : ∀ s, exprsLine s .value decorators = none := fun s => exprsLine_of_harmless hdecorators s rfl
  rw [stmtLine, hdecorated, hp.parametersLine, optionalLine, hreturns _ .value rfl, hlines _ rfl, Option.or_none,
    Option.or_none, Option.or_none, Option.or_none, Option.or_eq_none_iff, hp.namesLine_eq_none_iff,
    violation_eq_none_iff, hp.any_isForbidden, Bool.or_eq_false_iff, List.any_eq_false]
  constructor
  · rintro ⟨hnodup, hallowed, hformals⟩
    exact ⟨hallowed, fun f hf => by simpa using hformals f hf, hnodup⟩
  · rintro ⟨hallowed, hformals, hnodup⟩
    exact ⟨hnodup, hallowed, fun f hf => by simpa using hformals f hf⟩

private theorem decides_function (n line : Nat) {d : Definition} (hd : d.HasNames n) {decorators : List Expr}
    (hdecorators : ∀ e ∈ decorators, Harmless e) :
    (Rules.functionDefinition (ruleAt (n + 9)) line false decorators).Decides (d.heading kinds) kinds d.isReadable
      d.IsRead := by
  have hreturns : (ruleAt (n + 9)).expression.Decides (wordKinds d.returns (d.suite kinds)) (d.suite kinds)
      (isReadable d.returns) Harmless :=
    (decides_word _ (n + 6) d.returns rfl fun _ => ⟨_, rfl⟩).mono fun _ he => he.harmless
  have hgood : isName d.name ∧ True ∧ d.formals.isReadable ∧ True ∧ isReadable d.returns ∧ (∀ l ∈ d.body, l.isReadable) ∧
      True ↔ d.isReadable := by
    simp [Definition.isReadable, and_assoc]
  refine ((decides_name _ d.name).bind fun _ id hid => ?_).congr hgood
  refine decides_expect.bind fun _ _ _ => ?_
  refine (decides_parameters (n + 3) hd.formals (Nat.lt_add_right 3 hd.parts)).bind fun _ p hp => ?_
  refine decides_expect.bind fun _ _ _ => (decides_returnHint hreturns).bind fun hhint e? he => ?_
  obtain ⟨e, rfl, he⟩ := he
  refine (decides_body n (hd.body hhint) hd.length).bind fun _ body hbody => ?_
  rw [hid]
  exact .pure (isRead_function hp he hbody hdecorators)

/-- A method is read exactly if its names are names and its operands are expressions. -/
theorem decides_definition (n : Nat) {d : Definition} (hd : d.HasNames n) :
    (Rules.statement (ruleAt (n + 9))).Decides (d.kinds kinds) kinds d.isReadable fun ss => ∃ s, d.IsRead s ∧ ss = [s] := by
  refine decides_peek fun t ht => ?_
  simp only [ht]
  refine ((decides_decorators (n + 4) (by decide)).bind fun _ ds hds => ?_).congr (by rw [true_and])
  refine .map (decides_here fun line => decides_accept ?_)
  exact (decides_function n line hd hds).mono fun s hs => ⟨s, hs, rfl⟩

/-! ### Classes -/

/-- The rules that a class violates are those that the names in it violate. -/
private theorem placed_class {c : ClassForm} {line : Nat} {doc : Stmt} (hdoc : ∀ s, stmtLine s doc = none)
    {defs : List Stmt} (hdefs : List.Forall₂ Definition.IsRead c.methods defs) :
    stmtLine {} (.classDef line (Text.composed c.name) [] [] (doc :: defs) []) = none ↔ c.IsPlaced := by
  have hmethods : ∀ {ds : List Definition} {defs : List Stmt}, List.Forall₂ Definition.IsRead ds defs →
      (stmtsLine (Surroundings.classBody {} (Text.composed c.name)) defs = none ↔ ∀ d ∈ ds, d.IsPlaced c.name) := by
    intro ds defs h
    induction h with
    | nil => simp [stmtsLine]
    | cons hd _ ih => rw [stmtsLine, Option.or_eq_none_iff, hd c.name, ih, List.forall_mem_cons]
  rw [stmtLine, stmtsLine, hdoc, exprsLine, exprsLine, keywordsLine]
  simp only [Option.none_or, List.filterMap_nil, repeatedName, Option.or_eq_none_iff, hmethods hdefs, violation_eq_none_iff]
  exact ⟨fun h => ⟨h.2, h.1⟩, fun h => ⟨h.methods, h.allowed⟩⟩

/-- A class is read exactly if its name is a name and its methods are read. -/
theorem decides_class (n : Nat) {c : ClassForm} (hc : c.HasNames n) :
    (Rules.statement (ruleAt (n + 10))).Decides (c.kinds kinds) kinds c.isReadable fun ss =>
      ∃ s, c.IsRead s ∧ ss = [s] := by
  have hdoc : ∀ tail,
      (Rules.statement (ruleAt (n + 9))).Decides ((Line.doc c.documentation).kinds (.newline :: tail)) tail True
      fun ss => ∃ stmt, (∀ s, stmtLine s stmt = none) ∧ ss = [stmt] := by
    intro tail
    refine (decides_statement_simple rfl
      (decides_simpleStatements (Nat.succ_pos _) (decides_doc (n + 5) hc.documentation))).mono ?_
    rintro ss ⟨stmt, ⟨line, line', rfl⟩, rfl⟩
    refine ⟨_, fun s => ?_, rfl⟩
    rw [stmtLine, exprLine]
  have hstatements : (Rules.statements (ruleAt (n + 9)) .dedent).Decides
      ((Line.doc c.documentation).kinds (.newline :: c.suite kinds)) (.dedent :: kinds) (∀ d ∈ c.methods, d.isReadable)
      fun ss => ∃ doc defs, (∀ s, stmtLine s doc = none) ∧ List.Forall₂ Definition.IsRead c.methods defs ∧
        ss = doc :: defs := by
    obtain ⟨m, hm⟩ : ∃ m, n + 9 = ((m + 1) + c.methods.length) + 1 := ⟨n + 7 - c.methods.length, by have := hc.length; omega⟩
    rw [Rules.statements, show (ruleAt (n + 9)).fuel = ((m + 1) + c.methods.length) + 1 from hm]
    refine (Decides.bind (?_ : Decides _ _ (.dedent :: kinds) (True ∧ (∀ d ∈ c.methods, d.isReadable) ∧ True) fun ss =>
      ∃ doc defs, (∀ s, stmtLine s doc = none) ∧ List.Forall₂ Definition.IsRead c.methods defs ∧ ss.reverse = doc :: defs)
      fun _ ss hss => ?_).congr (by rw [and_true, and_true, true_and])
    · refine decides_iterate_more (c.suite kinds) (fun ss => ∃ doc, (∀ s, stmtLine s doc = none) ∧ ss = [doc]) ?_ ?_
      · refine decides_sees_ne (by simp) (((hdoc (c.suite kinds)).bind fun _ ss hss => ?_).congr (and_self_iff (a := True)))
        obtain ⟨doc, hdoc, rfl⟩ := hss
        exact .pure ⟨rfl, doc, hdoc, rfl⟩
      · rintro - _ ⟨doc, hdoc, rfl⟩
        have hitem : ∀ d ∈ c.methods, ∀ tail, (Rules.statement (ruleAt (n + 9))).Decides (d.kinds tail) tail d.isReadable
            fun ss => ∃ s, d.IsRead s ∧ ss = [s] := fun d hd tail => decides_definition n (hc.methods d hd)
        have hstart : ∀ d ∈ c.methods, ∀ tail, ∃ k tail', d.kinds tail = k :: tail' ∧ k ≠ .dedent :=
          fun d _ tail => ⟨.symbol "@", _, rfl, by simp⟩
        refine decides_run hitem hstart fun _ defs hdefs => decides_run_end.mono ?_
        rintro _ rfl
        exact ⟨doc, defs, hdoc, hdefs, by simp⟩
    · obtain ⟨doc, defs, hdoc, hdefs, hss⟩ := hss
      exact .pure ⟨doc, defs, hdoc, hdefs, hss⟩
  refine decides_peek fun t ht => ?_
  simp only [ht]
  refine .map (decides_here fun line => decides_accept_ne (by decide) (decides_accept ?_))
  have hgood : isName c.name ∧ (∀ d ∈ c.methods, d.isReadable) ∧ True ↔ c.isReadable := by
    simp [ClassForm.isReadable]
  refine ((decides_name _ c.name).bind fun _ id hid => ?_).congr hgood
  refine decides_here fun opened => decides_accept_ne (by decide) ?_
  refine (decides_colonBlock hstatements).bind fun _ body hbody => ?_
  obtain ⟨doc, defs, hdoc, hdefs, rfl⟩ := hbody
  subst hid
  refine .pure ⟨_, ⟨⟨line, _, rfl⟩, ?_⟩, rfl⟩
  exact placed_class hdoc hdefs

end Decides

end NavFactory.Source
