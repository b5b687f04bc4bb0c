import Mathlib.Data.List.Forall2
import NavFactory.Proofs.Source.Scanning
import NavFactory.Source.Module

/-!
# Parsers that decide

`p.Decides kinds rest good Q` says that a parser reads tokens of certain kinds up to a rest if a condition holds, with
a result that has a property, and refuses them otherwise.  Steps in sequence decide the conjunction of their
conditions (`Decides.bind`), so that one proof serves for texts that are accepted and for texts that are not.
-/

namespace NavFactory.Source.Parser

variable {α β : Type}

/-! ### Single steps -/

theorem bind_apply (p : Parser α) (f : α → Parser β) (ts : List Token) :
    (p >>= f) ts = match p ts with
      | .ok (a, rest) => f a rest
      | .error e => .error e := rfl

theorem pure_apply (a : α) (ts : List Token) : (pure a : Parser α) ts = .ok (a, ts) := rfl

/-- The kinds of tokens. -/
def kindsOf (ts : List Token) : List TokenKind := ts.map (·.kind)

theorem kindsOf_eq_cons {ts : List Token} {k : TokenKind} {ks : List TokenKind} (h : kindsOf ts = k :: ks) :
    ∃ t rest, ts = t :: rest ∧ t.kind = k ∧ kindsOf rest = ks := List.map_eq_cons_iff.1 h

theorem kindsOf_eq_nil {ts : List Token} (h : kindsOf ts = []) : ts = [] := List.map_eq_nil_iff.1 h

/-- Whether a parser reads tokens of certain kinds, up to a rest and with a result that has a property, if a condition
holds, and refuses them otherwise. -/
structure Decides (p : Parser α) (kinds rest : List TokenKind) (good : Prop) (Q : α → Prop) : Prop where
  reads : good → ∀ ts, kindsOf ts = kinds → ∃ a ts', p ts = .ok (a, ts') ∧ kindsOf ts' = rest ∧ Q a
  refuses : ¬good → ∀ ts, kindsOf ts = kinds → ∃ f, p ts = .error f

section Decides

variable {p : Parser α} {f : α → Parser β} {kinds kinds' rest rest' : List TokenKind} {good good' : Prop}
  {Q : α → Prop} {R : β → Prop} {k k' k'' : TokenKind}

theorem Decides.congr (h : p.Decides kinds rest good Q) (hgood : good ↔ good') : p.Decides kinds rest good' Q :=
  propext hgood ▸ h

theorem Decides.mono {Q' : α → Prop} (h : p.Decides kinds rest good Q) (hQ : ∀ a, Q a → Q' a) :
    p.Decides kinds rest good Q' where
  reads hgood ts hts := by
    obtain ⟨a, ts', ha, hts', hq⟩ := h.reads hgood ts hts
    exact ⟨a, ts', ha, hts', hQ a hq⟩
  refuses := h.refuses

/-- Two steps in sequence. -/
theorem Decides.bind (hp : p.Decides kinds rest good Q) (hf : good → ∀ a, Q a → (f a).Decides rest rest' good' R) :
    (p >>= f).Decides kinds rest' (good ∧ good') R where
  reads := by
    rintro ⟨hgood, hgood'⟩ ts hts
    obtain ⟨a, ts', ha, hts', hq⟩ := hp.reads hgood ts hts
    obtain ⟨b, ts'', hb, hts'', hr⟩ := (hf hgood a hq).reads hgood' ts' hts'
    exact ⟨b, ts'', by rw [bind_apply, ha]; exact hb, hts'', hr⟩
  refuses := by
    intro hbad ts hts
    by_cases hgood : good
    · obtain ⟨a, ts', ha, hts', hq⟩ := hp.reads hgood ts hts
      obtain ⟨e, he⟩ := (hf hgood a hq).refuses (fun hgood' => hbad ⟨hgood, hgood'⟩) ts' hts'
      exact ⟨e, by rw [bind_apply, ha]; exact he⟩
    · obtain ⟨e, he⟩ := hp.refuses hgood ts hts
      exact ⟨e, by rw [bind_apply, he]⟩

/-- A step that always succeeds in front of another. -/
theorem Decides.bind_true (hp : p.Decides kinds rest True Q) (hf : ∀ a, Q a → (f a).Decides rest rest' good' R) :
    (p >>= f).Decides kinds rest' good' R :=
  (hp.bind fun _ => hf).congr (by rw [true_and])

theorem Decides.pure {a : α} (ha : Q a) : (Pure.pure a : Parser α).Decides kinds kinds True Q where
  reads _ ts hts := ⟨a, ts, rfl, hts, ha⟩
  refuses h := absurd trivial h

theorem Decides.map {g : α → β} (hp : p.Decides kinds rest good fun a => R (g a)) :
    (g <$> p).Decides kinds rest good R :=
  (hp.bind fun _ _ ha => .pure ha).congr (by rw [and_true])

/-- A parser that refuses. -/
theorem Decides.refused (h : ∀ ts, kindsOf ts = kinds → ∃ f, p ts = .error f) : p.Decides kinds rest False Q where
  reads := False.elim
  refuses _ := h

/-- What does not read any token refuses where there are none. -/
theorem Decides.nil (h : ∃ f, p [] = .error f) : p.Decides [] rest False Q := by
  refine .refused fun ts hts => ?_
  rw [kindsOf_eq_nil hts]
  exact h

/-- A parser that does on some tokens what another does on others. -/
theorem Decides.of_eq {p : Parser β} (h : ∀ ts, kindsOf ts = kinds → ∃ (q : Parser β) (ts' : List Token),
    p ts = q ts' ∧ q.Decides (kindsOf ts') rest good R) : p.Decides kinds rest good R where
  reads hgood ts hts := by
    obtain ⟨q, ts', heq, hq⟩ := h ts hts
    rw [heq]
    exact hq.reads hgood ts' rfl
  refuses hbad ts hts := by
    obtain ⟨q, ts', heq, hq⟩ := h ts hts
    rw [heq]
    exact hq.refuses hbad ts' rfl

theorem decides_peek {f : Token → Parser β} (h : ∀ t, t.kind = k → (f t).Decides (k :: kinds) rest good R) :
    (peek >>= f).Decides (k :: kinds) rest good R := by
  refine .of_eq fun ts hts => ?_
  obtain ⟨t, ts', rfl, ht, -⟩ := kindsOf_eq_cons hts
  exact ⟨f t, t :: ts', rfl, hts ▸ h t ht⟩

theorem decides_next {f : Token → Parser β} (h : ∀ t, t.kind = k → (f t).Decides kinds rest good R) :
    (next >>= f).Decides (k :: kinds) rest good R := by
  refine .of_eq fun ts hts => ?_
  obtain ⟨t, ts', rfl, ht, hts'⟩ := kindsOf_eq_cons hts
  exact ⟨f t, ts', rfl, hts' ▸ h t ht⟩

theorem decides_here {f : Nat → Parser β} (h : ∀ n, (f n).Decides (k :: kinds) rest good R) :
    (here >>= f).Decides (k :: kinds) rest good R := by
  refine .of_eq fun ts hts => ?_
  obtain ⟨t, ts', rfl, -, -⟩ := kindsOf_eq_cons hts
  exact ⟨f t.line, t :: ts', rfl, hts ▸ h t.line⟩

theorem decides_sees {f : Bool → Parser β} (h : (f (k == k')).Decides (k :: kinds) rest good R) :
    (sees k' >>= f).Decides (k :: kinds) rest good R := by
  refine .of_eq fun ts hts => ?_
  obtain ⟨t, ts', rfl, rfl, -⟩ := kindsOf_eq_cons hts
  exact ⟨f (t.kind == k'), t :: ts', rfl, hts ▸ h⟩

/-- A token that is not the one looked for. -/
theorem decides_sees_ne {f : Bool → Parser β} (hne : k ≠ k') (h : (f false).Decides (k :: kinds) rest good R) :
    (sees k' >>= f).Decides (k :: kinds) rest good R :=
  decides_sees (by rwa [beq_false_of_ne hne])

theorem decides_seesSecond {f : Bool → Parser β} (h : (f (k' == k'')).Decides (k :: k' :: kinds) rest good R) :
    (seesSecond k'' >>= f).Decides (k :: k' :: kinds) rest good R := by
  refine .of_eq fun ts hts => ?_
  obtain ⟨t, ts', rfl, -, hts'⟩ := kindsOf_eq_cons hts
  obtain ⟨u, ts'', rfl, rfl, -⟩ := kindsOf_eq_cons hts'
  exact ⟨f (u.kind == k''), t :: u :: ts'', rfl, hts ▸ h⟩

theorem decides_seesSecond_ne {f : Bool → Parser β} (hne : k' ≠ k'')
    (h : (f false).Decides (k :: k' :: kinds) rest good R) :
    (seesSecond k'' >>= f).Decides (k :: k' :: kinds) rest good R :=
  decides_seesSecond (by rwa [beq_false_of_ne hne])

theorem decides_remaining {f : List Token → Parser β} (h : ∀ ts, (f ts).Decides kinds rest good R) :
    (remaining >>= f).Decides kinds rest good R :=
  .of_eq fun ts hts => ⟨f ts, ts, rfl, hts ▸ h ts⟩

/-- A token that is accepted. -/
theorem decides_accept {f : Bool → Parser β} (h : (f true).Decides kinds rest good R) :
    (accept k >>= f).Decides (k :: kinds) rest good R := by
  refine .of_eq fun ts hts => ?_
  obtain ⟨t, ts', rfl, rfl, hts'⟩ := kindsOf_eq_cons hts
  exact ⟨f true, ts', by rw [bind_apply, accept, beq_self_eq_true, if_pos rfl], hts' ▸ h⟩

/-- A token that is passed over. -/
theorem decides_accept_ne {f : Bool → Parser β} (hne : k ≠ k') (h : (f false).Decides (k :: kinds) rest good R) :
    (accept k' >>= f).Decides (k :: kinds) rest good R := by
  refine .of_eq fun ts hts => ?_
  obtain ⟨t, ts', rfl, rfl, -⟩ := kindsOf_eq_cons hts
  exact ⟨f false, t :: ts', by rw [bind_apply, accept, beq_false_of_ne hne, if_neg Bool.false_ne_true], hts ▸ h⟩

theorem decides_expect : (expect k).Decides (k :: kinds) kinds True fun _ => True where
  reads _ ts hts := by
    obtain ⟨t, ts', rfl, rfl, hts'⟩ := kindsOf_eq_cons hts
    exact ⟨(), ts', by rw [expect, beq_self_eq_true, if_pos rfl], hts', trivial⟩
  refuses h := absurd trivial h

theorem decides_fail : (fail : Parser α).Decides kinds rest False Q :=
  .refused fun ts _ => by cases ts <;> exact ⟨_, rfl⟩

/-! ### Words -/

/-- Whether a text is read as a name. -/
def isName (w : String) : Bool := Text.isIdentifier w && !Text.isReserved w

theorem wordKinds_of_isName {w : String} (hw : isName w) : wordKinds w kinds = .name (Text.composed w) :: kinds := by
  simp only [isName, Bool.and_eq_true, Bool.not_eq_true'] at hw
  simp [wordKinds, wordKind, hw]

/-- A word that is no name is a reserved word or malformed. -/
theorem wordKinds_of_not_isName (kinds : List TokenKind) {w : String} (hw : isName w = false) :
    (Text.isReserved w ∧ wordKinds w kinds = .keyword w :: kinds) ∨ (Text.isReserved w = false ∧ wordKinds w kinds = []) := by
  cases hr : Text.isReserved w with
  | true => exact Or.inl ⟨rfl, by simp [wordKinds, wordKind, hr]⟩
  | false =>
    have hid : Text.isIdentifier w = false := by simpa [isName, hr] using hw
    exact Or.inr ⟨rfl, by simp [wordKinds, wordKind, hr, hid]⟩

theorem decides_name_token {f : String → Parser β} {s : String} (h : (f s).Decides kinds rest good R) :
    (name >>= f).Decides (.name s :: kinds) rest good R := by
  refine .of_eq fun ts hts => ?_
  obtain ⟨t, ts', rfl, ht, hts'⟩ := kindsOf_eq_cons hts
  exact ⟨f s, ts', by rw [bind_apply, name, ht], hts' ▸ h⟩

theorem decides_name (kinds : List TokenKind) (w : String) :
    name.Decides (wordKinds w kinds) kinds (isName w) (· = Text.composed w) where
  reads hw ts hts := by
    rw [wordKinds_of_isName hw] at hts
    obtain ⟨t, ts', rfl, ht, hts'⟩ := kindsOf_eq_cons hts
    exact ⟨_, ts', by simp [name, ht], hts', rfl⟩
  refuses hw ts hts := by
    rcases wordKinds_of_not_isName kinds (Bool.eq_false_iff.2 hw) with ⟨-, h⟩ | ⟨-, h⟩
    · rw [h] at hts
      obtain ⟨t, ts', rfl, ht, hts'⟩ := kindsOf_eq_cons hts
      exact ⟨_, by rw [name, ht]⟩
    · rw [h] at hts
      rw [kindsOf_eq_nil hts]
      exact ⟨_, rfl⟩

/-! ### Repetitions -/

/-- A repetition that goes on. -/
theorem decides_iterate_more (rest : List TokenKind) (Q' : α → Prop) {step : α → Parser (α × Bool)} {n : Nat} {a : α}
    (hstep : (step a).Decides kinds rest good fun r => r.2 = true ∧ Q' r.1)
    (hmore : good → ∀ b, Q' b → (iterate step n b).Decides rest rest' good' Q) :
    (iterate step (n + 1) a).Decides kinds rest' (good ∧ good') Q := by
  refine hstep.bind fun hgood r hr => ?_
  obtain ⟨b, more⟩ := r
  obtain ⟨rfl, hb⟩ := hr
  exact hmore hgood b hb

/-- A repetition that ends. -/
theorem decides_iterate_stop {step : α → Parser (α × Bool)} {n : Nat} {a : α}
    (hstep : (step a).Decides kinds rest good fun r => r.2 = false ∧ Q r.1) :
    (iterate step (n + 1) a).Decides kinds rest good Q := by
  refine (hstep.bind fun _ r hr => ?_).congr (by rw [and_true])
  obtain ⟨b, more⟩ := r
  obtain ⟨rfl, hb⟩ := hr
  exact .pure hb

/-- What is related to items of a list is related to one of them each. -/
theorem exists_of_forall₂ {γ δ : Type} {related : γ → δ → Prop} {cs : List γ} {ds : List δ}
    (h : List.Forall₂ related cs ds) : ∀ d ∈ ds, ∃ c ∈ cs, related c d := by
  induction h with
  | nil => nofun
  | @cons c d cs ds hcd _ ih =>
    intro e he
    rcases List.mem_cons.1 he with rfl | he
    · exact ⟨c, List.mem_cons_self, hcd⟩
    · obtain ⟨c', hc', hr⟩ := ih e he
      exact ⟨c', List.mem_cons_of_mem c hc', hr⟩

/-! ### Lists with separators -/

/-- The kinds of the items behind the first of a list, each behind a separator. -/
def followers {γ : Type} (separator : String) (item : γ → List TokenKind → List TokenKind) (cs : List γ)
    (tail : List TokenKind) : List TokenKind :=
  cs.foldr (fun c kinds => .symbol separator :: item c kinds) tail

@[simp] theorem followers_nil {γ : Type} (separator : String) (item : γ → List TokenKind → List TokenKind)
    (tail : List TokenKind) : followers separator item [] tail = tail := rfl

@[simp] theorem followers_cons {γ : Type} (separator : String) (item : γ → List TokenKind → List TokenKind) (c : γ)
    (cs : List γ) (tail : List TokenKind) :
    followers separator item (c :: cs) tail = .symbol separator :: item c (followers separator item cs tail) := rfl

/-- The end of a list, perhaps behind a last separator. -/
def ending (separator : String) (trailing : Bool) (tail : List TokenKind) : List TokenKind :=
  if trailing then .symbol separator :: tail else tail

section Separated

variable {γ : Type} {separator : String} {ends : Token → Bool} {p : Parser α}
  {item : γ → List TokenKind → List TokenKind} {good : γ → Prop} {Q : γ → α → Prop} {k : TokenKind}
  {kinds : List TokenKind} {trailing : Bool}

/-- What follows an item is a separator or the end of the list. -/
private theorem head_followers {cs : List γ} :
    ∃ k' kinds', followers separator item cs (ending separator trailing (k :: kinds)) = k' :: kinds' ∧
      (k' = .symbol separator ∨ k' = k) := by
  cases cs with
  | nil =>
    cases trailing with
    | false => exact ⟨_, _, rfl, Or.inr rfl⟩
    | true => exact ⟨_, _, rfl, Or.inl rfl⟩
  | cons d cs => exact ⟨_, _, rfl, Or.inl rfl⟩

/-- Whether an item that is decided by a condition can be told from the end of a list. -/
def StartsItem (ends : Token → Bool) (kinds : List TokenKind) (good : Prop) : Prop :=
  match kinds with
  | [] => ¬good
  | k :: _ => ∀ t : Token, t.kind = k → ends t = false

/-- The items behind the first, the last first, with those that were read before. -/
private theorem decides_followers (hk : k ≠ .symbol separator) (hend : trailing → ∀ t, t.kind = k → ends t) {n : Nat}
    {before cs : List γ} {read : List α} (hread : List.Forall₂ Q before read.reverse)
    (hitem : ∀ d ∈ cs, ∀ k' kinds', k' = .symbol separator ∨ k' = k →
      p.Decides (item d (k' :: kinds')) (k' :: kinds') (good d) (Q d))
    (hstart : ∀ d ∈ cs, ∀ kinds', StartsItem ends (item d kinds') (good d)) (hn : cs.length < n) :
    (iterate (fun (x : List α × Bool) => do
      if ← acceptSymbol separator then
        if ends (← peek) then pure ((x.1, true), false)
        else do
          let a ← p
          pure ((a :: x.1, false), true)
      else pure ((x.1, false), false)) n (read, false)).Decides
        (followers separator item cs (ending separator trailing (k :: kinds))) (k :: kinds) (∀ d ∈ cs, good d)
        fun r => r.2 = trailing ∧ List.Forall₂ Q (before ++ cs) r.1.reverse := by
  induction cs generalizing n before read with
  | nil =>
    obtain ⟨n, rfl⟩ : ∃ m, n = m + 1 := ⟨n - 1, by omega⟩
    refine (decides_iterate_stop ?_).congr (show True ↔ _ by simp)
    cases trailing with
    | false =>
      refine decides_accept_ne hk (.pure ?_)
      simpa using hread
    | true =>
      refine decides_accept (decides_peek fun t ht => ?_)
      rw [hend rfl t ht]
      refine .pure ?_
      simpa using hread
  | cons d cs ih =>
    obtain ⟨n, rfl⟩ : ∃ m, n = m + 1 := ⟨n - 1, by omega⟩
    obtain ⟨k', kinds', heq, hk'⟩ : ∃ k' kinds', followers separator item cs (ending separator trailing (k :: kinds)) =
        k' :: kinds' ∧ (k' = .symbol separator ∨ k' = k) := head_followers
    have hnext := hitem d List.mem_cons_self k' kinds' hk'
    rw [← heq] at hnext
    rw [List.forall_mem_cons]
    refine decides_iterate_more (followers separator item cs (ending separator trailing (k :: kinds)))
      (fun x => x.2 = false ∧ ∃ a, Q d a ∧ x.1 = a :: read) ?_ ?_
    · refine decides_accept ?_
      have hread : (p >>= fun a => (pure ((a :: read, false), true) : Parser _)).Decides
          (item d (followers separator item cs (ending separator trailing (k :: kinds))))
          (followers separator item cs (ending separator trailing (k :: kinds))) (good d)
          fun r => r.2 = true ∧ r.1.2 = false ∧ ∃ a, Q d a ∧ r.1.1 = a :: read :=
        (hnext.bind fun _ a ha => .pure ⟨rfl, rfl, a, ha, rfl⟩).congr (by rw [and_true])
      have hends := hstart d List.mem_cons_self (followers separator item cs (ending separator trailing (k :: kinds)))
      change Decides _ (item d (followers separator item cs (ending separator trailing (k :: kinds)))) _ _ _
      cases hkinds : item d (followers separator item cs (ending separator trailing (k :: kinds))) with
      | nil =>
        rw [hkinds] at hends
        exact (Decides.nil ⟨_, rfl⟩).congr (iff_of_false id hends)
      | cons k'' kinds'' =>
        rw [hkinds] at hends hread
        refine decides_peek fun t ht => ?_
        rw [hends t ht]
        exact hread
    · intro _ x hx
      obtain ⟨items, ended⟩ := x
      obtain ⟨rfl, a, ha, rfl⟩ := hx
      have hbefore : List.Forall₂ Q (before ++ [d]) (a :: read).reverse := by
        rw [List.reverse_cons]
        exact List.rel_append hread (.cons ha .nil)
      have hmore := ih hbefore (fun e he => hitem e (List.mem_cons_of_mem d he))
        (fun e he => hstart e (List.mem_cons_of_mem d he)) (Nat.lt_of_succ_lt_succ hn)
      simpa using hmore

/-- Items with separators between them, each decided in front of a separator or of the end of the list. -/
theorem decides_separated {n : Nat} {c : γ} {cs : List γ} (hk : k ≠ .symbol separator)
    (hend : trailing → ∀ t, t.kind = k → ends t)
    (hitem : ∀ d ∈ c :: cs, ∀ k' kinds', k' = .symbol separator ∨ k' = k →
      p.Decides (item d (k' :: kinds')) (k' :: kinds') (good d) (Q d))
    (hstart : ∀ d ∈ cs, ∀ kinds', StartsItem ends (item d kinds') (good d))
    (hn : cs.length < n) :
    (separated n separator ends p).Decides (item c (followers separator item cs (ending separator trailing (k :: kinds))))
      (k :: kinds) (∀ d ∈ c :: cs, good d) fun r => r.2 = trailing ∧ List.Forall₂ Q (c :: cs) r.1 := by
  obtain ⟨k', kinds', heq, hk'⟩ : ∃ k' kinds', followers separator item cs (ending separator trailing (k :: kinds)) =
      k' :: kinds' ∧ (k' = .symbol separator ∨ k' = k) := head_followers
  have hfirst := hitem c List.mem_cons_self k' kinds' hk'
  rw [← heq] at hfirst
  rw [List.forall_mem_cons]
  refine hfirst.bind fun _ a ha => ?_
  have hread : List.Forall₂ Q [c] [a].reverse := .cons ha .nil
  refine ((decides_followers hk hend hread (fun d hd => hitem d (List.mem_cons_of_mem c hd)) hstart hn).bind
    fun _ r hr => ?_).congr (by rw [and_true])
  exact .pure hr

end Separated

/-- A single item in front of a token that is no separator. -/
theorem decides_separated_one {separator : String} {ends : Token → Bool} {n : Nat} (hn : 0 < n)
    (h : p.Decides kinds (k :: rest) good Q) (hk : k ≠ .symbol separator) :
    (separated n separator ends p).Decides kinds (k :: rest) good fun x => ∃ a, Q a ∧ x = ([a], false) := by
  obtain ⟨n, rfl⟩ : ∃ m, n = m + 1 := ⟨n - 1, by omega⟩
  refine (h.bind fun _ a ha => ?_).congr (by rw [and_true])
  refine (Decides.bind (?_ : Decides _ _ (k :: rest) True (· = ([a], false))) fun _ x hx => ?_).congr
    (and_self_iff (a := True))
  · exact decides_iterate_stop (decides_accept_ne hk (.pure ⟨rfl, rfl⟩))
  · subst hx
    exact .pure ⟨a, ha, rfl⟩

/-! ### Steps with separators -/

section Items

variable {γ σ : Type} {separator : String} {step : σ → Parser σ} {ends : Token → Bool}
  {item : γ → List TokenKind → List TokenKind} {good : γ → Prop} {reached : List γ → σ → Prop} {k : TokenKind}
  {kinds : List TokenKind} {whole : List γ}

/-- A state that changes with each item of a list.  An item may ask which items are in front of it and behind it. -/
theorem decides_items (hk : k ≠ .symbol separator)
    (hitem : ∀ before d after s kinds', before ++ d :: after = whole → reached before s →
      ∀ k', k' = (if after.isEmpty then k else .symbol separator) →
        (step s).Decides (item d (k' :: kinds')) (k' :: kinds') (good d) (reached (before ++ [d])))
    (hstart : ∀ d ∈ whole, ∀ kinds', StartsItem ends (item d kinds') (good d)) {before after : List γ} {c : γ} {s : σ}
    {n : Nat} (hwhole : before ++ c :: after = whole) (hs : reached before s) (hn : after.length < n) :
    (iterate (fun s => do
      let s ← step s
      if ← acceptSymbol separator then pure (s, !ends (← peek)) else pure (s, false)) n s).Decides
        (item c (followers separator item after (k :: kinds))) (k :: kinds) (∀ d ∈ c :: after, good d)
        (reached whole) := by
  induction after generalizing before c s n with
  | nil =>
    obtain ⟨n, rfl⟩ : ∃ m, n = m + 1 := ⟨n - 1, by omega⟩
    have hlast := hitem before c [] s kinds hwhole hs k rfl
    rw [hwhole] at hlast
    refine (decides_iterate_stop (hlast.bind fun _ s' hs' => ?_)).congr (show good c ∧ True ↔ _ by simp)
    exact decides_accept_ne hk (.pure ⟨rfl, hs'⟩)
  | cons d after ih =>
    rw [List.length_cons] at hn
    obtain ⟨n, rfl⟩ : ∃ m, n = m + 1 := ⟨n - 1, by omega⟩
    have hfirst := hitem before c (d :: after) s (item d (followers separator item after (k :: kinds))) hwhole hs
      (.symbol separator) rfl
    have hends := hstart d (by simp [← hwhole]) (followers separator item after (k :: kinds))
    have hwhole' : (before ++ [c]) ++ d :: after = whole := by simpa using hwhole
    have hmore : ∀ s', reached (before ++ [c]) s' → Decides _ _ _ _ _ := fun s' hs' =>
      ih hwhole' hs' (Nat.lt_of_succ_lt_succ hn)
    rw [List.forall_mem_cons, followers_cons]
    cases hkinds : item d (followers separator item after (k :: kinds)) with
    | nil =>
      rw [hkinds] at hfirst hends
      have hbad : ¬∀ e ∈ d :: after, good e := fun h => hends (h d List.mem_cons_self)
      refine (decides_iterate_more [] (fun _ => False) ?_ fun _ _ => False.elim).congr
        (show (good c ∧ False) ∧ False ↔ _ from iff_of_false And.right fun h => hbad h.2)
      exact hfirst.bind fun _ s' _ => decides_accept (.nil ⟨_, rfl⟩)
    | cons k' kinds' =>
      rw [hkinds] at hfirst hends hmore
      refine decides_iterate_more (k' :: kinds') (reached (before ++ [c])) ?_ fun _ s' hs' => hmore s' hs'
      refine (hfirst.bind fun _ s' hs' => ?_).congr (by rw [and_true])
      refine decides_accept (decides_peek fun t ht => ?_)
      rw [hends t ht]
      exact .pure ⟨rfl, hs'⟩

end Items

end Decides

end NavFactory.Source.Parser
