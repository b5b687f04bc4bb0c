import NavFactory.Proofs.Source.Levels
import NavFactory.Proofs.Source.Literals
import NavFactory.TypeRef

/-!
# Operands

The operands of generated text, how they are cut into tokens (`Scans.operand`) and whether they are expressions
(`decides_operand`): all are but a word that is neither a name nor a constant, a subscript with such a word, and a
fragment state as messages show it.
-/

namespace NavFactory.Source

open NavFactory.Source.Parser

/-- An operand of generated text. -/
inductive Operand
  | word (w : String)
  | member (w m : String)
  | text (s : String)
  | int (i : Int)
  | subscript (w first : String) (rest : List String)
  | empty
  /-- A fragment state as messages show it. -/
  | state (m : FragmentState)

namespace Operand

/-- The text of an operand. -/
def shown : Operand → String
  | word w => w
  | member w m => w ++ "." ++ m
  | text s => Text.quote s
  | int i => toString i
  | subscript w first rest => w ++ "[" ++ ", ".intercalate (first :: rest) ++ "]"
  | empty => "[]"
  | state m => m.shown

/-- The kinds of tokens from an operand on. -/
def kinds : Operand → List TokenKind → List TokenKind
  | word w, tail => wordKinds w tail
  | member w m, tail => wordKinds w (.symbol "." :: wordKinds m tail)
  | text s, tail => .string (quotedToken s.toList) :: tail
  | int i, tail =>
    if i < 0 then .symbol "-" :: .number (Nat.toDigits 10 i.natAbs) :: tail
    else .number (Nat.toDigits 10 i.natAbs) :: tail
  | subscript w first rest, tail =>
    wordKinds w (.symbol "[" :: wordKinds first (followers "," wordKinds rest (.symbol "]" :: tail)))
  | empty, tail => .symbol "[" :: .symbol "]" :: tail
  | state m, tail =>
    .symbol "<" :: wordKinds "FragmentState" (.symbol "." :: wordKinds m.name (.symbol ":" ::
      .string { body := m.text.toList } :: .symbol ">" :: tail))

/-- The words of an operand. -/
def words : Operand → List String
  | word w => [w]
  | member w m => [w, m]
  | subscript w first rest => w :: first :: rest
  | _ => []

end Operand

/-- What may follow an operand: a character that neither goes on with it nor makes a longer symbol of its last one. -/
def endsOperand (c : Char) : Bool := [',', ')', ']', ':', ' ', '\n'].contains c

/-! ### Tokens of operands -/

section Scans

variable {ws : List Nat} {bs : List Char} {cs : List Char} {kinds : List TokenKind}

private theorem facts_of_endsOperand {c : Char} (hc : endsOperand c) :
    endsWord c ∧ endsNumber c ∧ isQuote c = false ∧ isLone '>' c := by
  have hall : ∀ c ∈ [',', ')', ']', ':', ' ', '\n'], endsWord c ∧ endsNumber c ∧ isQuote c = false ∧ isLone '>' c :=
    List.all_iff_forall_prop.1 (by decide)
  exact hall c (by simpa [endsOperand] using hc)

/-- A quoted text. -/
theorem Scans.quoted (s : String) {d : Char} (hd : isQuote d = false) (h : Scans ⟨false, ws, bs⟩ (d :: cs) kinds) :
    Scans ⟨false, ws, bs⟩ ((Text.quote s).toList ++ d :: cs) (.string (quotedToken s.toList) :: kinds) := by
  rw [Text.quote, String.toList_ofList]
  obtain ⟨hplain, hstart⟩ := isClean_quoteChars s.toList
  have hquote : (d :: cs).head? ≠ some (Text.chooseQuote s.toList) := by
    rintro hchosen
    rw [Option.some.inj hchosen, isQuote_chooseQuote] at hd
    cases hd
  exact Scans.string _ hstart hplain (openString_quoteChars hquote) h

/-- Texts with commas between them. -/
theorem Scans.listed {γ : Type} {shown : γ → String} {item : γ → List TokenKind → List TokenKind} {first : γ}
    {rest : List γ} {e : Char}
    (hitem : ∀ c ∈ first :: rest, ∀ d cs kinds, d = ',' ∨ d = e → Scans ⟨false, ws, bs⟩ (d :: cs) kinds →
      Scans ⟨false, ws, bs⟩ ((shown c).toList ++ d :: cs) (item c kinds))
    (h : Scans ⟨false, ws, bs⟩ (e :: cs) kinds) :
    Scans ⟨false, ws, bs⟩ ((", ".intercalate ((first :: rest).map shown)).toList ++ e :: cs)
      (item first (followers "," item rest kinds)) := by
  induction rest generalizing first with
  | nil =>
    rw [List.map_cons, List.map_nil, String.intercalate_singleton]
    exact hitem first List.mem_cons_self e cs kinds (Or.inr rfl) h
  | cons second rest ih =>
    have hrest := ih fun c hc => hitem c (List.mem_cons_of_mem first hc)
    have htail := Scans.symbol (c := ',') (d := ' ') (by decide) (by decide) (by simp) hrest.blank
    have hfirst := hitem first List.mem_cons_self ',' _ _ (Or.inl rfl) htail
    simpa using hfirst

/-- An integer. -/
private theorem Scans.int (i : Int) {d : Char} (hd : endsNumber d) (h : Scans ⟨false, ws, bs⟩ (d :: cs) kinds) :
    Scans ⟨false, ws, bs⟩ ((toString i).toList ++ d :: cs) ((Operand.int i).kinds kinds) := by
  have hplain : IsClean (Nat.toDigits 10 i.natAbs) := by
    intro c hc
    have hdigit : c.isDigit := Nat.isDigit_of_mem_toDigits (by omega) (by omega) hc
    constructor <;>
      · rintro rfl
        exact absurd hdigit (by decide)
  obtain ⟨c, digits, hdigits, hc⟩ : ∃ c digits, Nat.toDigits 10 i.natAbs = c :: digits ∧ c.isDigit := by
    cases hdigits : Nat.toDigits 10 i.natAbs with
    | nil => exact absurd hdigits Nat.toDigits_ne_nil
    | cons c digits =>
      have hmem : c ∈ Nat.toDigits 10 i.natAbs := by simp [hdigits]
      exact ⟨c, digits, rfl, Nat.isDigit_of_mem_toDigits (by omega) (by omega) hmem⟩
  have hnumber := Scans.number ⟨c, digits, hdigits, hc⟩ hplain (takeNumber_toDigits i.natAbs cs hd) h
  rw [Int.toString_eq_repr, Int.repr_eq_if, Operand.kinds]
  by_cases hi : i < 0
  · have hnat : (-i).toNat = i.natAbs := by omega
    have hpart : isNamePart c := by simp [isNamePart, hc]
    rw [if_neg (by omega), if_pos hi, hnat, String.toList_append, Nat.toList_repr]
    rw [hdigits] at hnumber ⊢
    exact Scans.symbol (c := '-') (by decide) (isLone_of_isNamePart '-' hpart) (by simp) hnumber
  · have hnat : i.toNat = i.natAbs := by omega
    rw [if_pos (by omega), if_neg hi, hnat, Nat.toList_repr]
    exact hnumber

/-- A fragment state as messages show it. -/
private theorem Scans.state (m : FragmentState) {d : Char} (hd : isLone '>' d)
    (h : Scans ⟨false, ws, bs⟩ (d :: cs) kinds) :
    Scans ⟨false, ws, bs⟩ (m.shown.toList ++ d :: cs) ((Operand.state m).kinds kinds) := by
  have hword : IsWord m.name.toList := isWord_literal (by cases m <;> decide)
  have hplain : ∀ c ∈ m.text.toList, c ≠ '\r' ∧ c ≠ '\x00' := List.all_iff_forall_prop.1 (by cases m <;> decide)
  have hopen : openString (('\'' :: m.text.toList ++ ['\'']) ++ '>' :: d :: cs) = some (m.text.toList, '>' :: d :: cs) := by
    cases m <;> simp [FragmentState.text, openString, takeString]
  have hclose := Scans.symbol (c := '>') (by decide) hd (by simp) h
  have htext := hclose.string _ ⟨_, _, rfl, by decide⟩ (by simpa [IsClean, or_imp, forall_and] using hplain) hopen
  have hcolon := Scans.symbol (c := ':') (d := ' ') (by decide) (by decide) (by simp) htext.blank
  have hdot := Scans.dot hword (hcolon.word hword (by decide))
  have htype := hdot.word (w := "FragmentState") (isWord_literal (by decide)) (by decide)
  have hangle := Scans.symbol (c := '<') (d := 'F') (by decide) (by decide) (by simp) htype
  have htext : m.shown.toList ++ d :: cs = '<' :: ("FragmentState".toList ++ '.' :: (m.name.toList ++
      ':' :: ' ' :: (('\'' :: m.text.toList ++ ['\'']) ++ '>' :: d :: cs))) := by
    unfold FragmentState.shown
    simp only [String.toList_append, List.append_assoc]
    rfl
  rw [htext]
  exact hangle

/-- An operand in front of what ends it. -/
theorem Scans.operand {o : Operand} (ho : ∀ w ∈ o.words, IsWord w.toList) (hbs : bs.length < 200) {d : Char}
    (hd : endsOperand d) (h : Scans ⟨false, ws, bs⟩ (d :: cs) kinds) :
    Scans ⟨false, ws, bs⟩ (o.shown.toList ++ d :: cs) (o.kinds kinds) := by
  obtain ⟨hword, hnumber, hquote, hangle⟩ := facts_of_endsOperand hd
  cases o with
  | word w => exact h.word (ho w (by simp [Operand.words])) hword
  | member w m =>
    have hm := h.word (ho m (by simp [Operand.words])) hword
    have hw := (hm.dot (ho m (by simp [Operand.words]))).word (ho w (by simp [Operand.words])) (by decide)
    simpa [Operand.shown, Operand.kinds] using hw
  | text s => exact h.quoted s hquote
  | int i => exact h.int i hnumber
  | subscript w first rest =>
    have hclose := Scans.closes (c := ']') (by decide) h
    have hitems : ∀ c ∈ first :: rest, ∀ d cs kinds, d = ',' ∨ d = ']' → Scans ⟨false, ws, ']' :: bs⟩ (d :: cs) kinds →
        Scans ⟨false, ws, ']' :: bs⟩ ((id c).toList ++ d :: cs) (wordKinds c kinds) := by
      intro c hc d cs kinds hd h
      refine h.word (ho c (List.mem_cons_of_mem w hc)) ?_
      rcases hd with rfl | rfl <;> decide
    have hopen := Scans.opens (c := '[') (by decide) rfl hbs (Scans.listed hitems hclose)
    have hw := hopen.word (ho w (by simp [Operand.words])) (by decide)
    rw [List.map_id] at hw
    simpa [Operand.shown, Operand.kinds] using hw
  | empty =>
    exact Scans.opens (c := '[') (by decide) rfl hbs (Scans.closes (c := ']') (by decide) h)
  | state m => exact h.state m hangle

end Scans

/-! ### Values of operands -/

namespace Operand

/-- Whether the words are names in front of a dot, behind it and in front of a bracket, in which at most two words
stand, and whether an integer has few enough digits. -/
def IsFit : Operand → Prop
  | member w m => isName w ∧ isName m
  | subscript w _ rest => isName w ∧ rest.length < 2
  | int i => i.natAbs < 10 ^ maxDecimalDigits
  | _ => True

/-- Whether an operand is an expression. -/
def isReadable : Operand → Bool
  | word w => Source.isReadable w
  | subscript _ first rest => (first :: rest).all Source.isReadable
  | state _ => false
  | _ => true

end Operand

section Decides

variable {r : Rules} {kinds : List TokenKind}

/-- A string by itself. -/
theorem joinStrings_single (parse : Parser Expr) (line n : Nat) {body cs : List Char}
    (h : decodeLiteral false body = .ok cs) :
    joinStrings parse line [(n, { body := body })] = .ok (.constant line (.text (String.ofList cs) false)) := by
  cases cs with
  | nil =>
    simp only [joinStrings, h, appendText, bind, Except.bind, List.all, List.any, List.foldlM]
    rfl
  | cons c cs =>
    simp only [joinStrings, h, appendText, bind, Except.bind, List.all, List.any, List.foldlM]
    rfl

/-- A string with another token behind it. -/
private theorem decides_stringRun (hfuel : 1 < r.fuel) (literal : StringToken) {k : TokenKind} (hk : ∀ s, k ≠ .string s) :
    (Rules.stringRun r).Decides (.string literal :: k :: kinds) (k :: kinds) True fun run => ∃ n, run = [(n, literal)] := by
  obtain ⟨n, hn⟩ : ∃ n, r.fuel = n + 2 := ⟨r.fuel - 2, by omega⟩
  rw [Rules.stringRun, hn]
  refine Decides.bind_true (?_ : Decides _ _ (k :: kinds) True fun run => ∃ n, run = [(n, literal)]) ?_
  · refine (decides_iterate_more (k :: kinds) (fun run => ∃ n, run = [(n, literal)]) ?_ ?_).congr (and_self_iff (a := True))
    · refine decides_peek fun t ht => ?_
      simp only [ht]
      exact decides_next fun _ _ => .pure ⟨rfl, t.line, rfl⟩
    · rintro - run hrun
      refine decides_iterate_stop (decides_peek fun t ht => ?_)
      cases k with
      | string s => exact absurd rfl (hk s)
      | _ =>
        simp only [ht]
        exact .pure ⟨rfl, hrun⟩
  · rintro run ⟨m, rfl⟩
    exact .pure ⟨m, rfl⟩

/-- A string whose escapes are well formed. -/
theorem decides_atom_string (kinds : List TokenKind) (hfuel : 1 < r.fuel) {body cs : List Char} {k : TokenKind}
    (hk : ∀ s, k ≠ .string s)
    (h : decodeLiteral false body = .ok cs) :
    (Rules.atom r).Decides (.string { body := body } :: k :: kinds) (k :: kinds) True fun e =>
      ∃ line, e = .constant line (.text (String.ofList cs) false) := by
  refine decides_peek fun t ht => ?_
  simp only [ht]
  refine (decides_stringRun hfuel { body := body } hk).bind_true ?_
  rintro run ⟨n, rfl⟩
  rw [joinStrings_single _ _ _ h]
  exact .pure ⟨_, rfl⟩

/-- An expression that is not assigned to. -/
theorem decides_namedRule {k k' stop : TokenKind} {rest : List TokenKind} {good : Prop} {Q : Expr → Prop}
    (h : r.expression.Decides (k :: k' :: kinds) (stop :: rest) good Q) (hk' : k' ≠ .symbol ":=") (hstop : stop.isStop)
    (hne : stop ≠ .symbol "=") : (Rules.namedRule r).Decides (k :: k' :: kinds) (stop :: rest) good Q := by
  have hwalrus : stop ≠ .symbol ":=" := by
    rintro rfl
    cases hstop
  have hplain : (Rules.namedRule.plain r).Decides (k :: k' :: kinds) (stop :: rest) good Q := by
    refine decides_remaining fun _ => (h.bind fun _ e he => ?_).congr (by rw [and_true])
    exact decides_sees_ne hwalrus (decides_sees_ne hne (.pure he))
  refine decides_peek fun t ht => ?_
  cases k with
  | name id =>
    simp only [ht]
    exact decides_seesSecond_ne hk' hplain
  | _ =>
    simp only [ht]
    exact hplain

/-- A word between brackets. -/
private theorem decides_sliceItem (n : Nat) (w : String) {k : TokenKind} (hk : k = .symbol "," ∨ k = .symbol "]") :
    (Rules.sliceItem (ruleAt (n + 3))).Decides (wordKinds w (k :: kinds)) (k :: kinds) (isReadable w) Harmless := by
  have hstop : k.isStop := by rcases hk with rfl | rfl <;> rfl
  have hcolon : k ≠ .symbol ":" := by rcases hk with rfl | rfl <;> decide
  have hword := decides_word kinds n w hstop fun h => absurd h hcolon
  rcases wordKinds_cases w with ⟨k', hplain, hcons⟩ | ⟨hbad, hnil⟩
  · rw [hcons] at hword ⊢
    have hwalrus : k ≠ .symbol ":=" := by rcases hk with rfl | rfl <;> decide
    have hequals : k ≠ .symbol "=" := by rcases hk with rfl | rfl <;> decide
    have hexpression : (ruleAt (n + 3)).expression.Decides (k' :: k :: kinds) (k :: kinds) (isReadable w) (IsWordOf w) :=
      hword
    have hnamed := decides_namedRule hexpression hwalrus hstop hequals
    refine decides_here fun start => decides_sees_ne (hplain "*") (decides_sees_ne (hplain ":") ?_)
    have hsome : (some <$> Rules.namedRule (ruleAt (n + 3))).Decides (k' :: k :: kinds) (k :: kinds) (isReadable w)
        fun lower => ∃ e, lower = some e ∧ Harmless e :=
      Decides.map (g := some) (hnamed.mono fun e he => ⟨e, rfl, he.harmless⟩)
    refine (hsome.bind fun _ lower hlower => ?_).congr (by rw [and_true])
    obtain ⟨e, rfl, he⟩ := hlower
    exact decides_accept_ne hcolon (.pure he)
  · rw [hnil]
    exact (Decides.nil ⟨_, rfl⟩).congr (by simp [hbad])

/-- Words between brackets. -/
private theorem decides_slices (n : Nat) {first : String} {rest : List String} (hrest : rest.length < n) :
    (Rules.slices (ruleAt (n + 3))).Decides
      (wordKinds first (followers "," wordKinds rest (.symbol "]" :: kinds))) (.symbol "]" :: kinds)
      (∀ w ∈ first :: rest, isReadable w) Harmless := by
  have hstart : ∀ w ∈ rest, ∀ kinds', StartsItem (Rules.closes "]") (wordKinds w kinds') (isReadable w) := by
    intro w _ kinds'
    rcases wordKinds_cases w with ⟨k, hk, hcons⟩ | ⟨hbad, hnil⟩
    · rw [hcons]
      rintro t rfl
      exact beq_false_of_ne (hk "]")
    · rw [hnil]
      simp [StartsItem, hbad]
  have hitems : (separated (n + 3) "," (Rules.closes "]") (Rules.sliceItem (ruleAt (n + 3)))).Decides
      (wordKinds first (followers "," wordKinds rest (ending "," false (.symbol "]" :: kinds)))) (.symbol "]" :: kinds)
      (∀ w ∈ first :: rest, isReadable w)
      fun r => r.2 = false ∧ List.Forall₂ (fun _ e => Harmless e) (first :: rest) r.1 :=
    decides_separated (by decide) nofun (fun w _ k' _ hk' => decides_sliceItem n w hk') hstart (by omega)
  rcases wordKinds_cases first with ⟨k, -, hcons⟩ | ⟨hbad, hnil⟩
  · rw [hcons] at hitems ⊢
    refine decides_here fun start => (hitems.bind fun _ r hr => ?_).congr (by rw [and_true])
    obtain ⟨items, trailing⟩ := r
    obtain ⟨rfl, hitems⟩ := hr
    have hharmless : ∀ e ∈ items, Harmless e := by
      intro e he
      obtain ⟨_, -, he⟩ := exists_of_forall₂ hitems e he
      exact he
    match items with
    | [e] =>
      have he : Harmless e := hharmless e List.mem_cons_self
      dsimp only
      split
      · exact .pure (harmless_tuple start hharmless)
      · exact .pure he
    | [] => exact .pure (harmless_tuple start hharmless)
    | e :: e' :: items => exact .pure (harmless_tuple start hharmless)
  · rw [hnil]
    exact (Decides.nil ⟨_, rfl⟩).congr (by simp [hbad])

theorem decides_suffix_member (r : Rules) (start : Nat) (e : Expr) (m : String) :
    (Rules.suffix r start e).Decides (.symbol "." :: wordKinds m kinds) kinds (isName m)
      (· = (.attribute start e (Text.composed m), true)) := by
  refine decides_peek fun t ht => ?_
  simp only [ht]
  refine decides_next fun _ _ => ((decides_name _ m).bind fun _ id hid => ?_).congr (by rw [and_true])
  exact .pure (by rw [hid])

theorem decides_suffix_subscript (n start : Nat) (e : Expr) {first : String} {rest : List String} (hrest : rest.length < n) :
    (Rules.suffix (ruleAt (n + 3)) start e).Decides
      (.symbol "[" :: wordKinds first (followers "," wordKinds rest (.symbol "]" :: kinds))) kinds
      (∀ w ∈ first :: rest, isReadable w) fun x => x.2 = true ∧ ∃ index, Harmless index ∧ x.1 = .subscript start e index := by
  refine decides_peek fun t ht => ?_
  simp only [ht]
  refine decides_next fun _ _ => ((decides_slices n hrest).bind fun _ index hindex => ?_).congr (by rw [and_true])
  refine (decides_expect.bind fun _ _ _ => ?_).congr (and_self_iff (a := True))
  exact .pure ⟨rfl, index, hindex, rfl⟩

/-- An atom that is an operand by itself. -/
theorem decides_operand_atom (n : Nat) {k stop : TokenKind} {rest : List TokenKind} {good : Prop} {Q : Expr → Prop}
    (hstart : k.startsOperand) (hstop : stop.isStop)
    (h : (Rules.atom (ruleAt (n + 1))).Decides (k :: kinds) (stop :: rest) good Q) :
    (Rules.expressionRule (ruleAt (n + 1))).Decides (k :: kinds) (stop :: rest) good Q :=
  (Rules.passes_expressionRule (r := ruleAt (n + 1)) rfl (Nat.succ_pos n)).decides
    (decides_primary_atom rfl (Nat.succ_pos n) hstop h) hstart hstop

private theorem decides_member (n : Nat) {w m : String} (hw : isName w) (hm : isName m) {stop : TokenKind}
    (hstop : stop.isStop) :
    (Rules.expressionRule (ruleAt (n + 2))).Decides (wordKinds w (.symbol "." :: wordKinds m (stop :: kinds)))
      (stop :: kinds) True Harmless := by
  rw [wordKinds_of_isName hw]
  refine (Rules.passes_expressionRule (r := ruleAt (n + 2)) rfl (Nat.succ_pos _)).decides ?_ rfl hstop
  refine (decides_primary rfl (decides_atom_name _ _) ?_).congr (and_self_iff (a := True))
  rintro - start e ⟨line, rfl⟩
  refine (decides_iterate_more (stop :: kinds) Harmless ?_ ?_).congr (and_self_iff (a := True))
  · refine ((decides_suffix_member _ start _ m).congr (iff_true_intro hm)).mono ?_
    rintro x rfl
    exact ⟨rfl, harmless_attribute start (harmless_name line _) _⟩
  · intro _ e he
    exact decides_suffixes_none _ start n hstop he

private theorem decides_subscript (n : Nat) {w first : String} {rest : List String} (hw : isName w)
    (hrest : rest.length < n) {stop : TokenKind} (hstop : stop.isStop) :
    (Rules.expressionRule (ruleAt (n + 3))).Decides
      (wordKinds w (.symbol "[" :: wordKinds first (followers "," wordKinds rest (.symbol "]" :: stop :: kinds))))
      (stop :: kinds) (∀ w ∈ first :: rest, isReadable w) Harmless := by
  rw [wordKinds_of_isName hw]
  refine (Rules.passes_expressionRule (r := ruleAt (n + 3)) rfl (Nat.succ_pos _)).decides ?_ rfl hstop
  refine (decides_primary rfl (decides_atom_name _ _) ?_).congr (by rw [true_and])
  rintro - start e ⟨line, rfl⟩
  refine (decides_iterate_more (stop :: kinds) Harmless ?_ ?_).congr (by rw [and_true])
  · refine (decides_suffix_subscript n start _ hrest).mono ?_
    rintro ⟨e, more⟩ ⟨rfl, index, hindex, rfl⟩
    exact ⟨rfl, harmless_subscript start (harmless_name line _) hindex⟩
  · intro _ e he
    exact decides_suffixes_none _ start (n + 1) hstop he

/-- A number of few enough digits. -/
private theorem decides_atom_number (r : Rules) {i : Nat} (hi : i < 10 ^ maxDecimalDigits) :
    (Rules.atom r).Decides (.number (Nat.toDigits 10 i) :: kinds) kinds True Harmless := by
  obtain ⟨c, hc⟩ := numeral_toDigits hi
  refine decides_peek fun t ht => ?_
  simp only [ht, hc]
  exact decides_next fun _ _ => .pure (harmless_constant t.line c)

private theorem decides_negative (n : Nat) {i : Nat} (hi : i < 10 ^ maxDecimalDigits) {stop : TokenKind}
    (hstop : stop.isStop) :
    (Rules.expressionRule (ruleAt (n + 2))).Decides (.symbol "-" :: .number (Nat.toDigits 10 i) :: stop :: kinds)
      (stop :: kinds) True Harmless := by
  have hnumber : (ruleAt (n + 2)).factor.Decides (.number (Nat.toDigits 10 i) :: stop :: kinds) (stop :: kinds) True
      Harmless :=
    (Rules.passes_factorRule_primary (r := ruleAt (n + 1)) rfl).decides
      (decides_primary_atom rfl (Nat.succ_pos n) hstop (decides_atom_number _ hi)) rfl hstop
  refine (Rules.passes_above_factor (r := ruleAt (n + 2)) rfl (Nat.succ_pos _)).decides ?_ (by decide) hstop
  refine decides_peek fun t ht => ?_
  simp only [ht, Rules.signOperator]
  refine decides_next fun _ _ => (hnumber.bind fun _ e he => ?_).congr (and_self_iff (a := True))
  exact .pure (harmless_unary t.line .minus he)

private theorem decides_atom_empty (r : Rules) :
    (Rules.atom r).Decides (.symbol "[" :: .symbol "]" :: kinds) kinds True Harmless := by
  refine decides_peek fun t ht => ?_
  simp only [ht]
  refine decides_here fun start => (decides_expect.bind fun _ _ _ => ?_).congr (and_self_iff (a := True))
  exact decides_accept (.pure (harmless_list start nofun))

/-- No expression starts with an angle bracket. -/
private theorem decides_angle (n : Nat) (kinds rest : List TokenKind) {Q : Expr → Prop} :
    (Rules.expressionRule (ruleAt (n + 1))).Decides (.symbol "<" :: kinds) rest False Q := by
  refine .refused fun ts hts => ?_
  obtain ⟨t, ts', rfl, ht, -⟩ := kindsOf_eq_cons hts
  refine (Rules.passes_expressionRule (r := ruleAt (n + 1)) rfl (Nat.succ_pos n)).error t ts'
    (.unexpected t.line (ts'.length + 1)) (by rw [ht]; rfl) ?_
  simp [Rules.primary, Rules.atom, bind_apply, here, peek, ht, fail]

/-- An operand is an expression exactly if its words are names or words of constants, and if it is no state as
messages show it. -/
theorem decides_operand (n : Nat) {o : Operand} (ho : o.IsFit) {stop : TokenKind} (hstop : stop.isStop)
    (hcolon : stop = .symbol ":" → ∃ rest, kinds = .newline :: rest) :
    (Rules.expressionRule (ruleAt (n + 5))).Decides (o.kinds (stop :: kinds)) (stop :: kinds) o.isReadable Harmless := by
  cases o with
  | word w => exact (decides_word _ (n + 3) w hstop hcolon).mono fun e he => he.harmless
  | member w m => exact (decides_member (n + 3) ho.1 ho.2 hstop).congr (iff_of_true trivial rfl)
  | text s =>
    have hstring : ∀ s, stop ≠ .string s := by
      rintro s rfl
      cases hstop
    have hatom := decides_atom_string (r := ruleAt (n + 5)) kinds (Nat.succ_lt_succ (Nat.succ_pos _)) hstring
      (decodeLiteral_quotedToken s.toList)
    refine ((decides_operand_atom (n + 4) rfl hstop hatom).mono ?_).congr (iff_of_true trivial rfl)
    rintro e ⟨line, rfl⟩
    exact harmless_constant line _
  | int i =>
    rw [Operand.kinds]
    by_cases hi : i < 0
    · rw [if_pos hi]
      exact (decides_negative (n + 3) ho hstop).congr (iff_of_true trivial rfl)
    · rw [if_neg hi]
      exact (decides_operand_atom (n + 4) rfl hstop (decides_atom_number _ ho)).congr (iff_of_true trivial rfl)
  | subscript w first rest =>
    refine (decides_subscript (n + 2) ho.1 (Nat.lt_of_lt_of_le ho.2 (Nat.le_add_left 2 n)) hstop).congr ?_
    simp [Operand.isReadable]
  | empty =>
    exact (decides_operand_atom (n + 4) rfl hstop (decides_atom_empty _)).congr (iff_of_true trivial rfl)
  | state m => exact (decides_angle (n + 4) _ _).congr (iff_of_false id Bool.false_ne_true)

end Decides

end NavFactory.Source
