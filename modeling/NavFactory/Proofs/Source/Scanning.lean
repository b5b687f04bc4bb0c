import Mathlib.Data.Bool.AllAny
import Mathlib.Data.List.Basic
import NavFactory.Proofs.Encoding
import NavFactory.Source.Lexer

/-!
# Scans of pieces of text

`Scans p cs kinds` says that a scan at a place `p` reads tokens of certain kinds from a text and ends.  Each lemma
puts one piece in front of a text: a word, a symbol, a string, a line break or an indentation.  A malformed word ends
the scan, whatever follows it.  Only the kinds of tokens matter, not where they stand.
-/

namespace NavFactory.Source

/-! ### Where a scan stands -/

/-- What counts of the state of a scan: whether a line starts, the indentations and the brackets that are open,
innermost first. -/
structure Place where
  atLineStart : Bool
  widths : List Nat
  brackets : List Char

/-- Whether a scan stands at a place.  All indentations are made of spaces. -/
structure Scan.IsAt (s : Scan) (p : Place) : Prop where
  atLineStart_eq : s.atLineStart = p.atLineStart
  widths_eq : s.widths = p.widths.map fun w => ⟨w, w⟩
  brackets_eq : s.brackets.map (·.1) = p.brackets

/-- A bound for the steps that a scan still takes. -/
def Place.measure (p : Place) (cs : List Char) : Nat := 2 * cs.length + if p.atLineStart then 1 else 0

/-- Whether a text is free of the characters that do not reach the scan as they are. -/
def IsClean (cs : List Char) : Prop := ∀ c ∈ cs, c ≠ '\r' ∧ c ≠ '\x00'

theorem isClean_append {cs cs' : List Char} : IsClean (cs ++ cs') ↔ IsClean cs ∧ IsClean cs' :=
  List.forall_mem_append

/-- Whether a scan from a place of a text reads tokens of certain kinds and ends behind them. -/
structure Scans (p : Place) (cs : List Char) (kinds : List TokenKind) : Prop where
  plain : IsClean cs
  run : ∀ s : Scan, s.IsAt p → ∃ (finish : LexEnd) (n : Nat) (tokens : List Token),
    tokens.map (·.kind) = kinds ∧ n ≤ p.measure cs + 1 ∧
      ∀ fuel read, scan (n + fuel) s read cs = ((tokens.reverse ++ read).reverse, finish)

/-- A step that reads a piece of text, in front of a scan of what follows. -/
theorem Scans.step {p p' : Place} (piece : List Char) {cs : List Char} (new : List TokenKind) {kinds : List TokenKind}
    (h : Scans p' cs kinds) (hplain : IsClean piece) (hlt : p'.measure cs < p.measure (piece ++ cs))
    (hstep : ∀ s : Scan, s.IsAt p → ∃ tokens s', scanStep s (piece ++ cs) = (tokens, .inr (s', cs)) ∧ s'.IsAt p' ∧
      tokens.map (·.kind) = new) : Scans p (piece ++ cs) (new ++ kinds) := by
  refine ⟨isClean_append.2 ⟨hplain, h.plain⟩, fun s hs => ?_⟩
  obtain ⟨tokens, s', hs', hat, hnew⟩ := hstep s hs
  obtain ⟨finish, n, tokens', hkinds, hn, hscan⟩ := h.run s' hat
  refine ⟨finish, n + 1, tokens ++ tokens', by rw [List.map_append, hnew, hkinds], by omega, fun fuel read => ?_⟩
  have hfuel : n + 1 + fuel = n + fuel + 1 := by omega
  rw [hfuel, scan, hs']
  dsimp only
  rw [hscan]
  simp only [List.reverse_append, List.append_assoc]

/-- A step that ends a scan. -/
theorem Scans.last {p : Place} {cs : List Char} {kinds : List TokenKind} (hplain : IsClean cs)
    (hstep : ∀ s : Scan, s.IsAt p → ∃ tokens finish, scanStep s cs = (tokens, .inl finish) ∧
      tokens.map (·.kind) = kinds) : Scans p cs kinds := by
  refine ⟨hplain, fun s hs => ?_⟩
  obtain ⟨tokens, finish, hs', hkinds⟩ := hstep s hs
  refine ⟨finish, 1, tokens, hkinds, by omega, fun fuel read => ?_⟩
  rw [Nat.add_comm, scan, hs']

/-- The place at the start of a text. -/
def Place.start : Place := ⟨true, [0], []⟩

/-- The tokens of a text that ends with a line break are those that a scan from its start reads. -/
theorem kinds_tokenize {cs : List Char} {kinds : List TokenKind} (h : Scans .start (cs ++ ['\n']) kinds) :
    ((tokenize (cs ++ ['\n'])).1.map (·.kind)) = kinds := by
  have hbreak : withFinalBreak (cs ++ ['\n']) = cs ++ ['\n'] := by
    have hreturn : '\r' ∉ cs ++ ['\n'] := fun hmem => (h.plain _ hmem).1 rfl
    simp [withFinalBreak, Text.normalizeBreaks_of_not_mem hreturn]
  obtain ⟨finish, n, tokens, hkinds, hn, hscan⟩ := h.run {} ⟨rfl, rfl, rfl⟩
  have hmeasure : Place.start.measure (cs ++ ['\n']) = 2 * (cs ++ ['\n']).length + 1 := rfl
  rw [hmeasure] at hn
  obtain ⟨fuel, hfuel⟩ := Nat.exists_eq_add_of_le hn
  have hrun : tokenize (cs ++ ['\n']) = (tokens, finish) := by
    unfold tokenize
    rw [hbreak]
    change scan (2 * (cs ++ ['\n']).length + 1 + 1) {} [] (cs ++ ['\n']) = _
    rw [hfuel, hscan, List.append_nil, List.reverse_reverse]
  rw [hrun, hkinds]

/-! ### Pieces inside a line -/

/-- The kind of the token that a word is, if it is one. -/
def wordKind (w : String) : Option TokenKind :=
  if Text.isReserved w then some (.keyword w)
  else if Text.isIdentifier w then some (.name (Text.composed w))
  else none

/-- The kinds of tokens from a word on; a malformed word is the end. -/
def wordKinds (w : String) (kinds : List TokenKind) : List TokenKind :=
  match wordKind w with
  | some kind => kind :: kinds
  | none => []

/-- Whether characters form a word, be it malformed. -/
structure IsWord (w : List Char) : Prop where
  start : ∃ c rest, w = c :: rest ∧ isNameStart c
  parts : ∀ c ∈ w, isNamePart c

/-- Words that are written out are words. -/
theorem isWord_literal {w : String} (h : w.toList.all isNamePart && w.toList.head?.any isNameStart) :
    IsWord w.toList := by
  rw [Bool.and_eq_true, List.all_eq_true] at h
  refine ⟨?_, h.1⟩
  cases hw : w.toList with
  | nil => simp [hw] at h
  | cons c rest => exact ⟨c, rest, rfl, by simpa [hw] using h.2⟩

/-- Whether a character may follow a word. -/
def endsWord (c : Char) : Bool := !isNamePart c && !isQuote c

/-! ### Words -/

theorem ne_of_isNamePart {c d : Char} (hc : isNamePart c) (hd : isNamePart d = false) : c ≠ d := by
  rintro rfl
  rw [hc] at hd
  cases hd

private theorem not_isQuote_of_isNamePart {c : Char} (hc : isNamePart c) : isQuote c = false := by
  have h : c ≠ '"' := ne_of_isNamePart hc (by decide)
  have h' : c ≠ '\'' := ne_of_isNamePart hc (by decide)
  simp [isQuote, h, h']

private theorem stringLetter_of_not_isNamePart (literal : StringToken) {d : Char} (hd : isNamePart d = false) :
    stringLetter d literal = none := by
  have hletters : ∀ c ∈ ['b', 'B', 'u', 'U', 'r', 'R', 'f', 'F'], isNamePart c :=
    List.all_iff_forall_prop.1 (by decide)
  have hne : ∀ c ∈ ['b', 'B', 'u', 'U', 'r', 'R', 'f', 'F'], d ≠ c := fun c hc =>
    (ne_of_isNamePart (hletters c hc) hd).symm
  simp only [List.forall_mem_cons, List.not_mem_nil] at hne
  simp [stringLetter, hne]

section Pieces

variable {ws : List Nat} {bs : List Char} {cs : List Char} {kinds : List TokenKind}

/-- No string starts with a word. -/
private theorem stringStart_word (literal : StringToken) {w : List Char} {d : Char} (hw : ∀ c ∈ w, isNamePart c)
    (hd : endsWord d) : stringStart literal (w ++ d :: cs) = none := by
  simp only [endsWord, Bool.and_eq_true, Bool.not_eq_true'] at hd
  induction w generalizing literal with
  | nil => simp [stringStart, hd.2, stringLetter_of_not_isNamePart literal hd.1]
  | cons c rest ih =>
    have hrest : ∀ literal, stringStart literal (rest ++ d :: cs) = none :=
      fun literal => ih literal fun e he => hw e (List.mem_cons_of_mem c he)
    rw [List.cons_append, stringStart, not_isQuote_of_isNamePart (hw c List.mem_cons_self)]
    cases stringLetter c literal with
    | none => rfl
    | some literal' => exact hrest literal'

/-- A blank between two tokens. -/
theorem Scans.blank (h : Scans ⟨false, ws, bs⟩ cs kinds) : Scans ⟨false, ws, bs⟩ (' ' :: cs) kinds := by
  refine Scans.step [' '] [] h (by simp [IsClean]) (by simp [Place.measure]) fun s hs => ?_
  refine ⟨[], s, ?_, hs, rfl⟩
  simp [scanStep, hs.atLineStart_eq]

private theorem isPlain_word {w : List Char} (hw : IsWord w) : IsClean w := fun c hc =>
  ⟨ne_of_isNamePart (hw.parts c hc) (by decide), ne_of_isNamePart (hw.parts c hc) (by decide)⟩

private theorem takeWhile_word {w : List Char} {d : Char} (hw : IsWord w) (hd : endsWord d) :
    (w ++ d :: cs).takeWhile isNamePart = w := by
  simp only [endsWord, Bool.and_eq_true, Bool.not_eq_true'] at hd
  rw [List.takeWhile_append_of_pos hw.parts]
  simp [hd.1]

private theorem dropWhile_word {w : List Char} {d : Char} (hw : IsWord w) (hd : endsWord d) :
    (w ++ d :: cs).dropWhile isNamePart = d :: cs := by
  simp only [endsWord, Bool.and_eq_true, Bool.not_eq_true'] at hd
  rw [List.dropWhile_append_of_pos hw.parts]
  simp [hd.1]

/-- The step that reads a word. -/
private theorem scanStep_word {s : Scan} {w : List Char} {d : Char} (hs : s.atLineStart = false) (hw : IsWord w)
    (hd : endsWord d) :
    scanStep s (w ++ d :: cs) = match wordKind (String.ofList w) with
      | some kind => ([⟨kind, s.line, s.brackets.length⟩], .inr (s, d :: cs))
      | none => ([], .inl (.malformed s.line)) := by
  have hstring : stringStart { body := [] } (w ++ d :: cs) = none := stringStart_word _ hw.parts hd
  have htake : (w ++ d :: cs).takeWhile isNamePart = w := takeWhile_word hw hd
  have hdrop : (w ++ d :: cs).dropWhile isNamePart = d :: cs := dropWhile_word hw hd
  obtain ⟨c, rest, rfl, hc⟩ := hw.start
  have hpart : isNamePart c := hw.parts c List.mem_cons_self
  have hother : ∀ e ∈ [' ', '\t', '\x0c', '#', '\n', '\\'], isNamePart e = false := List.all_iff_forall_prop.1 (by decide)
  have hne : ∀ e ∈ [' ', '\t', '\x0c', '#', '\n', '\\'], c ≠ e := fun e he => ne_of_isNamePart hpart (hother e he)
  simp only [List.forall_mem_cons] at hne
  obtain ⟨hspace, htab, hfeed, hhash, hbreak, hslash, -⟩ := hne
  rw [List.cons_append] at *
  simp only [scanStep, hs, hstring, htake, hdrop, hc, beq_iff_eq, hhash, hbreak, hslash, Bool.false_eq_true, if_false,
    if_true, Bool.or_false, wordKind, Text.isIdentifier, String.toList_ofList, beq_eq_false_iff_ne.2 hspace,
    beq_eq_false_iff_ne.2 htab, beq_eq_false_iff_ne.2 hfeed]
  split
  · rfl
  · split <;> rfl

/-- A word in front of a character that is no part of it. -/
theorem Scans.word {w : String} {d : Char} (hw : IsWord w.toList) (hd : endsWord d)
    (h : Scans ⟨false, ws, bs⟩ (d :: cs) kinds) : Scans ⟨false, ws, bs⟩ (w.toList ++ d :: cs) (wordKinds w kinds) := by
  cases hkind : wordKind w with
  | none =>
    rw [wordKinds, hkind]
    refine Scans.last (isClean_append.2 ⟨isPlain_word hw, h.plain⟩) fun s hs => ?_
    exact ⟨[], _, by rw [scanStep_word hs.atLineStart_eq hw hd, String.ofList_toList, hkind], rfl⟩
  | some kind =>
    rw [wordKinds, hkind]
    have hpos : 0 < w.toList.length := by
      obtain ⟨c, rest, hc, -⟩ := hw.start
      rw [hc]
      exact Nat.succ_pos _
    refine Scans.step _ [kind] h (isPlain_word hw) ?_ fun s hs => ?_
    · simp only [Place.measure, List.length_append]
      omega
    · exact ⟨_, s, by rw [scanStep_word hs.atLineStart_eq hw hd, String.ofList_toList, hkind], hs, rfl⟩

/-! ### Symbols -/

/-- Whether a character is a symbol by itself in front of another. -/
def isLone (c d : Char) : Bool := longSymbols.all fun symbol => symbol.take 2 != [c, d]

private theorem afterStart_none {symbol : List Char} {c d : Char} (hlength : 2 ≤ symbol.length)
    (hne : symbol.take 2 ≠ [c, d]) : afterStart symbol (c :: d :: cs) = none := by
  match symbol, hlength with
  | a :: b :: rest, _ =>
    by_cases ha : a = c
    · by_cases hb : b = d
      · subst ha hb
        exact absurd rfl hne
      · simp [afterStart, hb]
    · simp [afterStart, ha]

private theorem takeLongSymbol_none {c d : Char} (h : isLone c d) : takeLongSymbol (c :: d :: cs) = none := by
  have hlength : ∀ symbol ∈ longSymbols, 2 ≤ symbol.length := by decide
  rw [takeLongSymbol, List.findSome?_eq_none_iff]
  intro symbol hmem
  have hne : symbol.take 2 ≠ [c, d] := by simpa using List.all_eq_true.1 h symbol hmem
  rw [afterStart_none (hlength symbol hmem) hne, Option.map_none]

/-- No long symbol goes on with a part of a name. -/
theorem isLone_of_isNamePart (c : Char) {d : Char} (hd : isNamePart d) : isLone c d := by
  have hsecond : ∀ symbol ∈ longSymbols, symbol[1]?.any isNamePart = false := by decide
  refine List.all_eq_true.2 fun symbol hmem => bne_iff_ne.2 fun htake => ?_
  have hget : symbol[1]? = some d := by
    have hone : (symbol.take 2)[1]? = symbol[1]? := List.getElem?_take_of_lt (by omega)
    rw [← hone, htake]
    rfl
  have hnone := hsecond symbol hmem
  rw [hget, Option.any_some, hd] at hnone
  cases hnone

/-- What no symbol is the start of. -/
private structure IsMark (c : Char) : Prop where
  plain : c ≠ '\r' ∧ c ≠ '\x00'
  layout : (c == ' ' || c == '\t' || c == '\x0c') = false ∧ (c == '#') = false ∧ (c == '\n') = false ∧ (c == '\\') = false
  string : isQuote c = false ∧ stringLetter c { body := [] } = none
  word : isNameStart c = false
  number : c.isDigit = false

/-- The symbols that neither open nor close anything. -/
def plainSymbols : List Char := [':', ',', '.', '=', '-', '@', '*', '<', '>']

private theorem isMark_of_mem {c : Char} (hc : c ∈ plainSymbols ++ ['(', '[', ')', ']']) : IsMark c := by
  have hall : ∀ c ∈ plainSymbols ++ ['(', '[', ')', ']'],
      (c ≠ '\r' ∧ c ≠ '\x00') ∧
        ((c == ' ' || c == '\t' || c == '\x0c') = false ∧ (c == '#') = false ∧ (c == '\n') = false ∧
          (c == '\\') = false) ∧
        (isQuote c = false ∧ stringLetter c { body := [] } = none) ∧ isNameStart c = false ∧ c.isDigit = false :=
    List.all_iff_forall_prop.1 (by decide)
  obtain ⟨h1, h2, h3, h4, h5⟩ := hall c hc
  exact ⟨h1, h2, h3, h4, h5⟩

theorem Scans.symbol {c d : Char} (hc : c ∈ plainSymbols) (hd : isLone c d) (hdot : c = '.' → d.isDigit = false)
    (h : Scans ⟨false, ws, bs⟩ (d :: cs) kinds) :
    Scans ⟨false, ws, bs⟩ (c :: d :: cs) (.symbol (String.singleton c) :: kinds) := by
  have hlong : takeLongSymbol (c :: d :: cs) = none := takeLongSymbol_none hd
  have hpoint : (c == '.' && d.isDigit) = false := by
    by_cases hc' : c = '.'
    · simp [hdot hc']
    · simp [hc']
  have hmark := isMark_of_mem (List.mem_append_left _ hc)
  have hall : ∀ c ∈ plainSymbols, isClosing c = false ∧ Text.isPrintable c ∧ closingBracket c = none :=
    List.all_iff_forall_prop.1 (by decide)
  obtain ⟨hclosing, hprintable, hbracket⟩ := hall c hc
  refine Scans.step [c] [_] h (by simpa [IsClean] using hmark.plain)
    (by simp [Place.measure]) fun s hs => ⟨[⟨.symbol (String.singleton c), s.line, s.brackets.length⟩], s, ?_, hs, rfl⟩
  simp [scanStep, hs.atLineStart_eq, stringStart, hmark.layout, hmark.string, hmark.word, hmark.number, hpoint, hlong,
    hclosing, hprintable, hbracket]

/-- The arrow in front of the type of a result. -/
theorem Scans.arrow (h : Scans ⟨false, ws, bs⟩ cs kinds) :
    Scans ⟨false, ws, bs⟩ ('-' :: '>' :: cs) (.symbol "->" :: kinds) := by
  have hlong : takeLongSymbol ('-' :: '>' :: cs) = some (['-', '>'], cs) := by
    simp [takeLongSymbol, longSymbols, afterStart]
  have hmark : IsMark '-' := isMark_of_mem (by decide)
  refine Scans.step ['-', '>'] [_] h (by simp [IsClean])
    (by simp only [Place.measure, List.length_append, List.length_cons]; omega)
    fun s hs => ⟨[⟨.symbol "->", s.line, s.brackets.length⟩], s, ?_, hs, rfl⟩
  simp [scanStep, hs.atLineStart_eq, stringStart, hmark.layout, hmark.string, hmark.word, hmark.number, hlong]

private theorem takeLongSymbol_bracket {c : Char} (hc : c ∈ ['(', '[', ')', ']']) : takeLongSymbol (c :: cs) = none := by
  have hhead : ∀ c ∈ ['(', '[', ')', ']'], ∀ symbol ∈ longSymbols, symbol.head? ≠ some c :=
    List.all_iff_forall_prop.1 (by decide)
  rw [takeLongSymbol, List.findSome?_eq_none_iff]
  intro symbol hmem
  have hnil : [] ∉ longSymbols := by decide
  match symbol, hhead c hc symbol hmem with
  | [], _ => exact absurd hmem hnil
  | a :: rest, hne =>
    have ha : a ≠ c := fun h => hne (by rw [h]; rfl)
    simp [afterStart, ha]

/-- A bracket that opens. -/
theorem Scans.opens {c closing : Char} (hc : c ∈ ['(', '[']) (hclosing : closingBracket c = some closing)
    (hlength : bs.length < 200) (h : Scans ⟨false, ws, closing :: bs⟩ cs kinds) :
    Scans ⟨false, ws, bs⟩ (c :: cs) (.symbol (String.singleton c) :: kinds) := by
  have hmem : c ∈ ['(', '[', ')', ']'] := List.mem_append_left [')', ']'] hc
  have hmark := isMark_of_mem (List.mem_append_right plainSymbols hmem)
  have hlong : takeLongSymbol (c :: cs) = none := takeLongSymbol_bracket hmem
  have hpoint : ∀ c ∈ ['(', '['], (c == '.') = false := List.all_iff_forall_prop.1 (by decide)
  refine Scans.step [c] [_] h (by simpa [IsClean] using hmark.plain) (by simp [Place.measure])
    fun s hs => ⟨[⟨.symbol (String.singleton c), s.line, s.brackets.length + 1⟩],
      { s with brackets := (closing, s.line) :: s.brackets }, ?_,
      ⟨hs.atLineStart_eq, hs.widths_eq, by simp [hs.brackets_eq]⟩, rfl⟩
  have hdepth : ¬200 ≤ s.brackets.length := by
    rw [← List.length_map (·.1), hs.brackets_eq]
    exact Nat.not_le.2 hlength
  simp [scanStep, hs.atLineStart_eq, stringStart, hmark.layout, hmark.string, hmark.word, hmark.number, hlong,
    hclosing, hpoint c hc, hdepth]

/-- The bracket that closes the innermost open one. -/
theorem Scans.closes {c : Char} (hc : c ∈ [')', ']']) (h : Scans ⟨false, ws, bs⟩ cs kinds) :
    Scans ⟨false, ws, c :: bs⟩ (c :: cs) (.symbol (String.singleton c) :: kinds) := by
  have hmem : c ∈ ['(', '[', ')', ']'] := List.mem_append_right ['(', '['] hc
  have hmark := isMark_of_mem (List.mem_append_right plainSymbols hmem)
  have hlong : takeLongSymbol (c :: cs) = none := takeLongSymbol_bracket hmem
  have hall : ∀ c ∈ [')', ']'], isClosing c ∧ closingBracket c = none ∧ (c == '.') = false :=
    List.all_iff_forall_prop.1 (by decide)
  obtain ⟨hclosing, hbracket, hpoint⟩ := hall c hc
  refine Scans.step [c] [.symbol (String.singleton c)] h (by simpa [IsClean] using hmark.plain)
    (by simp [Place.measure]) fun s hs => ?_
  obtain ⟨⟨e, line⟩, outer, hbrackets, he, houter⟩ := List.map_eq_cons_iff.1 hs.brackets_eq
  dsimp only at he
  subst he
  refine ⟨[⟨.symbol (String.singleton e), s.line, outer.length⟩], { s with brackets := outer }, ?_,
    ⟨hs.atLineStart_eq, hs.widths_eq, houter⟩, rfl⟩
  simp [scanStep, hs.atLineStart_eq, stringStart, hmark.layout, hmark.string, hmark.word, hmark.number, hlong,
    hclosing, hpoint, hbracket, hbrackets]

/-! ### Literals -/

/-- A string without letters in front of it. -/
theorem Scans.string (quoted : List Char) {body : List Char} (hquote : ∃ c rest, quoted = c :: rest ∧ isQuote c)
    (hplain : IsClean quoted) (hopen : openString (quoted ++ cs) = some (body, cs))
    (h : Scans ⟨false, ws, bs⟩ cs kinds) :
    Scans ⟨false, ws, bs⟩ (quoted ++ cs) (.string { body := body } :: kinds) := by
  obtain ⟨c, rest, rfl, hc⟩ := hquote
  have hlayout : (c == ' ' || c == '\t' || c == '\x0c') = false ∧ (c == '#') = false ∧ (c == '\n') = false ∧
      (c == '\\') = false := by
    simp only [isQuote, Bool.or_eq_true, beq_iff_eq] at hc
    rcases hc with rfl | rfl <;> decide
  refine Scans.step _ [.string { body := body }] h hplain ?_ fun s hs => ?_
  · simp only [Place.measure, List.length_append, List.length_cons]
    omega
  · refine ⟨[⟨.string { body := body }, s.line, s.brackets.length⟩], { s with line := s.line + lineBreaks body }, ?_,
      ⟨hs.atLineStart_eq, hs.widths_eq, hs.brackets_eq⟩, rfl⟩
    rw [List.cons_append] at hopen ⊢
    simp [scanStep, hs.atLineStart_eq, stringStart, hc, hlayout, hopen]

private theorem not_isNameStart_of_isDigit {c : Char} (hc : c.isDigit) : isNameStart c = false := by
  have hunderscore : (c == '_') = false := by
    refine beq_eq_false_iff_ne.2 ?_
    rintro rfl
    exact absurd hc (by decide)
  have hvalue : 48 ≤ c.toNat ∧ c.toNat ≤ 57 := Char.isDigit_iff_toNat.1 hc
  have hupper : c.isUpper = false := Bool.eq_false_iff.2 fun h => by
    have hfrom := UInt32.le_iff_toNat_le.1 (of_decide_eq_true h).1
    change 65 ≤ c.toNat at hfrom
    omega
  have hlower : c.isLower = false := Bool.eq_false_iff.2 fun h => by
    have hfrom := UInt32.le_iff_toNat_le.1 (of_decide_eq_true (Bool.and_eq_true_iff.1 h).1)
    change 97 ≤ c.toNat at hfrom
    omega
  have hascii : decide (0x80 ≤ c.toNat) = false := decide_eq_false (by omega)
  change (c.isUpper || c.isLower || c == '_' || decide (0x80 ≤ c.toNat)) = false
  rw [hupper, hlower, hunderscore, hascii]
  rfl

/-- A symbol in front of a word. -/
theorem Scans.symbolWord {c : Char} (hc : c ∈ plainSymbols) {w rest : List Char} (hw : IsWord w)
    (h : Scans ⟨false, ws, bs⟩ (w ++ rest) kinds) :
    Scans ⟨false, ws, bs⟩ (c :: (w ++ rest)) (.symbol (String.singleton c) :: kinds) := by
  obtain ⟨d, tail, rfl, hd⟩ := hw.start
  have hdigit : d.isDigit = false := by
    cases hdigit : d.isDigit with
    | false => rfl
    | true =>
      rw [not_isNameStart_of_isDigit hdigit] at hd
      cases hd
  exact Scans.symbol hc (isLone_of_isNamePart c (hw.parts d List.mem_cons_self)) (fun _ => hdigit) h

/-- A dot in front of a word. -/
theorem Scans.dot {w rest : List Char} (hw : IsWord w) (h : Scans ⟨false, ws, bs⟩ (w ++ rest) kinds) :
    Scans ⟨false, ws, bs⟩ ('.' :: (w ++ rest)) (.symbol "." :: kinds) := h.symbolWord (by decide) hw

/-- A number that starts with a digit. -/
theorem Scans.number {digits : List Char} (hdigits : ∃ c rest, digits = c :: rest ∧ c.isDigit) (hplain : IsClean digits)
    (htake : takeNumber (digits ++ cs) = some (digits, cs)) (h : Scans ⟨false, ws, bs⟩ cs kinds) :
    Scans ⟨false, ws, bs⟩ (digits ++ cs) (.number digits :: kinds) := by
  obtain ⟨c, rest, rfl, hc⟩ := hdigits
  refine Scans.step _ [.number (c :: rest)] h hplain ?_ fun s hs => ?_
  · simp only [Place.measure, List.length_append, List.length_cons]
    omega
  · refine ⟨[⟨.number (c :: rest), s.line, s.brackets.length⟩], s, ?_, hs, rfl⟩
    have hother : ∀ d ∈ [' ', '\t', '\x0c', '#', '\n', '\\', '"', '\'', '.', 'b', 'B', 'u', 'U', 'r', 'R', 'f', 'F'],
        d.isDigit = false := List.all_iff_forall_prop.1 (by decide)
    have hall : ∀ d ∈ [' ', '\t', '\x0c', '#', '\n', '\\', '"', '\'', '.', 'b', 'B', 'u', 'U', 'r', 'R', 'f', 'F'],
        c ≠ d := by
      rintro d hd rfl
      have hdigit := hother c hd
      rw [hc] at hdigit
      cases hdigit
    simp only [List.forall_mem_cons] at hall
    rw [List.cons_append] at htake ⊢
    simp [scanStep, hs.atLineStart_eq, stringStart, isQuote, stringLetter, hall, not_isNameStart_of_isDigit hc, hc,
      htake]

/-! ### Lines -/

/-- A line break behind a statement. -/
theorem Scans.lineBreak (h : Scans ⟨true, ws, []⟩ cs kinds) :
    Scans ⟨false, ws, []⟩ ('\n' :: cs) (.newline :: kinds) := by
  refine Scans.step ['\n'] [.newline] h (by simp [IsClean]) (by simp [Place.measure]; omega)
    fun s hs => ⟨[⟨.newline, s.line, 0⟩], { s with line := s.line + 1, atLineStart := true }, ?_,
      ⟨rfl, hs.widths_eq, hs.brackets_eq⟩, rfl⟩
  have hbrackets : s.brackets = [] := List.map_eq_nil_iff.1 hs.brackets_eq
  simp [scanStep, hs.atLineStart_eq, hbrackets]

/-- A line break inside brackets. -/
theorem Scans.innerBreak {b : Char} (h : Scans ⟨true, ws, b :: bs⟩ cs kinds) :
    Scans ⟨false, ws, b :: bs⟩ ('\n' :: cs) kinds := by
  refine Scans.step ['\n'] [] h (by simp [IsClean]) (by simp [Place.measure]; omega)
    fun s hs => ⟨[], { s with line := s.line + 1, atLineStart := true }, ?_, ⟨rfl, hs.widths_eq, hs.brackets_eq⟩, rfl⟩
  have hbrackets : s.brackets ≠ [] := by
    intro hnil
    have := hs.brackets_eq
    simp [hnil] at this
  simp [scanStep, hs.atLineStart_eq, hbrackets]

/-- A line that holds nothing. -/
theorem Scans.blankLine (h : Scans ⟨true, ws, []⟩ cs kinds) : Scans ⟨true, ws, []⟩ ('\n' :: cs) kinds := by
  refine Scans.step ['\n'] [] h (by simp [IsClean]) (by simp [Place.measure]) fun s hs =>
    ⟨[], { s with line := s.line + 1 }, ?_, ⟨hs.atLineStart_eq, hs.widths_eq, hs.brackets_eq⟩, rfl⟩
  have hbrackets : s.brackets = [] := List.map_eq_nil_iff.1 hs.brackets_eq
  simp [scanStep, hs.atLineStart_eq, hbrackets, lineStart]

/-- A line that holds a comment only. -/
theorem Scans.comment {text : List Char} (htext : IsClean text) (hbreak : '\n' ∉ text)
    (h : Scans ⟨true, ws, []⟩ cs kinds) : Scans ⟨true, ws, []⟩ ('#' :: text ++ '\n' :: cs) kinds := by
  have hpiece : '#' :: text ++ '\n' :: cs = ('#' :: text ++ ['\n']) ++ cs := by simp
  rw [hpiece]
  refine Scans.step _ [] h ?_ (by simp [Place.measure]; omega) fun s hs =>
    ⟨[], { s with line := s.line + 1 }, ?_, ⟨hs.atLineStart_eq, hs.widths_eq, hs.brackets_eq⟩, rfl⟩
  · simpa [IsClean, or_imp, forall_and] using htext
  · have hbrackets : s.brackets = [] := List.map_eq_nil_iff.1 hs.brackets_eq
    have hdrop : (text ++ '\n' :: cs).dropWhile (· != '\n') = '\n' :: cs := by
      have htext' : ∀ c ∈ text, (c != '\n') = true := by
        intro c hc
        refine bne_iff_ne.2 ?_
        rintro rfl
        exact hbreak hc
      rw [List.dropWhile_append_of_pos htext']
      simp
    simp [scanStep, hs.atLineStart_eq, hbrackets, lineStart, hdrop]

/-- Whether a line that starts with a character has layout. -/
def opensLine (c : Char) : Bool := !([' ', '\t', '\x0c', '\\', '#', '\n'].contains c)

private theorem lineStart_replicate (line k : Nat) (width : Width) {rest : List Char}
    (hrest : ∀ c ∈ rest.head?, opensLine c) :
    lineStart line 0 width (List.replicate k ' ' ++ rest) =
      .content ⟨width.wide + k, width.narrow + k⟩ line rest := by
  induction k generalizing width with
  | zero =>
    match rest, hrest with
    | [], _ => simp [lineStart]
    | c :: rest, hrest =>
      have hc := hrest c rfl
      simp only [opensLine, List.contains_eq_mem, List.mem_cons, List.not_mem_nil, or_false, Bool.not_eq_true',
        decide_eq_false_iff_not, not_or] at hc
      simp [lineStart, hc]
  | succ k ih =>
    rw [List.replicate_succ, List.cons_append, lineStart, ih]
    simp only [LineStart.content.injEq, Width.mk.injEq, and_true]
    omega

/-- A line that is indented by blanks and has layout: tokens that stand for the change of the indentation. -/
theorem Scans.line {k : Nat} {ws' : List Nat} {new : List TokenKind} (hcs : ∀ c ∈ cs.head?, opensLine c)
    (hlayout : ∀ line, ∃ tokens, layout ⟨k, k⟩ line (ws.map fun w => ⟨w, w⟩) =
      some (tokens, ws'.map fun w => ⟨w, w⟩) ∧ tokens.map (·.kind) = new)
    (h : Scans ⟨false, ws', []⟩ cs kinds) :
    Scans ⟨true, ws, []⟩ (List.replicate k ' ' ++ cs) (new ++ kinds) := by
  refine Scans.step _ new h (by simp [IsClean, List.mem_replicate])
    (by simp only [Place.measure, List.length_append, Bool.false_eq_true, if_true, if_false]; omega) fun s hs => ?_
  have hbrackets : s.brackets = [] := List.map_eq_nil_iff.1 hs.brackets_eq
  obtain ⟨tokens, htokens, hnew⟩ := hlayout (if cs.isEmpty then s.line - 1 else s.line)
  refine ⟨tokens, { s with
    line := if cs.isEmpty then s.line - 1 else s.line, atLineStart := false, widths := ws'.map fun w => ⟨w, w⟩ }, ?_,
    ⟨rfl, rfl, hs.brackets_eq⟩, hnew⟩
  unfold scanStep
  simp only [hs.atLineStart_eq, lineStart_replicate s.line k ⟨0, 0⟩ hcs, hbrackets, hs.widths_eq, htokens, if_true,
    Nat.zero_add, List.length_nil, ne_eq, not_true_eq_false, if_false]
  cases cs with
  | nil => rfl
  | cons c rest =>
    have hc := hcs c rfl
    simp only [opensLine, List.contains_eq_mem, List.mem_cons, List.not_mem_nil, or_false, Bool.not_eq_true',
      decide_eq_false_iff_not, not_or] at hc
    simp [hc]

/-- A line inside brackets, indented by blanks. -/
theorem Scans.innerLine {k : Nat} {b : Char} (hcs : ∀ c ∈ cs.head?, opensLine c)
    (h : Scans ⟨false, ws, b :: bs⟩ cs kinds) : Scans ⟨true, ws, b :: bs⟩ (List.replicate k ' ' ++ cs) kinds := by
  refine Scans.step _ [] h (by simp [IsClean, List.mem_replicate])
    (by simp only [Place.measure, List.length_append, Bool.false_eq_true, if_true, if_false]; omega) fun s hs => ?_
  have hdepth : s.brackets.length ≠ 0 := by
    rw [← List.length_map (·.1), hs.brackets_eq]
    simp
  refine ⟨[], { s with line := if cs.isEmpty then s.line - 1 else s.line, atLineStart := false }, ?_,
    ⟨rfl, hs.widths_eq, hs.brackets_eq⟩, rfl⟩
  unfold scanStep
  simp only [hs.atLineStart_eq, lineStart_replicate s.line k ⟨0, 0⟩ hcs, hdepth, if_true, ne_eq, not_false_iff]

/-- The end of a text. -/
theorem Scans.finish : Scans ⟨false, ws, []⟩ [] [.finish] := by
  refine Scans.last (by simp [IsClean]) fun s hs => ⟨[⟨.finish, s.line, s.brackets.length⟩], .complete, ?_, rfl⟩
  have hbrackets : s.brackets = [] := List.map_eq_nil_iff.1 hs.brackets_eq
  simp [scanStep, hs.atLineStart_eq, Scan.opened?, hbrackets]

end Pieces

end NavFactory.Source
