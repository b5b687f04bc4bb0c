import Mathlib.Algebra.GroupWithZero.Nat
import Mathlib.Data.List.Basic
import NavFactory.Source.Grammar.Interpolation
import NavFactory.Text.Quoted

/-!
# Quoted texts

Every character of a quoted text is printable, so that none of them breaks a line, and the quote stands only at its
ends or behind a backslash.  Wherever a quoted text stands in a line, it is cut as one string (`scanStep_quoteChars`),
and the escapes of this string give the characters of the text back (`decodeLiteral_flatMap_quoteChar`).
-/

namespace NavFactory.Source

open Text (quoteChar quoteChars chooseQuote hexDigit hexDigits escapeCode isPrintable isLineBreak)

/-! ### Hexadecimal escapes -/

private theorem hexDigit_spec : ∀ d < 16, isHex (hexDigit d) ∧ digitValue (hexDigit d) = d := by decide

private theorem takeHex_add (first second n : Nat) (cs : List Char) :
    takeHex (first + second) n cs = (takeHex first n cs).bind fun (m, rest) => takeHex second m rest := by
  induction first generalizing n cs with
  | zero =>
    rw [Nat.zero_add]
    rfl
  | succ first ih =>
    rw [Nat.add_right_comm]
    cases cs with
    | nil => rfl
    | cons c rest =>
      rw [takeHex, takeHex]
      split
      · exact ih _ rest
      · rfl

/-- The digits of a number are read back as this number, behind what was read before. -/
theorem takeHex_hexDigits (width m : Nat) {n : Nat} (h : n < 16 ^ width) (rest : List Char) :
    takeHex width m (hexDigits width n ++ rest) = some (m * 16 ^ width + n, rest) := by
  induction width generalizing m n rest with
  | zero =>
    obtain rfl : n = 0 := Nat.lt_one_iff.1 h
    simp [hexDigits, takeHex]
  | succ width ih =>
    have hhigh : n / 16 < 16 ^ width := Nat.div_lt_of_lt_mul (by rwa [← Nat.pow_succ'])
    obtain ⟨hhex, hvalue⟩ := hexDigit_spec (n % 16) (Nat.mod_lt n (by decide))
    have hlast : takeHex 1 (m * 16 ^ width + n / 16) (hexDigit (n % 16) :: rest) =
        some ((m * 16 ^ width + n / 16) * 16 + n % 16, rest) := by
      simp [takeHex, hhex, hvalue]
    have hsum : (m * 16 ^ width + n / 16) * 16 + n % 16 = m * 16 ^ (width + 1) + n := by
      rw [Nat.pow_succ, ← Nat.mul_assoc]
      omega
    rw [hexDigits, List.append_assoc, takeHex_add, ih m hhigh, List.singleton_append, ← hsum]
    exact hlast

theorem charOf_toNat (c : Char) : charOf c.toNat = some c := by
  rw [charOf, if_pos (show c.toNat.isValidChar from c.valid), Char.ofNat_toNat]

/-! ### Escapes read back -/

variable {named : String → Option Char} {q : Char}

theorem eq_of_isQuote (hq : isQuote q) : q = '"' ∨ q = '\'' := by
  simpa [isQuote] using hq

private theorem unescapeText_escapeCode (fuel : Nat) (c : Char) (rest : List Char) :
    unescapeText named (fuel + 1) (escapeCode c.toNat ++ rest) = (unescapeText named fuel rest).map (c :: ·) := by
  have hread : ∀ width, c.toNat < 16 ^ width →
      takeHex width 0 (hexDigits width c.toNat ++ rest) = some (c.toNat, rest) := by
    intro width hwidth
    rw [takeHex_hexDigits width 0 hwidth, Nat.zero_mul, Nat.zero_add]
  have hbound : c.toNat < 16 ^ 8 := by
    have hvalid : c.toNat.isValidChar := c.valid
    rw [Nat.isValidChar] at hvalid
    omega
  unfold escapeCode
  split
  · rename_i hc
    simp [unescapeText, simpleEscape, hread 2 hc, charOf_toNat]
  · split
    · rename_i hc
      simp [unescapeText, simpleEscape, hread 4 hc, charOf_toNat]
    · simp [unescapeText, simpleEscape, hread 8 hbound, charOf_toNat]

/-- What stands for a character in a quoted text is read back as this character. -/
theorem unescapeText_quoteChar (hq : isQuote q) (fuel : Nat) (c : Char) (rest : List Char) :
    unescapeText named (fuel + 1) (quoteChar q c ++ rest) = (unescapeText named fuel rest).map (c :: ·) := by
  unfold quoteChar
  split
  · rename_i hc
    have hescape : simpleEscape c = some c ∧ c ≠ '\n' := by
      rw [Bool.or_eq_true, beq_iff_eq, beq_iff_eq] at hc
      rcases hc with rfl | rfl
      · decide
      · rcases eq_of_isQuote hq with rfl | rfl <;> decide
    simp [unescapeText, hescape]
  split
  · rename_i hc
    simp [unescapeText, simpleEscape, beq_iff_eq.1 hc]
  split
  · rename_i hc
    simp [unescapeText, simpleEscape, beq_iff_eq.1 hc]
  split
  · rename_i hc
    simp [unescapeText, simpleEscape, beq_iff_eq.1 hc]
  split
  · rename_i hc _ _ _ _
    have hbackslash : c ≠ '\\' := by
      rintro rfl
      simp at hc
    rw [List.singleton_append, unescapeText]
    · exact fun d _ he => absurd he hbackslash
  · exact unescapeText_escapeCode fuel c rest

theorem unescapeText_flatMap_quoteChar (hq : isQuote q) {fuel : Nat} {cs : List Char} (h : cs.length ≤ fuel) :
    unescapeText named fuel (cs.flatMap (quoteChar q)) = some cs := by
  induction cs generalizing fuel with
  | nil => cases fuel <;> rfl
  | cons c rest ih =>
    obtain ⟨fuel, rfl⟩ : ∃ k, fuel = k + 1 := ⟨fuel - 1, by rw [List.length_cons] at h; omega⟩
    rw [List.flatMap_cons, unescapeText_quoteChar hq, ih (Nat.le_of_succ_le_succ h), Option.map_some]

/-! ### Characters of a quoted text -/

/-- A line break is shown by an escape. -/
theorem not_isLineBreak_of_isPrintable {c : Char} (h : isPrintable c) : ¬isLineBreak c := by
  intro hbreak
  have habove : Text.printableRanges.holds 0x85 = false ∧ Text.printableRanges.holds 0x2028 = false ∧
      Text.printableRanges.holds 0x2029 = false := by
    decide +kernel
  simp only [isLineBreak, Bool.or_eq_true, Bool.and_eq_true, decide_eq_true_eq, beq_iff_eq] at hbreak
  unfold isPrintable Text.classOf at h
  split at h
  · simp only [Bool.and_eq_true, decide_eq_true_eq] at h
    omega
  · have hcode : c.toNat = 0x85 ∨ c.toNat = 0x2028 ∨ c.toNat = 0x2029 := by omega
    rcases hcode with hc | hc | hc <;> simp [hc, habove] at h

private theorem hexDigit_plain : ∀ d < 16, hexDigit d ≠ '\\' ∧ hexDigit d ≠ '\'' ∧ hexDigit d ≠ '"' ∧
    isPrintable (hexDigit d) := by
  decide

private theorem exists_of_mem_hexDigits {width n : Nat} {c : Char} (h : c ∈ hexDigits width n) :
    ∃ d < 16, c = hexDigit d := by
  induction width generalizing n with
  | zero => cases h
  | succ width ih =>
    rw [hexDigits, List.mem_append, List.mem_singleton] at h
    exact h.elim ih fun hc => ⟨n % 16, Nat.mod_lt n (by decide), hc⟩

/-- A character that stands for itself in a quoted text, being neither a backslash nor the quote. -/
def IsPlain (q c : Char) : Prop := isPrintable c ∧ c ≠ '\\' ∧ c ≠ q

/-- What stands for a character in a quoted text: the character itself, or a backslash with a printable character and
plain ones behind it. -/
theorem quoteChar_cases (hq : isQuote q) (c : Char) :
    (quoteChar q c = [c] ∧ IsPlain q c) ∨
      ∃ x tail, quoteChar q c = '\\' :: x :: tail ∧ isPrintable x ∧ ∀ d ∈ tail, IsPlain q d := by
  have hdigits : ∀ width n, ∀ d ∈ hexDigits width n, IsPlain q d := by
    intro width n d hd
    obtain ⟨k, hk, rfl⟩ := exists_of_mem_hexDigits hd
    obtain ⟨hbackslash, hsingle, hdouble, hprintable⟩ := hexDigit_plain k hk
    refine ⟨hprintable, hbackslash, ?_⟩
    rcases eq_of_isQuote hq with rfl | rfl
    · exact hdouble
    · exact hsingle
  unfold quoteChar escapeCode
  split
  · rename_i hc
    refine Or.inr ⟨c, [], rfl, ?_, fun d hd => absurd hd List.not_mem_nil⟩
    rw [Bool.or_eq_true, beq_iff_eq, beq_iff_eq] at hc
    rcases hc with rfl | rfl
    · decide
    · rcases eq_of_isQuote hq with rfl | rfl <;> decide
  rename_i hc
  split
  · exact Or.inr ⟨'t', [], rfl, by decide, fun d hd => absurd hd List.not_mem_nil⟩
  split
  · exact Or.inr ⟨'n', [], rfl, by decide, fun d hd => absurd hd List.not_mem_nil⟩
  split
  · exact Or.inr ⟨'r', [], rfl, by decide, fun d hd => absurd hd List.not_mem_nil⟩
  split
  · rename_i hprintable
    simp only [Bool.or_eq_true, beq_iff_eq, not_or] at hc
    exact Or.inl ⟨rfl, hprintable, hc⟩
  split
  · exact Or.inr ⟨'x', _, rfl, by decide, hdigits _ _⟩
  split
  · exact Or.inr ⟨'u', _, rfl, by decide, hdigits _ _⟩
  · exact Or.inr ⟨'U', _, rfl, by decide, hdigits _ _⟩

private theorem isPrintable_of_mem_quoteChar (hq : isQuote q) {c d : Char} (h : d ∈ quoteChar q c) : isPrintable d := by
  rcases quoteChar_cases hq c with ⟨he, hplain⟩ | ⟨x, tail, he, hx, htail⟩
  · rw [he, List.mem_singleton] at h
    exact h ▸ hplain.1
  · rw [he, List.mem_cons, List.mem_cons] at h
    rcases h with rfl | rfl | h
    · decide
    · exact hx
    · exact (htail d h).1

theorem isQuote_chooseQuote (cs : List Char) : isQuote (chooseQuote cs) := by
  unfold chooseQuote
  split <;> decide

theorem isPrintable_of_mem_quoteChars {cs : List Char} {d : Char} (h : d ∈ quoteChars cs) : isPrintable d := by
  have hq := isQuote_chooseQuote cs
  have hquote : isPrintable (chooseQuote cs) := by
    rcases eq_of_isQuote hq with he | he <;> rw [he] <;> decide
  simp only [quoteChars, List.mem_append, List.mem_cons, List.mem_flatMap, List.not_mem_nil, or_false] at h
  rcases h with (rfl | ⟨c, -, hd⟩) | rfl
  · exact hquote
  · exact isPrintable_of_mem_quoteChar hq hd
  · exact hquote

/-! ### Quoted texts as tokens -/

private theorem ne_lineFeed_of_isPrintable {c : Char} (h : isPrintable c) : c ≠ '\n' := by
  rintro rfl
  exact absurd h (by decide)

private theorem takeString_plain {cs : List Char} (h : ∀ c ∈ cs, IsPlain q c) (rest : List Char) :
    takeString q false (cs ++ rest) = (takeString q false rest).map fun (body, rest) => (cs ++ body, rest) := by
  induction cs with
  | nil => simp
  | cons c cs ih =>
    obtain ⟨⟨hprintable, hbackslash, hquote⟩, hcs⟩ := List.forall_mem_cons.1 h
    have hfeed := ne_lineFeed_of_isPrintable hprintable
    rw [List.cons_append, takeString]
    · simp [hquote, hfeed, ih hcs, Function.comp_def]
    · exact fun d _ he => absurd he hbackslash

private theorem takeString_quoteChar (hq : isQuote q) (c : Char) (rest : List Char) :
    takeString q false (quoteChar q c ++ rest) =
      (takeString q false rest).map fun (body, rest) => (quoteChar q c ++ body, rest) := by
  rcases quoteChar_cases hq c with ⟨he, hplain⟩ | ⟨x, tail, he, -, htail⟩
  · rw [he]
    exact takeString_plain (by simpa using hplain) rest
  · rw [he, List.cons_append, List.cons_append, takeString, takeString_plain htail, Option.map_map]
    rfl

/-- A string goes up to the quote behind the characters of the text. -/
theorem takeString_flatMap_quoteChar (hq : isQuote q) (cs rest : List Char) :
    takeString q false (cs.flatMap (quoteChar q) ++ q :: rest) = some (cs.flatMap (quoteChar q), rest) := by
  induction cs with
  | nil =>
    have hbackslash : q ≠ '\\' := by
      rintro rfl
      exact absurd hq (by decide)
    rw [List.flatMap_nil, List.nil_append, takeString]
    · simp
    · exact fun d _ he => absurd he hbackslash
  | cons c cs ih =>
    rw [List.flatMap_cons, List.append_assoc, takeString_quoteChar hq, ih, Option.map_some]

/-- The string between the quotes of a text. -/
def quotedToken (cs : List Char) : StringToken := { body := cs.flatMap (quoteChar (chooseQuote cs)) }

private theorem length_le_flatMap_quoteChar (hq : isQuote q) (cs : List Char) :
    cs.length ≤ (cs.flatMap (quoteChar q)).length := by
  induction cs with
  | nil => exact Nat.zero_le _
  | cons c cs ih =>
    have hpos : 1 ≤ (quoteChar q c).length := by
      rcases quoteChar_cases hq c with ⟨he, -⟩ | ⟨x, tail, he, -⟩ <;> simp [he]
    rw [List.flatMap_cons, List.length_append, List.length_cons]
    omega

/-- The escapes of the string give the characters of the text back. -/
theorem decodeLiteral_quotedToken (cs : List Char) :
    decodeLiteral (quotedToken cs).isRaw (quotedToken cs).body = .ok cs := by
  have hq := isQuote_chooseQuote cs
  have hlength := Nat.le_succ_of_le (length_le_flatMap_quoteChar hq cs)
  simp only [quotedToken, decodeLiteral, unescapeText_flatMap_quoteChar hq hlength]
  rfl

/-- A quoted text is one string, unless a quote follows that would make it longer. -/
theorem openString_quoteChars {cs rest : List Char} (h : rest.head? ≠ some (chooseQuote cs)) :
    openString (quoteChars cs ++ rest) = some ((quotedToken cs).body, rest) := by
  have hq := isQuote_chooseQuote cs
  have htake := takeString_flatMap_quoteChar hq cs rest
  simp only [quoteChars, quotedToken, List.cons_append, List.append_assoc, List.nil_append]
  cases cs with
  | nil =>
    cases rest with
    | nil => simp [openString]
    | cons d rest =>
      have hd : d ≠ chooseQuote [] := by simpa using h
      simp [openString, hd]
  | cons c cs =>
    -- the first character behind the quote is another one, and something follows it
    obtain ⟨d, more, he, hd⟩ :
        ∃ d more, quoteChar (chooseQuote (c :: cs)) c = d :: more ∧ d ≠ chooseQuote (c :: cs) := by
      rcases quoteChar_cases hq c with ⟨he, hplain⟩ | ⟨x, tail, he, -⟩
      · exact ⟨_, _, he, hplain.2.2⟩
      · refine ⟨_, _, he, fun hbackslash => ?_⟩
        rw [← hbackslash] at hq
        exact absurd hq (by decide)
    obtain ⟨e, last, hlast⟩ : ∃ e last, more ++ (cs.flatMap (quoteChar (chooseQuote (c :: cs))) ++
        chooseQuote (c :: cs) :: rest) = e :: last :=
      List.exists_cons_of_ne_nil (by simp)
    rw [List.flatMap_cons, he, List.append_assoc, List.cons_append, hlast] at htake ⊢
    rw [openString, if_neg (by simpa using hd)]
    exact htake

/-- Wherever a quoted text stands in a line, it is cut as one string. -/
theorem scanStep_quoteChars {s : Scan} {cs rest : List Char} (hs : s.atLineStart = false)
    (h : rest.head? ≠ some (chooseQuote cs)) :
    scanStep s (quoteChars cs ++ rest) =
      ([⟨.string (quotedToken cs), s.line, s.brackets.length⟩], .inr (s, rest)) := by
  have hq := isQuote_chooseQuote cs
  have hstart : stringStart { body := [] } (quoteChars cs ++ rest) = some ({ body := [] }, quoteChars cs ++ rest) := by
    rw [quoteChars, List.cons_append, List.cons_append, stringStart, if_pos hq]
  have hbreaks : lineBreaks (quotedToken cs).body = 0 := by
    rw [lineBreaks, List.length_eq_zero_iff, List.filter_eq_nil_iff]
    intro d hd
    obtain ⟨c, -, hd⟩ := List.mem_flatMap.1 hd
    simpa using ne_lineFeed_of_isPrintable (isPrintable_of_mem_quoteChar hq hd)
  have hopen := openString_quoteChars h
  have hcons : quoteChars cs ++ rest = chooseQuote cs :: (cs.flatMap (quoteChar (chooseQuote cs)) ++
      [chooseQuote cs] ++ rest) := rfl
  rw [hcons] at hstart hopen ⊢
  obtain ⟨line, atLineStart, widths, brackets⟩ := s
  obtain rfl : atLineStart = false := hs
  unfold scanStep
  simp only [hstart, hopen, hbreaks]
  rcases eq_of_isQuote hq with he | he <;> rw [he] <;> rfl

end NavFactory.Source
