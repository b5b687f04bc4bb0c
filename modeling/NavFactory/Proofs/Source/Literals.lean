import NavFactory.Proofs.Quoting
import NavFactory.Proofs.Source.Scanning

/-!
# Literals that are read back

Quoted texts do not depend on what is done to line breaks before a scan.  A string in which nothing needs to be escaped
stands for its own characters (`decodeLiteral_of_plain`), be it a documentation string, and so does a decimal number.
-/

namespace NavFactory.Source

open Text (quoteChars isPrintable)

/-! ### Strings in quotes -/

/-- A quoted text is a clean one that starts with a quote. -/
theorem isClean_quoteChars (cs : List Char) :
    IsClean (quoteChars cs) ∧ ∃ c rest, quoteChars cs = c :: rest ∧ isQuote c := by
  refine ⟨fun c hc => ?_, _, _, rfl, isQuote_chooseQuote cs⟩
  have hprintable := isPrintable_of_mem_quoteChars hc
  constructor <;>
    · rintro rfl
      exact absurd hprintable (by decide)

/-- A string in which nothing is escaped goes up to the quote behind it. -/
private theorem takeString_of_plain {body : List Char} (rest : List Char)
    (hbody : ∀ c ∈ body, c ≠ '\\' ∧ c ≠ '"' ∧ c ≠ '\n') :
    takeString '"' false (body ++ '"' :: rest) = some (body, rest) := by
  induction body with
  | nil => simp [takeString]
  | cons c body ih =>
    obtain ⟨⟨hslash, hquote, hbreak⟩, hbody⟩ := List.forall_mem_cons.1 hbody
    rw [List.cons_append, takeString, ih hbody]
    · simp [hquote, hbreak]
    · exact fun d after h => absurd h hslash

/-- A text in double quotes in which nothing needs to be escaped. -/
theorem openString_plain {body : List Char} (rest : List Char) (hbody : ∀ c ∈ body, c ≠ '\\' ∧ c ≠ '"' ∧ c ≠ '\n')
    (hrest : ∀ c ∈ rest.head?, c ≠ '"') : openString ('"' :: body ++ '"' :: rest) = some (body, rest) := by
  have htake := takeString_of_plain rest hbody
  cases body with
  | nil =>
    cases rest with
    | nil => simp [openString]
    | cons c rest => simp [openString, hrest c rfl]
  | cons b body =>
    have hb : b ≠ '"' := (hbody b List.mem_cons_self).2.1
    obtain ⟨c, tail, htail⟩ : ∃ c tail, body ++ '"' :: rest = c :: tail := List.exists_cons_of_ne_nil (by simp)
    rw [List.cons_append, htail] at htake
    simp [openString, hb, htail, htake]

/-- A text without backslashes stands for itself. -/
theorem decodeLiteral_of_plain {cs : List Char} (hcs : '\\' ∉ cs) : decodeLiteral false cs = .ok cs := by
  have hread : ∀ fuel, cs.length ≤ fuel → unescapeText Text.characterNamed fuel cs = some cs := by
    induction cs with
    | nil => exact fun fuel _ => by cases fuel <;> simp [unescapeText]
    | cons c cs ih =>
      rw [List.mem_cons, not_or] at hcs
      intro fuel hfuel
      rw [List.length_cons] at hfuel
      obtain ⟨fuel, rfl⟩ : ∃ k, fuel = k + 1 := ⟨fuel - 1, by omega⟩
      rw [unescapeText, ih hcs.2 fuel (by omega), Option.map_some]
      exact fun d after h => absurd h (Ne.symm hcs.1)
  simp [decodeLiteral, hread _ (Nat.le_succ _)]

/-! ### Documentation strings -/

private theorem takeString_doc {body rest : List Char} (hquote : '"' ∉ body) (hslash : '\\' ∉ body) :
    takeString '"' true (body ++ '"' :: '"' :: '"' :: rest) = some (body, rest) := by
  induction body with
  | nil => simp [takeString]
  | cons c body ih =>
    rw [List.mem_cons, not_or] at hquote hslash
    rw [List.cons_append, takeString, ih hquote.2 hslash.2]
    · simp [Ne.symm hquote.1]
    · intro d after h
      exact absurd h (Ne.symm hslash.1)

/-- A documentation string without quotes and backslashes is read as one string. -/
theorem openString_doc {body : List Char} (rest : List Char) (hquote : '"' ∉ body) (hslash : '\\' ∉ body) :
    openString ('"' :: '"' :: '"' :: body ++ '"' :: '"' :: '"' :: rest) = some (body, rest) := by
  simpa [openString] using takeString_doc hquote hslash

/-! ### Numbers -/

/-- Whether a character may follow a decimal number. -/
def endsNumber (c : Char) : Bool := !isNamePart c && c != '.'

private theorem digitTail_append {digits : List Char} {d : Char} {rest : List Char}
    (hdigits : ∀ c ∈ digits, c.isDigit) (hd : isNamePart d = false) :
    digitTail Char.isDigit (digits ++ d :: rest) = some (digits, d :: rest) := by
  induction digits with
  | nil =>
    have hunderscore : d ≠ '_' := by
      rintro rfl
      exact absurd hd (by decide)
    have hdigit : d.isDigit = false := by
      simp only [isNamePart, Bool.or_eq_false_iff] at hd
      exact hd.2
    rw [List.nil_append, digitTail]
    · simp [hdigit]
    · intro c after h
      exact absurd h hunderscore
    · intro h
      exact absurd h hunderscore
  | cons c digits ih =>
    have hc : c.isDigit := hdigits c List.mem_cons_self
    have hunderscore : c ≠ '_' := by
      rintro rfl
      exact absurd hc (by decide)
    rw [List.cons_append, digitTail, ih fun e he => hdigits e (List.mem_cons_of_mem c he)]
    · simp [hc]
    · intro e after h
      exact absurd h hunderscore
    · intro h
      exact absurd h hunderscore

private theorem afterInteger_of_endsNumber (text : List Char) {d : Char} (rest : List Char) (hd : endsNumber d) :
    afterInteger text (d :: rest) = some (text, d :: rest) := by
  simp only [endsNumber, Bool.and_eq_true, Bool.not_eq_true', bne_iff_ne] at hd
  have hletters : ∀ c ∈ ['e', 'E', 'j', 'J'], isNamePart c := List.all_iff_forall_prop.1 (by decide)
  have hne : ∀ c ∈ ['e', 'E', 'j', 'J'], d ≠ c := fun c hc => (ne_of_isNamePart (hletters c hc) hd.1).symm
  simp only [List.forall_mem_cons] at hne
  have hends : numberEnds (d :: rest) = true := by simp [numberEnds, hd.1]
  simp [afterInteger, exponentPart, imaginaryPart, finishNumber, hd.2, hne, hends]

private theorem head_toDigits_ne {n : Nat} (hn : 0 < n) : ∀ c ∈ (Nat.toDigits 10 n).head?, c ≠ '0' := by
  induction n using Nat.strongRecOn with
  | ind n ih =>
    rw [Nat.toDigits_eq_if (by omega)]
    split
    · rename_i hlt
      have hall : ∀ k < 10, 0 < k → Nat.digitChar k ≠ '0' := by decide
      intro c hc
      cases hc
      exact hall n hlt hn
    · rename_i hlt
      rw [List.head?_append_of_ne_nil _ Nat.toDigits_ne_nil]
      exact ih (n / 10) (by omega) (by omega)

/-- A decimal number is read as one number. -/
theorem takeNumber_toDigits (n : Nat) {d : Char} (rest : List Char) (hd : endsNumber d) :
    takeNumber (Nat.toDigits 10 n ++ d :: rest) = some (Nat.toDigits 10 n, d :: rest) := by
  have hpart : isNamePart d = false := by
    simp only [endsNumber, Bool.and_eq_true, Bool.not_eq_true'] at hd
    exact hd.1
  rcases Nat.eq_zero_or_pos n with rfl | hn
  · have htail : digitTail Char.isDigit ([] ++ d :: rest) = some ([], d :: rest) := digitTail_append (by simp) hpart
    have hletters : ∀ c ∈ ['x', 'X', 'o', 'O', 'b', 'B'], isNamePart c := List.all_iff_forall_prop.1 (by decide)
    have hne : ∀ c ∈ ['x', 'X', 'o', 'O', 'b', 'B'], d ≠ c := fun c hc => (ne_of_isNamePart (hletters c hc) hpart).symm
    simp only [List.forall_mem_cons] at hne
    obtain ⟨hx, hX, ho, hO, hb, hB, -⟩ := hne
    have hafter := afterInteger_of_endsNumber ['0'] rest hd
    rw [List.nil_append] at htail
    have hzeros : (['0'].any fun c => c != '0' && c != '_') = false := by decide
    change takeNumber ('0' :: d :: rest) = some (['0'], d :: rest)
    simp only [takeNumber, beq_eq_false_iff_ne.2 hx, beq_eq_false_iff_ne.2 hX, beq_eq_false_iff_ne.2 ho,
      beq_eq_false_iff_ne.2 hO, beq_eq_false_iff_ne.2 hb, beq_eq_false_iff_ne.2 hB, Bool.or_self, Bool.false_eq_true,
      if_false, htail, Option.bind_eq_bind, Option.bind_some, hafter, hzeros, Bool.and_false]
  · have hzero := head_toDigits_ne hn
    have hdigits : ∀ c ∈ Nat.toDigits 10 n, c.isDigit := fun c hc =>
      Nat.isDigit_of_mem_toDigits (by omega) (by omega) hc
    cases hcs : Nat.toDigits 10 n with
    | nil => exact absurd hcs Nat.toDigits_ne_nil
    | cons c tail =>
      rw [hcs] at hzero hdigits
      have htail : digitTail Char.isDigit (tail ++ d :: rest) = some (tail, d :: rest) :=
        digitTail_append (fun e he => hdigits e (List.mem_cons_of_mem c he)) hpart
      rw [List.cons_append, takeNumber, htail]
      · simp [afterInteger_of_endsNumber (c :: tail) rest hd]
      · intro e after h
        exact absurd h (hzero c rfl)

/-- A decimal number that is not too long has a value. -/
theorem numeral_toDigits {n : Nat} (hn : n < 10 ^ maxDecimalDigits) :
    ∃ c, numeral (Nat.toDigits 10 n) = some c := by
  have hfilter : (Nat.toDigits 10 n).filter (· != '_') = Nat.toDigits 10 n := by
    refine List.filter_eq_self.2 fun c hc => bne_iff_ne.2 ?_
    rintro rfl
    exact Nat.underscore_not_in_toDigits hc
  have hdigits : ∀ c ∈ Nat.toDigits 10 n, c.isDigit := fun c hc =>
    Nat.isDigit_of_mem_toDigits (by omega) (by omega) hc
  have hlength : (Nat.toDigits 10 n).length ≤ maxDecimalDigits :=
    (Nat.length_toDigits_le_iff (by omega) (by decide)).2 hn
  unfold numeral
  rw [hfilter]
  split
  · exact ⟨_, rfl⟩
  · exact ⟨_, rfl⟩
  · exact ⟨_, rfl⟩
  · rw [if_pos (List.all_eq_true.2 hdigits), if_neg (Nat.not_lt.2 hlength)]
    exact ⟨_, rfl⟩

end NavFactory.Source
