import Mathlib.Tactic.SplitIfs
import NavFactory.Files.Access

/-!
# Texts on disk

Bytes stand for a text exactly if they are its encoding (`Text.decode_eq_ok_iff`).  A text that is written to a file is
read back as it was as long as there is no carriage return in it (`textOfBytes_encode`): reading a file takes every
newline for a line feed, so that other bytes may be read as the same text (`textOfBytes_eq_ok_iff`).
-/

namespace NavFactory

namespace Text

/-! ### Sequences of bytes -/

section Sequences

variable {a b c d low high : UInt8} {position : Nat} {rest : List UInt8}

private theorem decodeFrom_one (ha : a.toNat < 0x80) :
    decodeFrom position (a :: rest) = (decodeFrom (position + 1) rest).map (Char.ofNat a.toNat :: ·) := by
  rw [decodeFrom, if_pos (UInt8.lt_iff_toNat_lt.2 ha)]

/-- A byte that starts a sequence does not stand for itself. -/
private theorem not_lt_of_leadingByte {size : Nat} (h : leadingByte a = some (size, low, high)) : ¬a < 0x80 := by
  intro hlt
  rw [leadingByte, if_pos (UInt8.lt_trans hlt (by decide))] at h
  cases h

private theorem decodeFrom_two (ha : leadingByte a = some (2, low, high)) (hlow : low ≤ b) (hhigh : b ≤ high) :
    decodeFrom position (a :: b :: rest) =
      (decodeFrom (position + 2) rest).map (Char.ofNat ((a.toNat - 0xC0) * 64 + low6 b) :: ·) := by
  rw [decodeFrom, if_neg (not_lt_of_leadingByte ha), ha]
  simp [UInt8.not_lt.2 hlow, UInt8.not_lt.2 hhigh]

private theorem decodeFrom_three (ha : leadingByte a = some (3, low, high)) (hlow : low ≤ b) (hhigh : b ≤ high)
    (hc : isTail c = true) :
    decodeFrom position (a :: b :: c :: rest) = (decodeFrom (position + 3) rest).map
      (Char.ofNat (((a.toNat - 0xE0) * 64 + low6 b) * 64 + low6 c) :: ·) := by
  rw [decodeFrom, if_neg (not_lt_of_leadingByte ha), ha]
  simp [UInt8.not_lt.2 hlow, UInt8.not_lt.2 hhigh, hc]

private theorem decodeFrom_four (ha : leadingByte a = some (4, low, high)) (hlow : low ≤ b) (hhigh : b ≤ high)
    (hc : isTail c = true) (hd : isTail d = true) :
    decodeFrom position (a :: b :: c :: d :: rest) = (decodeFrom (position + 4) rest).map
      (Char.ofNat ((((a.toNat - 0xF0) * 64 + low6 b) * 64 + low6 c) * 64 + low6 d) :: ·) := by
  rw [decodeFrom, if_neg (not_lt_of_leadingByte ha), ha]
  simp [UInt8.not_lt.2 hlow, UInt8.not_lt.2 hhigh, hc, hd]

end Sequences

/-! ### Bytes of characters -/

section Bytes

variable {n : Nat}

private theorem toNat_ofNat (h : n < 256) : (UInt8.ofNat n).toNat = n := UInt8.toNat_ofNat_of_lt' h

private theorem leadingByte_ofNat (h : n < 256) : leadingByte (UInt8.ofNat n) =
    if n < 0xC2 then none
    else if n < 0xE0 then some (2, 0x80, 0xBF)
    else if n = 0xE0 then some (3, 0xA0, 0xBF)
    else if n = 0xED then some (3, 0x80, 0x9F)
    else if n < 0xF0 then some (3, 0x80, 0xBF)
    else if n = 0xF0 then some (4, 0x90, 0xBF)
    else if n < 0xF4 then some (4, 0x80, 0xBF)
    else if n = 0xF4 then some (4, 0x80, 0x8F)
    else none := by
  simp only [leadingByte, UInt8.lt_iff_toNat_lt, beq_iff_eq, ← UInt8.toNat_inj, toNat_ofNat h]
  rfl

/-- The byte that goes on with a sequence with the last six bits of a number. -/
private def tailByte (n : Nat) : UInt8 := UInt8.ofNat (0x80 + n % 64)

private theorem toNat_tailByte (n : Nat) : (tailByte n).toNat = 0x80 + n % 64 := toNat_ofNat (by omega)

private theorem low6_tailByte (n : Nat) : low6 (tailByte n) = n % 64 := by
  rw [low6, toNat_tailByte]
  omega

private theorem le_tailByte {low : UInt8} (h : low.toNat ≤ 0x80 + n % 64) : low ≤ tailByte n := by
  rwa [UInt8.le_iff_toNat_le, toNat_tailByte]

private theorem tailByte_le {high : UInt8} (h : 0x80 + n % 64 ≤ high.toNat) : tailByte n ≤ high := by
  rwa [UInt8.le_iff_toNat_le, toNat_tailByte]

private theorem isTail_tailByte (n : Nat) : isTail (tailByte n) = true := by
  have hlow : 0x80 ≤ tailByte n := le_tailByte (Nat.le_add_right 0x80 _)
  have hhigh : tailByte n ≤ 0xBF := tailByte_le (show _ ≤ 0xBF by omega)
  simp [isTail, hlow, hhigh]

/-- A character is read back from its bytes.  The first byte of a long sequence narrows the range of the second one, so
that no character has two sequences. -/
private theorem decodeFrom_encodeChar (position : Nat) (c : Char) (rest : List UInt8) :
    decodeFrom position (encodeChar c ++ rest) =
      (decodeFrom (position + (encodeChar c).length) rest).map (c :: ·) := by
  have hvalid : c.toNat < 0xD800 ∨ 0xDFFF < c.toNat ∧ c.toNat < 0x110000 := c.valid
  have hchar : ∀ n, n = c.toNat → Char.ofNat n = c := by
    rintro n rfl
    exact Char.ofNat_toNat c
  generalize hn : c.toNat = n at hvalid hchar
  rw [encodeChar, hn]
  dsimp only
  split_ifs with h1 h2 h3
  · have ha := toNat_ofNat (show n < 256 by omega)
    rw [List.singleton_append, decodeFrom_one (by rwa [ha]), ha, hchar n rfl]
    rfl
  · have ha := toNat_ofNat (show 0xC0 + n / 64 < 256 by omega)
    have hlead : leadingByte (UInt8.ofNat (0xC0 + n / 64)) = some (2, 0x80, 0xBF) := by
      rw [leadingByte_ofNat (by omega), if_neg (by omega), if_pos (by omega)]
    refine (decodeFrom_two hlead (le_tailByte ?_) (tailByte_le ?_)).trans ?_
    · exact Nat.le_add_right 0x80 _
    · exact show _ ≤ 0xBF by omega
    · rw [ha, low6_tailByte, hchar _ (by omega)]
      rfl
  · have ha := toNat_ofNat (show 0xE0 + n / 4096 < 256 by omega)
    -- behind 0xE0 there is no shorter sequence, and behind 0xED no surrogate
    obtain ⟨low, high, hlead, hlow, hhigh⟩ : ∃ low high : UInt8,
        leadingByte (UInt8.ofNat (0xE0 + n / 4096)) = some (3, low, high) ∧
          low.toNat ≤ 0x80 + n / 64 % 64 ∧ 0x80 + n / 64 % 64 ≤ high.toNat := by
      rw [leadingByte_ofNat (by omega), if_neg (by omega), if_neg (by omega),
        if_pos (show 0xE0 + n / 4096 < 0xF0 by omega)]
      split_ifs with he0 hed
      · exact ⟨0xA0, 0xBF, rfl, show 0xA0 ≤ _ by omega, show _ ≤ 0xBF by omega⟩
      · exact ⟨0x80, 0x9F, rfl, show 0x80 ≤ _ by omega, show _ ≤ 0x9F by omega⟩
      · exact ⟨0x80, 0xBF, rfl, show 0x80 ≤ _ by omega, show _ ≤ 0xBF by omega⟩
    refine (decodeFrom_three hlead (le_tailByte hlow) (tailByte_le hhigh) (isTail_tailByte n)).trans ?_
    rw [ha, low6_tailByte, low6_tailByte, hchar _ (by omega)]
    rfl
  · have ha := toNat_ofNat (show 0xF0 + n / 262144 < 256 by omega)
    -- behind 0xF0 there is no shorter sequence, and behind 0xF4 nothing past the last character
    obtain ⟨low, high, hlead, hlow, hhigh⟩ : ∃ low high : UInt8,
        leadingByte (UInt8.ofNat (0xF0 + n / 262144)) = some (4, low, high) ∧
          low.toNat ≤ 0x80 + n / 4096 % 64 ∧ 0x80 + n / 4096 % 64 ≤ high.toNat := by
      rw [leadingByte_ofNat (by omega), if_neg (by omega), if_neg (by omega), if_neg (by omega), if_neg (by omega),
        if_neg (by omega)]
      split_ifs with hf0 hf4
      · exact ⟨0x90, 0xBF, rfl, show 0x90 ≤ _ by omega, show _ ≤ 0xBF by omega⟩
      · exact ⟨0x80, 0xBF, rfl, show 0x80 ≤ _ by omega, show _ ≤ 0xBF by omega⟩
      · exact ⟨0x80, 0x8F, rfl, show 0x80 ≤ _ by omega, show _ ≤ 0x8F by omega⟩
      · omega
    refine (decodeFrom_four hlead (le_tailByte hlow) (tailByte_le hhigh) (isTail_tailByte (n / 64))
      (isTail_tailByte n)).trans ?_
    rw [ha, low6_tailByte, low6_tailByte, low6_tailByte, hchar _ (by omega)]
    rfl

end Bytes

private theorem decodeFrom_flatMap (position : Nat) (cs : List Char) :
    decodeFrom position (cs.flatMap encodeChar) = .ok cs := by
  induction cs generalizing position with
  | nil => rfl
  | cons c rest ih =>
    rw [List.flatMap_cons, decodeFrom_encodeChar, ih]
    rfl

/-- A text is read back from its bytes. -/
theorem decode_encode (s : String) : decode (encode s) = .ok s := by
  rw [decode, encode, decodeFrom_flatMap]
  exact congrArg Except.ok String.ofList_toList

/-! ### Characters of bytes -/

section Characters

variable {a b c d low high : UInt8} {size n : Nat}

/-- What a byte that starts a sequence says about the sequence. -/
private theorem leadingByte_cases (h : leadingByte a = some (size, low, high)) :
    0x80 ≤ low.toNat ∧ high.toNat ≤ 0xBF ∧
      (size = 2 ∧ 0xC2 ≤ a.toNat ∧ a.toNat < 0xE0 ∨
        size = 3 ∧ 0xE0 ≤ a.toNat ∧ a.toNat < 0xF0 ∧ (a.toNat = 0xE0 → 0xA0 ≤ low.toNat) ∧
          (a.toNat = 0xED → high.toNat ≤ 0x9F) ∨
        size = 4 ∧ 0xF0 ≤ a.toNat ∧ a.toNat ≤ 0xF4 ∧ (a.toNat = 0xF0 → 0x90 ≤ low.toNat) ∧
          (a.toNat = 0xF4 → high.toNat ≤ 0x8F)) := by
  rw [leadingByte] at h
  simp only [UInt8.lt_iff_toNat_lt, beq_iff_eq, ← UInt8.toNat_inj] at h
  split_ifs at h <;> cases h <;> simp at * <;> omega

private theorem isTail_iff : isTail b = true ↔ 0x80 ≤ b.toNat ∧ b.toNat ≤ 0xBF := by
  simp [isTail, UInt8.le_iff_toNat_le]

private theorem ofNat_eq (h : n = a.toNat) : UInt8.ofNat n = a := by
  rw [h, UInt8.ofNat_toNat]

private theorem tailByte_eq (hlow : 0x80 ≤ b.toNat) (hhigh : b.toNat ≤ 0xBF) (h : n % 64 = low6 b) : tailByte n = b :=
  ofNat_eq (by rw [h, low6]; omega)

private theorem encodeChar_ofNat (h : n.isValidChar) : encodeChar (Char.ofNat n) =
    if n < 0x80 then [UInt8.ofNat n]
    else if n < 0x800 then [UInt8.ofNat (0xC0 + n / 64), tailByte n]
    else if n < 0x10000 then [UInt8.ofNat (0xE0 + n / 4096), tailByte (n / 64), tailByte n]
    else [UInt8.ofNat (0xF0 + n / 262144), tailByte (n / 4096), tailByte (n / 64), tailByte n] := by
  have hn : (Char.ofNat n).toNat = n := by
    rw [Char.ofNat, dif_pos h]
    exact UInt32.toNat_ofNatLT
  rw [encodeChar, hn]
  rfl

private theorem low6_lt (b : UInt8) : low6 b < 64 := Nat.mod_lt _ (by decide)

private theorem encodeChar_one (ha : a.toNat < 0x80) : encodeChar (Char.ofNat a.toNat) = [a] := by
  rw [encodeChar_ofNat (.inl (by omega)), if_pos ha, UInt8.ofNat_toNat]

private theorem encodeChar_two (ha : leadingByte a = some (2, low, high)) (hlow : low.toNat ≤ b.toNat)
    (hhigh : b.toNat ≤ high.toNat) : encodeChar (Char.ofNat ((a.toNat - 0xC0) * 64 + low6 b)) = [a, b] := by
  obtain ⟨hmin, hmax, ⟨-, hfirst, hlast⟩ | ⟨⟨⟩, -⟩ | ⟨⟨⟩, -⟩⟩ := leadingByte_cases ha
  have hb := low6_lt b
  rw [encodeChar_ofNat (.inl (by omega)), if_neg (by omega), if_pos (by omega), ofNat_eq (a := a) (by omega),
    tailByte_eq (b := b) (by omega) (by omega) (by omega)]

private theorem encodeChar_three (ha : leadingByte a = some (3, low, high)) (hlow : low.toNat ≤ b.toNat)
    (hhigh : b.toNat ≤ high.toNat) (hc : isTail c = true) :
    encodeChar (Char.ofNat (((a.toNat - 0xE0) * 64 + low6 b) * 64 + low6 c)) = [a, b, c] := by
  obtain ⟨hmin, hmax, ⟨⟨⟩, -⟩ | ⟨-, hfirst, hlast, hshort, hsurrogate⟩ | ⟨⟨⟩, -⟩⟩ := leadingByte_cases ha
  obtain ⟨hcmin, hcmax⟩ := isTail_iff.1 hc
  have hb := low6_lt b
  have hc := low6_lt c
  -- behind 0xE0 the second byte keeps the number from being small, and behind 0xED from being a surrogate
  have hsix : low6 b + 0x80 = b.toNat := by rw [low6]; omega
  have hvalid : (((a.toNat - 0xE0) * 64 + low6 b) * 64 + low6 c).isValidChar := by
    rw [Nat.isValidChar]
    omega
  rw [encodeChar_ofNat hvalid, if_neg (by omega), if_neg (by omega), if_pos (by omega), ofNat_eq (a := a) (by omega),
    tailByte_eq (b := b) (by omega) (by omega) (by omega), tailByte_eq (b := c) hcmin hcmax (by omega)]

private theorem encodeChar_four (ha : leadingByte a = some (4, low, high)) (hlow : low.toNat ≤ b.toNat)
    (hhigh : b.toNat ≤ high.toNat) (hc : isTail c = true) (hd : isTail d = true) :
    encodeChar (Char.ofNat ((((a.toNat - 0xF0) * 64 + low6 b) * 64 + low6 c) * 64 + low6 d)) = [a, b, c, d] := by
  obtain ⟨hmin, hmax, ⟨⟨⟩, -⟩ | ⟨⟨⟩, -⟩ | ⟨-, hfirst, hlast, hshort, hhuge⟩⟩ := leadingByte_cases ha
  obtain ⟨hcmin, hcmax⟩ := isTail_iff.1 hc
  obtain ⟨hdmin, hdmax⟩ := isTail_iff.1 hd
  have hb := low6_lt b
  have hc := low6_lt c
  have hd := low6_lt d
  -- behind 0xF0 the second byte keeps the number from being small, and behind 0xF4 from being past the last character
  have hsix : low6 b + 0x80 = b.toNat := by rw [low6]; omega
  have hvalid : ((((a.toNat - 0xF0) * 64 + low6 b) * 64 + low6 c) * 64 + low6 d).isValidChar := by
    rw [Nat.isValidChar]
    omega
  rw [encodeChar_ofNat hvalid, if_neg (by omega), if_neg (by omega), if_neg (by omega), ofNat_eq (a := a) (by omega),
    tailByte_eq (b := b) (by omega) (by omega) (by omega), tailByte_eq (b := c) hcmin hcmax (by omega),
    tailByte_eq (b := d) hdmin hdmax (by omega)]

end Characters

/-- Behind a character that is written as the bytes that it was read from, the other characters are written as the other
bytes. -/
private theorem flatMap_of_map {c : Char} {bytes rest : List UInt8} {r : Except DecodeFault (List Char)}
    {cs : List Char} (hc : encodeChar c = bytes) (hrest : ∀ {cs}, r = .ok cs → cs.flatMap encodeChar = rest)
    (h : r.map (c :: ·) = .ok cs) : cs.flatMap encodeChar = bytes ++ rest := by
  cases r with
  | error f => cases h
  | ok others =>
    cases h
    rw [List.flatMap_cons, hc, hrest rfl]

private theorem flatMap_of_decodeFrom {position : Nat} {bytes : List UInt8} {cs : List Char}
    (h : decodeFrom position bytes = .ok cs) : cs.flatMap encodeChar = bytes := by
  have hrange : ∀ {low high b : UInt8}, ¬(decide (b < low) || decide (high < b)) = true →
      low.toNat ≤ b.toNat ∧ b.toNat ≤ high.toNat := by
    intro low high b
    simp [UInt8.le_iff_toNat_le]
  fun_induction decodeFrom position bytes generalizing cs with
  | case1 =>
    cases h
    rfl
  | case2 position a rest ha ih => exact flatMap_of_map (encodeChar_one (UInt8.lt_iff_toNat_lt.1 ha)) ih h
  | case3 => cases h
  | case4 => cases h
  | case5 => cases h
  | case6 position a _ size low high ha b rest hb hsize ih =>
    obtain rfl := beq_iff_eq.1 hsize
    exact flatMap_of_map (encodeChar_two ha (hrange hb).1 (hrange hb).2) ih h
  | case7 => cases h
  | case8 => cases h
  | case9 position a _ size low high ha b hb _ c rest hc hsize ih =>
    obtain rfl := beq_iff_eq.1 hsize
    exact flatMap_of_map (encodeChar_three ha (hrange hb).1 (hrange hb).2 (by simpa using hc)) ih h
  | case10 => cases h
  | case11 => cases h
  | case12 position a _ size low high ha b hb htwo c hc hthree d rest hd ih =>
    obtain rfl : size = 4 := by
      obtain ⟨-, -, ⟨rfl, -⟩ | ⟨rfl, -⟩ | ⟨rfl, -⟩⟩ := leadingByte_cases ha
      · exact absurd rfl htwo
      · exact absurd rfl hthree
      · rfl
    exact flatMap_of_map (encodeChar_four ha (hrange hb).1 (hrange hb).2 (by simpa using hc) (by simpa using hd)) ih h

/-- Bytes stand for a text exactly if they are its encoding: no other bytes do. -/
theorem decode_eq_ok_iff {bytes : List UInt8} {s : String} : decode bytes = .ok s ↔ bytes = encode s := by
  constructor
  · intro h
    rw [decode] at h
    cases hcs : decodeFrom 0 bytes with
    | error f =>
      rw [hcs] at h
      cases h
    | ok cs =>
      rw [hcs] at h
      cases h
      rw [encode, String.toList_ofList, flatMap_of_decodeFrom hcs]
  · rintro rfl
    exact decode_encode s

/-! ### Newlines -/

theorem normalizeBreaks_of_not_mem {cs : List Char} (h : '\r' ∉ cs) : normalizeBreaks cs = cs := by
  induction cs with
  | nil => rfl
  | cons c rest ih =>
    rw [List.mem_cons, not_or] at h
    rw [normalizeBreaks]
    · rw [ih h.2]
    · rintro rest' rfl
      exact absurd rfl h.1
    · rintro rfl
      exact absurd rfl h.1

/-- No carriage return is left where every newline has become a line feed. -/
theorem notMem_normalizeBreaks (cs : List Char) : '\r' ∉ normalizeBreaks cs := by
  fun_induction normalizeBreaks cs with
  | case1 => simp
  | case2 rest ih => simpa using ih
  | case3 rest _ ih => simpa using ih
  | case4 c rest _ hc ih =>
    rw [List.mem_cons, not_or]
    exact ⟨fun heq => hc heq.symm, ih⟩

end Text

/-- What is read as a text is the encoding of one whose newlines may be spelled otherwise. -/
theorem textOfBytes_eq_ok_iff {bytes : List UInt8} {text : String} : textOfBytes bytes = .ok text ↔
    ∃ s, bytes = Text.encode s ∧ text.toList = Text.normalizeBreaks s.toList := by
  rw [textOfBytes]
  cases hdecoded : Text.decode bytes with
  | error f =>
    refine iff_of_false nofun ?_
    rintro ⟨s, hs, -⟩
    rw [Text.decode_eq_ok_iff.2 hs] at hdecoded
    cases hdecoded
  | ok s =>
    constructor
    · rintro ⟨⟩
      exact ⟨s, Text.decode_eq_ok_iff.1 hdecoded, String.toList_ofList⟩
    · rintro ⟨s', hs', htext⟩
      obtain rfl := Except.ok.inj (hdecoded.symm.trans (Text.decode_eq_ok_iff.2 hs'))
      rw [Except.map, ← htext, String.ofList_toList]

/-- A text that is read from a file holds no carriage return. -/
theorem notMem_of_textOfBytes {bytes : List UInt8} {text : String} (h : textOfBytes bytes = .ok text) :
    '\r' ∉ text.toList := by
  obtain ⟨s, -, htext⟩ := textOfBytes_eq_ok_iff.1 h
  rw [htext]
  exact Text.notMem_normalizeBreaks _

/-- A text without carriage returns is read back from the file that it was written to. -/
theorem textOfBytes_encode {s : String} (h : '\r' ∉ s.toList) : textOfBytes (Text.encode s) = .ok s := by
  rw [textOfBytes, Text.decode_encode]
  simp only [Except.map, Text.normalizeBreaks_of_not_mem h, String.ofList_toList]

end NavFactory
