import Mathlib.Data.List.Forall2
import NavFactory.Proofs.Encoding
import NavFactory.Proofs.Escaping
import NavFactory.Proofs.Excluding

/-!
# Ignore files

What the lines of an ignore file mean to git is said of the names that lead to a place, so that no wildcard stretches over
a slash (`IgnorePattern.Matches`, `Ignores`).  A scan compares texts instead, where a wildcard stands for a slash as well,
and a pattern without slashes also concerns what lies below a place that it matches.  The two agree about patterns
whose wildcards cannot stretch, as long as no directory that a pattern matches is taken back (`scan_ignoring`), but not in
general (`exists_not_ignored`).
-/

namespace NavFactory

open Entry

variable {names parts : List String} {text name part : String} {tree e : Entry} {contents : List UInt8}
  {current excludes : List String} {manifest : Manifest} {records : List LogRecord}

/-! ### Wildcards -/

namespace Glob

/-- Whether a pattern stands for a text: a star for any characters, a question mark for any one, and every character for
itself. -/
inductive StandsFor : List Char → List Char → Prop
  | nil : StandsFor [] []
  | many {pattern cs : List Char} (front : List Char) : StandsFor pattern cs → StandsFor ('*' :: pattern) (front ++ cs)
  | one {pattern cs : List Char} (c : Char) : StandsFor pattern cs → StandsFor ('?' :: pattern) (c :: cs)
  | exactly {pattern cs : List Char} (c : Char) : StandsFor pattern cs → StandsFor (c :: pattern) (c :: cs)

variable {pattern pattern' cs cs' stem : List Char}

theorem StandsFor.refl (cs : List Char) : StandsFor cs cs := by
  induction cs with
  | nil => exact .nil
  | cons c rest ih => exact .exactly c ih

theorem StandsFor.append (h : StandsFor pattern cs) (h' : StandsFor pattern' cs') :
    StandsFor (pattern ++ pattern') (cs ++ cs') := by
  induction h with
  | nil => exact h'
  | many front _ ih =>
    rw [List.append_assoc]
    exact .many front ih
  | one c _ ih => exact .one c ih
  | exactly c _ ih => exact .exactly c ih

theorem standsFor_nil_iff : StandsFor [] cs ↔ cs = [] := by
  constructor
  · intro h
    cases h
    rfl
  · rintro rfl
    exact .nil

theorem standsFor_many_iff : StandsFor ('*' :: pattern) cs ↔ ∃ back, back <:+ cs ∧ StandsFor pattern back := by
  constructor
  · intro h
    cases h with
    | many front h => exact ⟨_, List.suffix_append _ _, h⟩
    | exactly _ h => exact ⟨_, List.suffix_cons _ _, h⟩
  · rintro ⟨back, ⟨front, rfl⟩, h⟩
    exact .many front h

/-- A character that is no star stands for a single one. -/
theorem standsFor_cons_iff {c : Char} (hstar : c ≠ '*') :
    StandsFor (c :: pattern) cs ↔ ∃ d rest, cs = d :: rest ∧ (c = '?' ∨ c = d) ∧ StandsFor pattern rest := by
  constructor
  · intro h
    cases h with
    | many => exact absurd rfl hstar
    | one d h => exact ⟨d, _, rfl, .inl rfl, h⟩
    | exactly _ h => exact ⟨_, _, rfl, .inr rfl, h⟩
  · rintro ⟨d, rest, rfl, rfl | rfl, h⟩
    · exact .one d h
    · exact .exactly c h

theorem standsFor_exactly_iff {c : Char} (hstar : c ≠ '*') (hquestion : c ≠ '?') :
    StandsFor (c :: pattern) cs ↔ ∃ rest, cs = c :: rest ∧ StandsFor pattern rest := by
  rw [standsFor_cons_iff hstar]
  constructor
  · rintro ⟨d, rest, rfl, hd, h⟩
    rw [hd.resolve_left hquestion]
    exact ⟨rest, rfl, h⟩
  · rintro ⟨rest, rfl, h⟩
    exact ⟨c, rest, rfl, .inr rfl, h⟩

instance StandsFor.decide : (pattern cs : List Char) → Decidable (StandsFor pattern cs)
  | [], cs => decidable_of_iff (cs = []) standsFor_nil_iff.symm
  | c :: pattern, cs =>
    have : ∀ cs, Decidable (StandsFor pattern cs) := StandsFor.decide pattern
    if hstar : c = '*' then
      decidable_of_iff (∃ back ∈ cs.tails, StandsFor pattern back)
        (by simp only [hstar, standsFor_many_iff, List.mem_tails])
    else match cs with
      | [] => .isFalse (by simp [standsFor_cons_iff hstar])
      | d :: cs => decidable_of_iff ((c = '?' ∨ c = d) ∧ StandsFor pattern cs) (by simp [standsFor_cons_iff hstar])

/-- A text without special characters in front of a pattern stands for itself. -/
theorem standsFor_literal_append_iff (h : IsLiteral stem) :
    StandsFor (stem ++ pattern) cs ↔ ∃ rest, cs = stem ++ rest ∧ StandsFor pattern rest := by
  induction stem generalizing cs with
  | nil => simp
  | cons c stem ih =>
    obtain ⟨⟨hstar, hquestion, -⟩, hstem⟩ := List.forall_mem_cons.1 h
    rw [List.cons_append, standsFor_exactly_iff hstar hquestion]
    constructor
    · rintro ⟨rest, rfl, hrest⟩
      obtain ⟨rest, rfl, hpattern⟩ := (ih hstem).1 hrest
      exact ⟨rest, rfl, hpattern⟩
    · rintro ⟨rest, rfl, hpattern⟩
      exact ⟨stem ++ rest, rfl, (ih hstem).2 ⟨rest, rfl, hpattern⟩⟩

/-- Whether a part of a pattern stands for a name. -/
def Covers (part name : String) : Prop := StandsFor part.toList name.toList

instance (part name : String) : Decidable (Covers part name) := StandsFor.decide _ _

/-- Stars that follow a star add nothing. -/
theorem standsFor_many_dropWhile :
    StandsFor ('*' :: pattern) cs ↔ ∃ back, back <:+ cs ∧ StandsFor (pattern.dropWhile (· == '*')) back := by
  induction pattern generalizing cs with
  | nil => exact standsFor_many_iff
  | cons c rest ih =>
    by_cases hc : c = '*'
    · subst hc
      rw [List.dropWhile_cons_of_pos (by simp), standsFor_many_iff]
      constructor
      · rintro ⟨back, hback, h⟩
        obtain ⟨back', hback', h⟩ := ih.1 h
        exact ⟨back', hback'.trans hback, h⟩
      · rintro ⟨back, hback, h⟩
        exact ⟨cs, List.suffix_refl _, ih.2 ⟨back, hback, h⟩⟩
    · rw [List.dropWhile_cons_of_neg (by simpa using hc), standsFor_many_iff]

theorem standsFor_stars_iff {stars : Nat} : StandsFor (List.replicate stars '*') cs ↔ cs = [] ∨ stars ≠ 0 := by
  have hnil : ∀ stars, StandsFor (List.replicate stars '*') [] := by
    intro stars
    induction stars with
    | zero => exact .nil
    | succ stars ih => exact .many [] ih
  cases stars with
  | zero => simp [standsFor_nil_iff]
  | succ stars =>
    refine iff_of_true ?_ (.inr (Nat.succ_ne_zero stars))
    have hall := StandsFor.many cs (hnil stars)
    rwa [List.append_nil] at hall

/-- Stars behind a text that has no slash can stop in front of one. -/
theorem StandsFor.of_stretched {stars : Nat} (hstem : IsLiteral stem) (hslash : '/' ∉ stem)
    (h : StandsFor (stem ++ List.replicate stars '*') (cs ++ '/' :: cs')) :
    StandsFor (stem ++ List.replicate stars '*') cs := by
  rw [standsFor_literal_append_iff hstem] at h ⊢
  obtain ⟨rest, hrest, hstars⟩ := h
  have hsome : rest ≠ [] → stars ≠ 0 := fun hne => (standsFor_stars_iff.1 hstars).resolve_left hne
  obtain ⟨more, hmore, htail⟩ | ⟨more, hmore, htail⟩ := List.append_eq_append_iff.1 hrest
  · cases more with
    | nil =>
      refine ⟨[], by rw [hmore, List.append_nil, List.append_nil], standsFor_stars_iff.2 (.inl rfl)⟩
    | cons c more =>
      obtain ⟨rfl, -⟩ := List.cons_eq_cons.1 htail
      exact absurd (hmore ▸ List.mem_append_right _ List.mem_cons_self) hslash
  · exact ⟨more, hmore, standsFor_stars_iff.2 (.inr (hsome (by simp [htail])))⟩

private theorem mem_suffixes : cs' ∈ suffixes cs ↔ cs' <:+ cs := by
  induction cs with
  | nil => simp [suffixes]
  | cons c rest ih => rw [suffixes, List.mem_cons, ih, List.suffix_cons_iff]

private theorem accepts_piecesOf_iff {fuel : Nat} (hbracket : '[' ∉ pattern) (hfuel : pattern.length < fuel) :
    accepts (piecesOf fuel pattern) cs = true ↔ StandsFor pattern cs := by
  -- each piece is read off at least one character, so that the fuel lasts for the whole pattern
  induction fuel generalizing pattern cs with
  | zero => omega
  | succ fuel ih =>
    cases pattern with
    | nil => rw [piecesOf, accepts, List.isEmpty_iff, standsFor_nil_iff]
    | cons c rest =>
      obtain ⟨hc, hrest⟩ : c ≠ '[' ∧ '[' ∉ rest := by
        rw [List.mem_cons, not_or] at hbracket
        exact ⟨fun heq => hbracket.1 heq.symm, hbracket.2⟩
      rw [List.length_cons] at hfuel
      by_cases hstar : c = '*'
      · subst hstar
        have hdropped : '[' ∉ rest.dropWhile (· == '*') := fun h => hrest ((List.dropWhile_suffix _).subset h)
        have hlength := (List.dropWhile_suffix (l := rest) (· == '*')).length_le
        rw [piecesOf, accepts, List.any_eq_true, standsFor_many_dropWhile]
        refine exists_congr fun back => ?_
        rw [mem_suffixes, ih hdropped (by omega)]
      · by_cases hquestion : c = '?'
        · subst hquestion
          rw [piecesOf, standsFor_cons_iff hstar]
          cases cs with
          | nil => simp [accepts]
          | cons d cs => simp [accepts, pieceHolds, ih hrest (by omega : rest.length < fuel)]
        · have hpieces : piecesOf (fuel + 1) (c :: rest) = .exactly c :: piecesOf fuel rest := by
            rw [piecesOf]
            · exact hstar
            · exact hquestion
            · exact hc
          rw [hpieces, standsFor_exactly_iff hstar hquestion]
          cases cs with
          | nil => simp [accepts]
          | cons d cs =>
            simp [accepts, pieceHolds, ih hrest (by omega : rest.length < fuel), and_assoc]

/-- Without brackets, a scan compares texts as the wildcards say. -/
theorem matchesText_iff {pattern text : String} (h : '[' ∉ pattern.toList) :
    matchesText pattern text = true ↔ StandsFor pattern.toList text.toList :=
  accepts_piecesOf_iff h (by rw [String.length_toList]; omega)

end Glob

/-! ### Patterns about paths -/

private theorem toList_spelled_cons (hne : names ≠ []) :
    (spelled (name :: names)).toList = name.toList ++ '/' :: (spelled names).toList := by
  rw [spelled, String.intercalate_cons_of_ne_nil hne]
  simp [spelled]

private theorem toList_spelled_singleton (name : String) : (spelled [name]).toList = name.toList := by
  rw [spelled, String.intercalate_singleton]

private theorem cut_inj {xs ys us vs : List Char} (hxs : '/' ∉ xs) (hys : '/' ∉ ys)
    (h : xs ++ '/' :: us = ys ++ '/' :: vs) : xs = ys ∧ us = vs := by
  induction xs generalizing ys with
  | nil =>
    cases ys with
    | nil => exact ⟨rfl, (List.cons_eq_cons.1 h).2⟩
    | cons d ys => exact absurd ((List.cons_eq_cons.1 h).1 ▸ List.mem_cons_self) hys
  | cons c xs ih =>
    cases ys with
    | nil => exact absurd ((List.cons_eq_cons.1 h).1 ▸ List.mem_cons_self) hxs
    | cons d ys =>
      obtain ⟨rfl, hrest⟩ := List.cons_eq_cons.1 h
      obtain ⟨rfl, hafter⟩ := ih (fun hmem => hxs (List.mem_cons_of_mem _ hmem))
        (fun hmem => hys (List.mem_cons_of_mem _ hmem)) hrest
      exact ⟨rfl, hafter⟩

/-- A pattern whose parts stand for names stands for the path that the names spell. -/
theorem standsFor_spelled (h : List.Forall₂ Glob.Covers parts names) :
    Glob.StandsFor (spelled parts).toList (spelled names).toList := by
  induction h with
  | nil => exact .nil
  | @cons part name parts names hpart hrest ih =>
    by_cases hparts : parts = []
    · subst hparts
      cases hrest
      rwa [toList_spelled_singleton, toList_spelled_singleton]
    · have hnames : names ≠ [] := by
        rintro rfl
        cases hrest
        exact hparts rfl
      rw [toList_spelled_cons hparts, toList_spelled_cons hnames]
      exact hpart.append (.exactly '/' ih)

/-- A path that goes on from another leads through its names. -/
theorem prefix_of_spelled (hparts : ∀ n ∈ parts, '/' ∉ n.toList) (hnames : ∀ n ∈ names, '/' ∉ n.toList)
    (hne : parts ≠ []) (h : (spelled parts).toList ++ ['/'] <+: (spelled names).toList) : parts <+: names := by
  induction parts generalizing names with
  | nil => exact absurd rfl hne
  | cons part parts ih =>
    obtain ⟨hpart, hparts⟩ := List.forall_mem_cons.1 hparts
    obtain ⟨rest, hrest⟩ := h
    cases names with
    | nil => simp [spelled] at hrest
    | cons name names =>
      obtain ⟨hname, hnames⟩ := List.forall_mem_cons.1 hnames
      by_cases hnil : names = []
      · subst hnil
        rw [toList_spelled_singleton] at hrest
        exact absurd (hrest ▸ by simp : '/' ∈ name.toList) hname
      rw [toList_spelled_cons hnil] at hrest
      by_cases hlast : parts = []
      · subst hlast
        rw [toList_spelled_singleton, List.append_assoc, List.singleton_append] at hrest
        obtain ⟨heq, -⟩ := cut_inj hpart hname hrest
        rw [String.toList_inj.1 heq]
        exact ⟨names, rfl⟩
      · rw [toList_spelled_cons hlast, List.append_assoc, List.append_assoc, List.cons_append] at hrest
        obtain ⟨heq, hrest⟩ := cut_inj hpart hname hrest
        rw [String.toList_inj.1 heq]
        exact List.cons_prefix_cons.2 ⟨rfl, ih hparts hnames hlast ⟨rest, by simpa using hrest⟩⟩

/-- Of a text that ends in stars, what is cut off at a slash lies in front of the stars. -/
private theorem exists_stem_of_cut {part rest stem : List Char} {stars : Nat}
    (h : part ++ '/' :: rest = stem ++ List.replicate stars '*') :
    ∃ more, stem = part ++ '/' :: more ∧ rest = more ++ List.replicate stars '*' := by
  have hstars : '/' ∉ List.replicate stars '*' := fun hmem => absurd (List.eq_of_mem_replicate hmem) (by decide)
  obtain ⟨more, hmore, hrest⟩ | ⟨more, -, hrest⟩ := List.append_eq_append_iff.1 h
  · cases more with
    | nil =>
      rw [List.nil_append] at hrest
      exact absurd (hrest ▸ List.mem_cons_self) hstars
    | cons c more =>
      rw [List.cons_append, List.cons_eq_cons] at hrest
      obtain ⟨rfl, hrest⟩ := hrest
      exact ⟨more, hmore, hrest⟩
  · exact absurd (hrest ▸ List.mem_append_right _ List.mem_cons_self) hstars

/-- Where no wildcard can stretch over a slash, a pattern that stands for a path stands for the names at its start, one by
one. -/
theorem exists_prefix_of_standsFor {stem : List Char} {stars : Nat} (hparts : ∀ n ∈ parts, '/' ∉ n.toList)
    (hnames : ∀ n ∈ names, '/' ∉ n.toList) (hne : parts ≠ []) (hne' : names ≠ []) (hstem : Glob.IsLiteral stem)
    (htext : (spelled parts).toList = stem ++ List.replicate stars '*')
    (h : Glob.StandsFor (spelled parts).toList (spelled names).toList) :
    ∃ front ≠ [], front <+: names ∧
      List.Forall₂ Glob.Covers parts front := by
  induction parts generalizing names stem with
  | nil => exact absurd rfl hne
  | cons part parts ih =>
    obtain ⟨hpart, hparts⟩ := List.forall_mem_cons.1 hparts
    obtain ⟨name, names, rfl⟩ := List.exists_cons_of_ne_nil hne'
    obtain ⟨hname, hnames⟩ := List.forall_mem_cons.1 hnames
    by_cases hlast : parts = []
    · -- the last part is the only one whose stars may stretch
      subst hlast
      rw [toList_spelled_singleton] at htext h
      refine ⟨[name], List.cons_ne_nil _ _, ⟨names, rfl⟩, .cons ?_ .nil⟩
      by_cases hnil : names = []
      · subst hnil
        rwa [toList_spelled_singleton] at h
      have hfree : '/' ∉ stem := fun hmem => hpart (htext ▸ List.mem_append_left _ hmem)
      rw [toList_spelled_cons hnil, htext] at h
      rw [Glob.Covers, htext]
      exact h.of_stretched hstem hfree
    · -- a part in front of the last lies in the stem
      rw [toList_spelled_cons hlast] at htext h
      obtain ⟨rest, rfl, hrest⟩ := exists_stem_of_cut htext
      have hliteral : Glob.IsLiteral part.toList := fun c hc => hstem c (List.mem_append_left _ hc)
      have hrestLiteral : Glob.IsLiteral rest := fun c hc =>
        hstem c (List.mem_append_right _ (List.mem_cons_of_mem _ hc))
      rw [Glob.standsFor_literal_append_iff hliteral] at h
      obtain ⟨after, hafter, hbelow⟩ := h
      rw [Glob.standsFor_exactly_iff (by decide) (by decide)] at hbelow
      obtain ⟨after, rfl, hbelow⟩ := hbelow
      by_cases hnil : names = []
      · subst hnil
        rw [toList_spelled_singleton] at hafter
        exact absurd (hafter ▸ by simp : '/' ∈ name.toList) hname
      rw [toList_spelled_cons hnil] at hafter
      obtain ⟨heq, rfl⟩ := cut_inj hname hpart hafter
      obtain ⟨front, -, hfront, hall⟩ := ih hparts hnames hlast hnil hrestLiteral hrest hbelow
      refine ⟨name :: front, List.cons_ne_nil _ _, List.cons_prefix_cons.2 ⟨rfl, hfront⟩, .cons ?_ hall⟩
      rw [Glob.Covers, heq]
      exact .refl _

/-- A path of names that are not empty does not begin or end with a slash. -/
private theorem ends_spelled (hne : names ≠ []) (h : ∀ n ∈ names, n ≠ "" ∧ '/' ∉ n.toList) :
    (∃ c ∈ (spelled names).toList.head?, c ≠ '/') ∧ ∃ c ∈ (spelled names).toList.getLast?, c ≠ '/' := by
  induction names with
  | nil => exact absurd rfl hne
  | cons name rest ih =>
    obtain ⟨⟨hname, hslash⟩, hrest⟩ := List.forall_mem_cons.1 h
    have hchars : name.toList ≠ [] := fun hnil => hname (String.toList_eq_nil_iff.1 hnil)
    have hother : ∀ c ∈ name.toList, c ≠ '/' := fun c hc heq => hslash (heq ▸ hc)
    have hhead := hother _ (List.head_mem hchars)
    by_cases hnil : rest = []
    · subst hnil
      rw [toList_spelled_singleton]
      exact ⟨⟨_, List.head_mem_head? hchars, hhead⟩,
        ⟨_, List.getLast_mem_getLast? hchars, hother _ (List.getLast_mem hchars)⟩⟩
    · obtain ⟨-, c, hc, hlast⟩ := ih hnil hrest
      rw [toList_spelled_cons hnil, ← List.singleton_append, ← List.append_assoc]
      refine ⟨⟨_, ?_, hhead⟩, ⟨c, List.mem_getLast?_append_of_mem_getLast? hc, hlast⟩⟩
      rw [List.append_assoc]
      exact List.mem_head?_append_of_mem_head? (List.head_mem_head? hchars)

/-! ### Lines and blanks -/

namespace Text

variable {cs : List Char} {o : Option Char} {P : Char → Prop}

-- What is asked of the characters of a text is decided at these characters, and not by going through all that exist.
instance decidableForallMem [DecidablePred P] : Decidable (∀ c ∈ cs, P c) := List.decidableBAll P cs

instance decidableForallMemOption [DecidablePred P] : Decidable (∀ c ∈ o, P c) := Option.decidableForallMem o

private theorem trimRightChars_eq_self (h : ∀ c ∈ cs.getLast?, isBlank c = false) : trimRightChars cs = cs := by
  induction cs with
  | nil => rfl
  | cons c rest ih =>
    rw [trimRightChars, List.foldr_cons, ← trimRightChars]
    cases rest with
    | nil =>
      have hc : isBlank c = false := h c rfl
      simp [trimRightChars, hc]
    | cons d rest =>
      rw [ih (by rwa [List.getLast?_cons_cons] at h)]
      simp

/-- A text with no blank at either end is not trimmed. -/
theorem trimChars_eq_self (hstart : ∀ c ∈ cs.head?, isBlank c = false) (hfinish : ∀ c ∈ cs.getLast?, isBlank c = false) :
    trimChars cs = cs := by
  have hdrop : cs.dropWhile isBlank = cs := by
    cases cs with
    | nil => rfl
    | cons c rest => exact List.dropWhile_cons_of_neg (by simp [hstart c rfl])
  rw [trimChars, hdrop, trimRightChars_eq_self hfinish]

private theorem linesFrom_append (line rest : List Char) (h : ∀ c ∈ cs, isLineBreak c = false) :
    linesFrom line (cs ++ '\n' :: rest) = (line.reverse ++ cs ++ ['\n']) :: linesFrom [] rest := by
  induction cs generalizing line with
  | nil => simp [linesFrom, show isLineBreak '\n' = true from rfl]
  | cons c cs ih =>
    obtain ⟨hc, hcs⟩ := List.forall_mem_cons.1 h
    have hreturn : c ≠ '\r' := by
      rintro rfl
      cases hc
    rw [List.cons_append, linesFrom, if_neg (by simp [hc]), ih _ hcs]
    · simp
    · intro _ heq
      exact absurd heq hreturn

/-- Lines that a line feed ends are read one by one. -/
theorem bareLines_flatMap {lines : List (List Char)} (h : ∀ line ∈ lines, ∀ c ∈ line, isLineBreak c = false) :
    bareLines (lines.flatMap (· ++ ['\n'])) = lines := by
  induction lines with
  | nil => rfl
  | cons line rest ih =>
    obtain ⟨hline, hrest⟩ := List.forall_mem_cons.1 h
    have hbare : ((line ++ ['\n']).reverse.dropWhile isLineBreak).reverse = line := by
      rw [List.reverse_append, List.reverse_singleton, List.singleton_append, List.dropWhile_cons_of_pos (by decide)]
      have hkept : line.reverse.dropWhile isLineBreak = line.reverse := by
        cases hreverse : line.reverse with
        | nil => rfl
        | cons c cs =>
          have hc : c ∈ line := by
            rw [← List.mem_reverse, hreverse]
            exact List.mem_cons_self
          exact List.dropWhile_cons_of_neg (by simp [hline c hc])
      rw [hkept, List.reverse_reverse]
    have hrest := ih hrest
    rw [bareLines, lines] at hrest ⊢
    rw [List.flatMap_cons, List.append_assoc, List.singleton_append, linesFrom_append _ _ hline, List.map_cons, hrest,
      List.reverse_nil, List.nil_append, hbare]

end Text

/-! ### The lines of an ignore file -/

/-- A pattern of an ignore file. -/
structure IgnorePattern where
  /-- Whether it takes back what patterns before it ignore. -/
  negated : Bool := false
  /-- Whether a slash stands in front. -/
  rooted : Bool := false
  /-- The number of double stars in front, each with a slash behind it. -/
  depths : Nat := 0
  /-- What stands between the slashes. -/
  parts : List String
  /-- Whether a slash stands at the end. -/
  directoryOnly : Bool := false

namespace IgnorePattern

variable {p : IgnorePattern} {ps : List IgnorePattern}

/-- The text of a pattern without the slashes around it. -/
def core (p : IgnorePattern) : String := spelled (List.replicate p.depths "**" ++ p.parts)

/-- The text of a pattern without its exclamation mark. -/
def body (p : IgnorePattern) : String :=
  (if p.rooted then "/" else "") ++ p.core ++ (if p.directoryOnly then "/" else "")

/-- The line that spells a pattern. -/
def line (p : IgnorePattern) : String := (if p.negated then "!" else "") ++ p.body

/-- The text of a file of patterns. -/
def fileText (ps : List IgnorePattern) : String := String.join (ps.map fun p => p.line ++ "\n")

/-- Whether a pattern consists of literal characters, stars and question marks, and its line means nothing else. -/
structure IsPlain (p : IgnorePattern) : Prop where
  nonempty : p.parts ≠ []
  parts : ∀ part ∈ p.parts, part ≠ "" ∧ ¬(2 ≤ part.length ∧ ∀ c ∈ part.toList, c = '*')
  characters : ∀ part ∈ p.parts, ∀ c ∈ part.toList, c ∉ ['/', '[', '\\'] ∧ Text.isLineBreak c = false
  start : ∀ c ∈ p.body.toList.head?, Text.isBlank c = false ∧ (p.negated = false → c ≠ '#' ∧ c ≠ '!')
  finish : ∀ c ∈ p.body.toList.getLast?, Text.isBlank c = false

/-- Whether a pattern concerns places at any depth. -/
def Floats (p : IgnorePattern) : Prop := p.depths ≠ 0 ∨ (p.rooted = false ∧ p.parts.length = 1)

/-- Whether a pattern concerns the place that names lead to: its parts stand for the names one by one, or, at any depth,
for the last of them. -/
def Concerns (p : IgnorePattern) (names : List String) : Prop :=
  ∃ front back, names = front ++ back ∧ (front = [] ∨ p.Floats) ∧
    List.Forall₂ Glob.Covers p.parts back

/-- Whether a pattern is about a file or a directory. -/
def Matches (p : IgnorePattern) (names : List String) (isDirectory : Bool) : Prop :=
  (p.directoryOnly = true → isDirectory = true) ∧ p.Concerns names

private theorem isPlain_iff : p.IsPlain ↔ p.parts ≠ [] ∧
    (∀ part ∈ p.parts, part ≠ "" ∧ ¬(2 ≤ part.length ∧ ∀ c ∈ part.toList, c = '*')) ∧
    (∀ part ∈ p.parts, ∀ c ∈ part.toList, c ∉ ['/', '[', '\\'] ∧ Text.isLineBreak c = false) ∧
    (∀ c ∈ p.body.toList.head?, Text.isBlank c = false ∧ (p.negated = false → c ≠ '#' ∧ c ≠ '!')) ∧
    ∀ c ∈ p.body.toList.getLast?, Text.isBlank c = false :=
  ⟨fun ⟨hnonempty, hparts, hcharacters, hstart, hfinish⟩ => ⟨hnonempty, hparts, hcharacters, hstart, hfinish⟩,
    fun ⟨hnonempty, hparts, hcharacters, hstart, hfinish⟩ => ⟨hnonempty, hparts, hcharacters, hstart, hfinish⟩⟩

instance : Decidable p.IsPlain := decidable_of_iff _ isPlain_iff.symm

instance : Decidable p.Floats := inferInstanceAs (Decidable (_ ∨ _))

private theorem concerns_iff : p.Concerns names ↔ ∃ k ∈ List.range (names.length + 1),
    (names.take k = [] ∨ p.Floats) ∧ List.Forall₂ Glob.Covers p.parts (names.drop k) := by
  constructor
  · rintro ⟨front, back, rfl, h⟩
    refine ⟨front.length, List.mem_range.2 (by rw [List.length_append]; omega), ?_⟩
    rwa [List.take_left, List.drop_left]
  · rintro ⟨k, -, h⟩
    exact ⟨names.take k, names.drop k, (List.take_append_drop k names).symm, h⟩

instance : Decidable (p.Concerns names) := decidable_of_iff _ concerns_iff.symm

instance {isDirectory : Bool} : Decidable (p.Matches names isDirectory) := inferInstanceAs (Decidable (_ ∧ _))

/-- Whether no wildcard of a pattern can stretch over a slash: it is compared with single names, or its only wildcards are
stars at the end. -/
def IsTame (p : IgnorePattern) : Prop :=
  p.depths = 0 ∧ ((p.rooted = false ∧ p.parts.length = 1) ∨
    ∃ stem stars, (spelled p.parts).toList = stem ++ List.replicate stars '*' ∧ Glob.IsLiteral stem)

/-- The rule that a scan makes of a pattern. -/
def rule (p : IgnorePattern) : IgnoreRule := ⟨p.core, p.directoryOnly, p.rooted, p.negated, p.core.toList.contains '/'⟩

/-- The components of a pattern, those for its depths among them. -/
private theorem forall_components {P : String → Prop} (hdepth : P "**") (hparts : ∀ part ∈ p.parts, P part) :
    ∀ part ∈ List.replicate p.depths "**" ++ p.parts, P part := by
  refine List.forall_mem_append.2 ⟨fun part hpart => ?_, hparts⟩
  rw [List.eq_of_mem_replicate hpart]
  exact hdepth

private theorem components_ne_nil (h : p.IsPlain) : List.replicate p.depths "**" ++ p.parts ≠ [] :=
  List.append_ne_nil_of_right_ne_nil _ h.nonempty

theorem IsPlain.slash_notMem (h : p.IsPlain) : ∀ part ∈ p.parts, '/' ∉ part.toList := fun part hpart hslash =>
  (h.characters part hpart _ hslash).1 List.mem_cons_self

private theorem IsPlain.characters_core (h : p.IsPlain) :
    ∀ c ∈ p.core.toList, c ≠ '[' ∧ Text.isLineBreak c = false := by
  intro c hc
  obtain rfl | ⟨part, hpart, hc⟩ := eq_or_mem_of_mem_intercalate hc
  · decide
  · have hcharacters : ∀ part ∈ List.replicate p.depths "**" ++ p.parts, ∀ c ∈ part.toList,
        c ≠ '[' ∧ Text.isLineBreak c = false := by
      refine forall_components (by decide) fun part hpart c hc => ?_
      obtain ⟨hspecial, hbreak⟩ := h.characters part hpart c hc
      exact ⟨fun heq => hspecial (by simp [heq]), hbreak⟩
    exact hcharacters part hpart c hc

/-- The text between the slashes does not begin or end with one. -/
private theorem IsPlain.ends_core (h : p.IsPlain) :
    (∃ c ∈ p.core.toList.head?, c ≠ '/') ∧ ∃ c ∈ p.core.toList.getLast?, c ≠ '/' :=
  ends_spelled (components_ne_nil h) (forall_components (by decide) fun part hpart =>
    ⟨(h.parts part hpart).1, h.slash_notMem part hpart⟩)

private theorem IsPlain.trimChars_body (h : p.IsPlain) : Text.trimChars p.body.toList = p.body.toList :=
  Text.trimChars_eq_self (fun c hc => (h.start c hc).1) h.finish

/-- A scan reads the rule of a pattern from its text. -/
theorem ofPattern?_body (h : p.IsPlain) (negated : Bool) : IgnoreRule.ofPattern? p.body negated =
    some ⟨p.core, p.directoryOnly, p.rooted, negated, p.core.toList.contains '/'⟩ := by
  obtain ⟨⟨first, hfirst, hhead⟩, last, hlast, hfinish⟩ := h.ends_core
  let front := (if p.rooted then ['/'] else []) ++ p.core.toList
  have hbody : p.body.toList = front ++ if p.directoryOnly then ['/'] else [] := by
    rw [body]
    split_ifs <;> simp [front, *]
  have hfront : front ≠ [] := List.append_ne_nil_of_right_ne_nil _ (List.ne_nil_of_mem (List.mem_of_mem_head? hfirst))
  -- the mark at the end
  have hdirectory : (p.body.toList.getLast? == some '/') = p.directoryOnly := by
    rw [hbody]
    cases p.directoryOnly with
    | true => simp
    | false =>
      have hend : last ∈ front.getLast? := List.mem_getLast?_append_of_mem_getLast? hlast
      simp [Option.mem_def.1 hend, hfinish]
  have hwithout : (if p.directoryOnly = true then p.body.toList.dropLast else p.body.toList) = front := by
    rw [hbody]
    cases p.directoryOnly <;> simp
  -- the mark at the start
  have hrooted : (front.head? == some '/') = p.rooted := by
    cases hrooted : p.rooted with
    | true => simp [front, hrooted]
    | false => simp [front, hrooted, Option.mem_def.1 hfirst, hhead]
  have hcore : (if p.rooted = true then front.tail else front) = p.core.toList := by
    cases hrooted : p.rooted <;> simp [front, hrooted]
  rw [IgnoreRule.ofPattern?, h.trimChars_body]
  split
  · rename_i hnil
    rw [hbody] at hnil
    exact absurd (List.append_eq_nil_iff.1 hnil).1 hfront
  · simp only [hdirectory, hwithout, hrooted, hcore, String.ofList_toList]

private theorem IsPlain.body_ne_nil (h : p.IsPlain) : p.body.toList ≠ [] := by
  obtain ⟨⟨first, hfirst, -⟩, -⟩ := h.ends_core
  intro hnil
  have hempty : p.body = "" := String.toList_eq_nil_iff.1 hnil
  rw [body, String.append_eq_empty_iff, String.append_eq_empty_iff] at hempty
  rw [hempty.1.2] at hfirst
  cases hfirst

private theorem IsPlain.trimChars_line (h : p.IsPlain) : Text.trimChars p.line.toList = p.line.toList := by
  cases hnegated : p.negated with
  | false => simpa [line, hnegated] using h.trimChars_body
  | true =>
    refine Text.trimChars_eq_self ?_ ?_
    · simp [line, hnegated, show Text.isBlank '!' = false from rfl]
    · intro c hc
      refine h.finish c ?_
      rw [line, hnegated, if_pos rfl, String.toList_append] at hc
      rwa [List.getLast?_append_of_ne_nil _ h.body_ne_nil] at hc

private theorem IsPlain.line_no_breaks (h : p.IsPlain) : ∀ c ∈ p.line.toList, Text.isLineBreak c = false := by
  intro c hc
  rw [line, body, String.toList_append, String.toList_append, String.toList_append, List.mem_append, List.mem_append,
    List.mem_append] at hc
  have hmark : ∀ (present : Bool) (mark : String), mark = "!" ∨ mark = "/" →
      ∀ c ∈ (if present then mark else "").toList, Text.isLineBreak c = false := by
    rintro (_ | _) _ (rfl | rfl) <;> decide
  rcases hc with hc | (hc | hc) | hc
  · exact hmark p.negated "!" (.inl rfl) c hc
  · exact hmark p.rooted "/" (.inr rfl) c hc
  · exact (h.characters_core c hc).2
  · exact hmark p.directoryOnly "/" (.inr rfl) c hc

/-- A scan reads the rules of a file of patterns. -/
theorem ofLines_fileText (h : ∀ p ∈ ps, p.IsPlain) : IgnoreRule.ofLines (fileText ps) = ps.map rule := by
  have hlines : (fileText ps).toList = (ps.map fun p => p.line.toList).flatMap (· ++ ['\n']) := by
    simp [fileText, String.toList_join, List.flatMap_map]
  have hbreaks : ∀ line ∈ ps.map fun p => p.line.toList, ∀ c ∈ line, Text.isLineBreak c = false := by
    intro line hline
    obtain ⟨p, hp, rfl⟩ := List.mem_map.1 hline
    exact (h p hp).line_no_breaks
  have hreturn : '\r' ∉ (fileText ps).toList := by
    rw [hlines]
    intro hmem
    obtain ⟨line, hline, hc⟩ := List.mem_flatMap.1 hmem
    rcases List.mem_append.1 hc with hc | hc
    · exact absurd (hbreaks line hline _ hc) (by decide)
    · exact absurd (List.mem_singleton.1 hc) (by decide)
  rw [IgnoreRule.ofLines, Text.normalizeBreaks_of_not_mem hreturn, hlines, Text.bareLines_flatMap hbreaks,
    List.filterMap_map, ← List.filterMap_eq_map]
  refine List.filterMap_congr fun p hp => ?_
  have hplain := h p hp
  rw [Function.comp_apply, Function.comp_apply, hplain.trimChars_line]
  cases hnegated : p.negated with
  | true =>
    have hline : p.line.toList = '!' :: p.body.toList := by simp [line, hnegated]
    rw [hline]
    change IgnoreRule.ofPattern? (String.ofList p.body.toList) true = some p.rule
    rw [String.ofList_toList, ofPattern?_body hplain, rule, hnegated]
  | false =>
    have hline : p.line.toList = p.body.toList := by simp [line, hnegated]
    obtain ⟨c, rest, hc⟩ := List.exists_cons_of_ne_nil hplain.body_ne_nil
    obtain ⟨hsharp, hmark⟩ := (hplain.start c (by rw [hc]; rfl)).2 hnegated
    rw [hline, hc]
    split
    · rename_i heq
      cases heq
    · rename_i heq
      exact absurd (List.cons_eq_cons.1 heq).1 hsharp
    · rename_i heq
      exact absurd (List.cons_eq_cons.1 heq).1 hmark
    · rw [← hc, String.ofList_toList, ofPattern?_body hplain, rule, hnegated]

/-! ### What a rule is about -/

private theorem slash_mem_spelled_iff (hparts : ∀ part ∈ parts, '/' ∉ part.toList) (hne : parts ≠ []) :
    '/' ∈ (spelled parts).toList ↔ parts.length ≠ 1 := by
  obtain ⟨part, rest, rfl⟩ := List.exists_cons_of_ne_nil hne
  by_cases hrest : rest = []
  · subst hrest
    rw [toList_spelled_singleton]
    simpa using hparts part List.mem_cons_self
  · rw [toList_spelled_cons hrest]
    simpa using hrest

private theorem core_eq (h : p.depths = 0) : p.core = spelled p.parts := by
  rw [core, h, List.replicate_zero, List.nil_append]

private theorem core_ne_empty (h : p.IsPlain) : p.core.isEmpty = false := by
  obtain ⟨⟨first, hfirst, -⟩, -⟩ := h.ends_core
  rw [← Bool.not_eq_true, String.isEmpty_iff]
  intro hempty
  rw [hempty] at hfirst
  cases hfirst

private theorem bracket_notMem (h : p.IsPlain) : '[' ∉ p.core.toList := fun hmem => (h.characters_core _ hmem).1 rfl

/-- A pattern of a single part that is not bound to the root is compared with each name on the way. -/
private theorem applies_bare_iff (hplain : p.IsPlain) (hdepths : p.depths = 0) (hrooted : p.rooted = false)
    (hlength : p.parts.length = 1) (hnames : ∀ n ∈ names, '/' ∉ n.toList) (hne : names ≠ []) {isDirectory : Bool} :
    p.rule.applies (spelled names) isDirectory = true ↔ (p.directoryOnly = true → isDirectory = true) ∧
      ∃ part name, p.parts = [part] ∧ name ∈ names ∧ Glob.StandsFor part.toList name.toList := by
  obtain ⟨part, hpart⟩ := List.length_eq_one_iff.1 hlength
  have hslash : p.core.toList.contains '/' = false := by
    rw [core_eq hdepths, List.contains_eq_mem, decide_eq_false_iff_not,
      slash_mem_spelled_iff hplain.slash_notMem hplain.nonempty]
    exact fun hne => hne hlength
  have hcore : p.core = part := by rw [core_eq hdepths, hpart, spelled, String.intercalate_singleton]
  have hparts : Text.parts '/' (spelled names) = names := Text.parts_intercalate hnames hne
  have hmatches : ∀ name, Glob.matchesText part name = true ↔ Glob.StandsFor part.toList name.toList := fun name =>
    Glob.matchesText_iff (hcore ▸ bracket_notMem hplain)
  have hempty := core_ne_empty hplain
  rw [hcore] at hempty hslash
  rw [IgnoreRule.applies, rule]
  simp only [hcore, hempty, hslash, hrooted, hparts]
  cases p.directoryOnly <;> cases isDirectory <;> simp [hmatches, hpart]

/-- Any other pattern is compared with the whole path. -/
private theorem applies_whole_iff (hplain : p.IsPlain) (hdepths : p.depths = 0)
    (hwhole : ¬(p.rooted = false ∧ p.parts.length = 1)) {isDirectory : Bool} :
    p.rule.applies text isDirectory = true ↔ (p.directoryOnly = true → isDirectory = true) ∧
      (Glob.StandsFor (spelled p.parts).toList text.toList ∨
        (p.directoryOnly = true ∧ (spelled p.parts).toList ++ ['/'] <+: text.toList)) := by
  have hslash : (p.rooted || p.core.toList.contains '/') = true := by
    rw [Bool.or_eq_true, core_eq hdepths, List.contains_iff_mem,
      slash_mem_spelled_iff hplain.slash_notMem hplain.nonempty]
    cases hrooted : p.rooted with
    | true => exact .inl rfl
    | false => exact .inr fun hlength => hwhole ⟨hrooted, hlength⟩
  have hmatches : Glob.matchesText p.core text = true ↔ Glob.StandsFor p.core.toList text.toList :=
    Glob.matchesText_iff (bracket_notMem hplain)
  have hempty := core_ne_empty hplain
  rw [IgnoreRule.applies, rule]
  simp only [hempty, hslash]
  rw [← core_eq hdepths]
  cases p.directoryOnly <;> cases isDirectory <;> simp [hmatches, List.isPrefixOf_iff_prefix]

/-- A pattern that concerns the start of a way matches the place where it leads or a directory on it. -/
private theorem Concerns.exists_matches {front : List String} {isDirectory : Bool} (h : p.Concerns front)
    (hne : front ≠ []) (hfront : front <+: names) (hkind : p.directoryOnly = true → isDirectory = true) :
    p.Matches names isDirectory ∨ ∃ directory ∈ directoriesTo names, p.Matches directory true := by
  obtain rfl | ⟨before, last, rfl⟩ := List.eq_nil_or_concat' names
  · exact absurd (List.prefix_nil.1 hfront) hne
  · rcases List.prefix_concat_iff.1 hfront with rfl | hbefore
    · exact .inl ⟨hkind, h⟩
    · exact .inr ⟨front, mem_directoriesTo.2 ⟨hne, by simpa using hbefore⟩, fun _ => rfl, h⟩

/-- What a rule is about, its pattern matches, or the pattern matches a directory on the way there. -/
theorem exists_matches_of_applies (hplain : p.IsPlain) (htame : p.IsTame) (hnames : ∀ n ∈ names, '/' ∉ n.toList)
    (hne : names ≠ []) {isDirectory : Bool} (h : p.rule.applies (spelled names) isDirectory = true) :
    p.Matches names isDirectory ∨ ∃ directory ∈ directoriesTo names, p.Matches directory true := by
  obtain ⟨hdepths, htext⟩ := htame
  by_cases hbare : p.rooted = false ∧ p.parts.length = 1
  · obtain ⟨hkind, part, name, hpart, hname, hstands⟩ :=
      (applies_bare_iff hplain hdepths hbare.1 hbare.2 hnames hne).1 h
    obtain ⟨before, after, rfl⟩ := List.append_of_mem hname
    have hconcerns : p.Concerns (before ++ [name]) :=
      ⟨before, [name], rfl, .inr (.inr hbare), by rw [hpart]; exact .cons hstands .nil⟩
    exact hconcerns.exists_matches (by simp) ⟨after, by simp⟩ hkind
  · obtain ⟨hkind, hwhole⟩ := (applies_whole_iff hplain hdepths hbare).1 h
    obtain ⟨stem, stars, hstem, hliteral⟩ := htext.resolve_left hbare
    rcases hwhole with hstands | ⟨-, hbelow⟩
    · obtain ⟨front, hfrontNe, hfront, hall⟩ :=
        exists_prefix_of_standsFor hplain.slash_notMem hnames hplain.nonempty hne hliteral hstem hstands
      exact Concerns.exists_matches ⟨[], front, rfl, .inl rfl, hall⟩ hfrontNe hfront hkind
    · have hfront := prefix_of_spelled hplain.slash_notMem hnames hplain.nonempty hbelow
      have hall : List.Forall₂ Glob.Covers p.parts p.parts :=
        List.forall₂_same.2 fun part _ => .refl _
      exact Concerns.exists_matches ⟨[], p.parts, rfl, .inl rfl, hall⟩ hplain.nonempty hfront hkind

/-- What a pattern matches, its rule is about. -/
theorem applies_of_matches (hplain : p.IsPlain) (htame : p.IsTame) (hnames : ∀ n ∈ names, '/' ∉ n.toList)
    {isDirectory : Bool} (h : p.Matches names isDirectory) : p.rule.applies (spelled names) isDirectory = true := by
  obtain ⟨hkind, front, back, rfl, hfront, hall⟩ := h
  obtain ⟨hdepths, -⟩ := htame
  by_cases hbare : p.rooted = false ∧ p.parts.length = 1
  · obtain ⟨part, hpart⟩ := List.length_eq_one_iff.1 hbare.2
    rw [hpart] at hall
    cases hall with
    | cons hstands hnil =>
      cases hnil
      refine (applies_bare_iff hplain hdepths hbare.1 hbare.2 hnames (by simp)).2 ⟨hkind, part, _, hpart, ?_, hstands⟩
      exact List.mem_append_right _ List.mem_cons_self
  · have hnil : front = [] := hfront.resolve_right fun hfloats =>
      hfloats.elim (fun hdeep => hdeep hdepths) hbare
    subst hnil
    rw [List.nil_append, applies_whole_iff hplain hdepths hbare]
    exact ⟨hkind, .inl (standsFor_spelled hall)⟩

end IgnorePattern

/-! ### What is ignored -/

variable {ps : List IgnorePattern}

/-- Whether the last pattern that matches a place does not take it back. -/
def Decides (ps : List IgnorePattern) (names : List String) (isDirectory : Bool) : Prop :=
  ∃ before p after, ps = before ++ p :: after ∧ p.Matches names isDirectory ∧ p.negated = false ∧
    ∀ q ∈ after, ¬q.Matches names isDirectory

/-- Whether patterns ignore a file: they decide so about the file or about a directory on the way to it, behind which
nothing is taken back. -/
def Ignores (ps : List IgnorePattern) (names : List String) : Prop :=
  (∃ directory ∈ directoriesTo names, Decides ps directory true) ∨ Decides ps names false

/-- Whether a scan passes over a file because of rules. -/
def IsSkipped (rules : List IgnoreRule) (names : List String) : Prop :=
  (∃ directory ∈ directoriesTo names, isIgnored rules (spelled directory) true = true) ∨
    isIgnored rules (spelled names) false = true

private theorem decides_concat_iff {p : IgnorePattern} {isDirectory : Bool} : Decides (ps ++ [p]) names isDirectory ↔
    (p.Matches names isDirectory ∧ p.negated = false) ∨ (¬p.Matches names isDirectory ∧ Decides ps names isDirectory) := by
  constructor
  · rintro ⟨before, q, after, heq, hmatches, hnegated, hafter⟩
    obtain rfl | ⟨after, last, rfl⟩ := List.eq_nil_or_concat' after
    · obtain ⟨-, hlast⟩ := List.append_inj' heq rfl
      rw [List.cons_eq_cons] at hlast
      rw [hlast.1]
      exact .inl ⟨hmatches, hnegated⟩
    · rw [← List.cons_append, ← List.append_assoc] at heq
      obtain ⟨rfl, hlast⟩ := List.append_inj' heq rfl
      rw [List.cons_eq_cons] at hlast
      rw [hlast.1]
      refine .inr ⟨hafter last (List.mem_append_right _ List.mem_cons_self), before, q, after, rfl, hmatches, hnegated, ?_⟩
      exact fun other hother => hafter other (List.mem_append_left _ hother)
  · rintro (⟨hmatches, hnegated⟩ | ⟨hnot, before, q, after, rfl, hmatches, hnegated, hafter⟩)
    · exact ⟨ps, p, [], rfl, hmatches, hnegated, by simp⟩
    · refine ⟨before, q, after ++ [p], by simp, hmatches, hnegated, ?_⟩
      exact List.forall_mem_append.2 ⟨hafter, by simpa using hnot⟩

private theorem decides_cons_iff {p : IgnorePattern} {isDirectory : Bool} : Decides (p :: ps) names isDirectory ↔
    Decides ps names isDirectory ∨
      (p.Matches names isDirectory ∧ p.negated = false ∧ ∀ q ∈ ps, ¬q.Matches names isDirectory) := by
  constructor
  · rintro ⟨before, q, after, heq, h⟩
    cases before with
    | nil =>
      obtain ⟨rfl, rfl⟩ := List.cons_eq_cons.1 heq
      exact .inr h
    | cons _ before =>
      obtain ⟨rfl, rfl⟩ := List.cons_eq_cons.1 heq
      exact .inl ⟨before, q, after, rfl, h⟩
  · rintro (⟨before, q, after, rfl, h⟩ | h)
    · exact ⟨p :: before, q, after, rfl, h⟩
    · exact ⟨[], p, ps, rfl, h⟩

instance Decides.decide {isDirectory : Bool} : (ps : List IgnorePattern) → Decidable (Decides ps names isDirectory)
  | [] => .isFalse fun ⟨_, _, _, heq, _⟩ => by simp at heq
  | p :: ps =>
    have : Decidable (Decides ps names isDirectory) := Decides.decide ps
    decidable_of_iff _ decides_cons_iff.symm

instance : Decidable (Ignores ps names) :=
  inferInstanceAs (Decidable ((∃ directory ∈ directoriesTo names, Decides ps directory true) ∨ _))

/-- Of patterns that take nothing back, any that matches decides. -/
theorem decides_of_matches {p : IgnorePattern} {isDirectory : Bool} (hnegated : ∀ q ∈ ps, q.negated = false) (hp : p ∈ ps)
    (h : p.Matches names isDirectory) : Decides ps names isDirectory := by
  induction ps using List.reverseRecOn with
  | nil => cases hp
  | append_singleton ps q ih =>
    obtain ⟨hps, hq⟩ := List.forall_mem_append.1 hnegated
    rw [decides_concat_iff]
    by_cases hlast : q.Matches names isDirectory
    · exact .inl ⟨hlast, hq q List.mem_cons_self⟩
    · rcases List.mem_append.1 hp with hp | hp
      · exact .inr ⟨hlast, ih hps hp⟩
      · rw [List.mem_singleton.1 hp] at h
        exact absurd h hlast

/-- Where the rules of patterns are about what the patterns match, a path is ignored if the patterns decide so. -/
private theorem isIgnored_rules_iff {path : String} {isDirectory : Bool}
    (h : ∀ p ∈ ps, p.rule.applies path isDirectory = true ↔ p.Matches names isDirectory) :
    isIgnored (ps.map (·.rule)) path isDirectory = true ↔ Decides ps names isDirectory := by
  -- the last rule that is about the path decides, so the induction takes off the last pattern
  induction ps using List.reverseRecOn with
  | nil =>
    refine iff_of_false (by simp [isIgnored]) ?_
    rintro ⟨before, p, after, heq, -⟩
    simp at heq
  | append_singleton ps p ih =>
    obtain ⟨hps, hp⟩ := List.forall_mem_append.1 h
    have hp := hp p List.mem_cons_self
    rw [decides_concat_iff, ← hp, ← ih hps, List.map_append, isIgnored, List.map_singleton, List.foldl_concat, ← isIgnored]
    have hnegated : p.rule.negated = p.negated := rfl
    by_cases happlies : p.rule.applies path isDirectory = true
    · simp [happlies, hnegated]
    · simp [happlies]

/-- Somewhere on a way that patterns match in places, they do so for the first time. -/
private theorem exists_first {P : List String → Prop} {directory : List String} (h : P directory) (hne : directory ≠ []) :
    ∃ first, first ≠ [] ∧ first <+: directory ∧ P first ∧ ∀ earlier ∈ directoriesTo first, ¬P earlier := by
  by_cases hearlier : ∃ earlier ∈ directoriesTo directory, P earlier
  · obtain ⟨earlier, hmem, hP⟩ := hearlier
    obtain ⟨hearlierNe, hway⟩ := mem_directoriesTo.1 hmem
    have hlength : earlier.length < directory.length := by
      have hle := hway.length_le
      rw [List.length_dropLast] at hle
      have hpos := List.length_pos_iff.2 hne
      omega
    obtain ⟨first, hfirstNe, hfirst, hPfirst, hnone⟩ := exists_first hP hearlierNe
    exact ⟨first, hfirstNe, hfirst.trans (hway.trans (List.dropLast_prefix _)), hPfirst, hnone⟩
  · refine ⟨directory, hne, List.prefix_refl _, h, fun earlier hmem hP => hearlier ⟨earlier, hmem, hP⟩⟩
termination_by directory.length

/-- Behind directories that no pattern matches, a path is ignored if the patterns decide so. -/
private theorem isIgnored_spelled_iff {isDirectory : Bool} (hplain : ∀ p ∈ ps, p.IsPlain) (htame : ∀ p ∈ ps, p.IsTame)
    (hnames : ∀ n ∈ names, '/' ∉ n.toList) (hne : names ≠ [])
    (hnone : ∀ directory ∈ directoriesTo names, ¬∃ p ∈ ps, p.Matches directory true) :
    isIgnored (ps.map (·.rule)) (spelled names) isDirectory = true ↔ Decides ps names isDirectory := by
  refine isIgnored_rules_iff fun p hp =>
    ⟨fun happlies => ?_, IgnorePattern.applies_of_matches (hplain p hp) (htame p hp) hnames⟩
  refine (IgnorePattern.exists_matches_of_applies (hplain p hp) (htame p hp) hnames hne happlies).resolve_right ?_
  rintro ⟨directory, hdirectory, hmatches⟩
  exact hnone directory hdirectory ⟨p, hp, hmatches⟩

/-- As long as no directory that a pattern matches is taken back, a scan passes over the files that the patterns ignore. -/
theorem isSkipped_iff (hplain : ∀ p ∈ ps, p.IsPlain) (htame : ∀ p ∈ ps, p.IsTame)
    (hnames : ∀ n ∈ names, '/' ∉ n.toList) (hne : names ≠ [])
    (hback : ∀ directory ∈ directoriesTo names, (∃ p ∈ ps, p.Matches directory true) → Decides ps directory true) :
    IsSkipped (ps.map (·.rule)) names ↔ Ignores ps names := by
  have hsteps : ∀ {directory : List String}, directory <+: names.dropLast → ∀ n ∈ directory, '/' ∉ n.toList :=
    fun hway n hn => hnames n (List.mem_of_mem_dropLast (hway.subset hn))
  by_cases hsome : ∃ directory ∈ directoriesTo names, ∃ p ∈ ps, p.Matches directory true
  · -- the first directory that a pattern matches is ignored by both
    obtain ⟨directory, hdirectory, hmatched⟩ := hsome
    obtain ⟨hdirectoryNe, hway⟩ := mem_directoriesTo.1 hdirectory
    obtain ⟨first, hfirstNe, hfirst, hmatched, hnone⟩ :=
      exists_first (P := fun place => ∃ p ∈ ps, p.Matches place true) hmatched hdirectoryNe
    have hmem : first ∈ directoriesTo names := mem_directoriesTo.2 ⟨hfirstNe, hfirst.trans hway⟩
    have hdecides := hback first hmem hmatched
    have hignored := (isIgnored_spelled_iff hplain htame (hsteps (hfirst.trans hway)) hfirstNe hnone).2 hdecides
    exact iff_of_true (.inl ⟨first, hmem, hignored⟩) (.inl ⟨first, hmem, hdecides⟩)
  · have hnone : ∀ directory ∈ directoriesTo names, ¬∃ p ∈ ps, p.Matches directory true := fun directory hmem hmatched =>
      hsome ⟨directory, hmem, hmatched⟩
    have hearlier : ∀ {directory : List String}, directory ∈ directoriesTo names →
        ∀ earlier ∈ directoriesTo directory, ¬∃ p ∈ ps, p.Matches earlier true := by
      intro directory hmem earlier hearlier
      obtain ⟨-, hway⟩ := mem_directoriesTo.1 hmem
      obtain ⟨hearlierNe, hearlierPrefix⟩ := mem_directoriesTo.1 hearlier
      exact hnone earlier (mem_directoriesTo.2
        ⟨hearlierNe, hearlierPrefix.trans ((List.dropLast_prefix _).trans hway)⟩)
    rw [IsSkipped, Ignores, isIgnored_spelled_iff hplain htame hnames hne hnone]
    refine or_congr_left (exists_congr fun directory => and_congr_right fun hmem => ?_)
    obtain ⟨hdirectoryNe, hway⟩ := mem_directoriesTo.1 hmem
    exact isIgnored_spelled_iff hplain htame (hsteps hway) hdirectoryNe (hearlier hmem)

/-! ### Scans -/

/-- Whether the ignore file below a root consists of patterns. -/
def HoldsPatterns (tree : Entry) (root : Path) (ps : List IgnorePattern) : Prop :=
  tree.readText (root.child ignoreFileName) = .ok (IgnorePattern.fileText ps)

instance {root : Path} : Decidable (HoldsPatterns tree root ps) := inferInstanceAs (Decidable (_ = _))

private theorem ignoreFileRules_eq {root : Path} (hplain : ∀ p ∈ ps, p.IsPlain) (h : HoldsPatterns tree root ps) :
    ignoreFileRules tree root = .ok (ps.map (·.rule)) := by
  rw [ignoreFileRules]
  simp only [exists_of_readText h]
  rw [h]
  simp only [IgnorePattern.ofLines_fileText hplain]

/-- Rules that take nothing back do not change which files the rules in front of them pass over. -/
private theorem isSelected_append_iff_not_isSkipped {rules others : List IgnoreRule}
    (hothers : ∀ rule ∈ others, rule.negated = false) :
    IsSelected (rules ++ others) names ↔ IsSelected others names ∧ ¬IsSkipped rules names := by
  have hall : IsSelected ([] ++ others) names ↔ IsSelected [] names ∧ ¬IsCovered others names :=
    isSelected_append_iff hothers
  have hrules : IsSelected rules names ↔ IsSelected [] names ∧ ¬IsSkipped rules names := by
    constructor
    · rintro ⟨hsuffix, hdirectories, hkept, hmodule⟩
      refine ⟨⟨hsuffix, fun directory hmem => ⟨(hdirectories directory hmem).1, rfl⟩, rfl, hmodule⟩, ?_⟩
      rintro (⟨directory, hmem, hignored⟩ | hignored)
      · rw [(hdirectories directory hmem).2] at hignored
        cases hignored
      · rw [hkept] at hignored
        cases hignored
    · rintro ⟨⟨hsuffix, hdirectories, -, hmodule⟩, hskipped⟩
      rw [IsSkipped, not_or, Bool.not_eq_true] at hskipped
      refine ⟨hsuffix, fun directory hmem => ⟨(hdirectories directory hmem).1, ?_⟩, hskipped.2, hmodule⟩
      exact Bool.eq_false_iff.2 fun hignored => hskipped.1 ⟨directory, hmem, hignored⟩
  rw [List.nil_append] at hall
  rw [isSelected_append_iff hothers, hall, hrules, and_right_comm]

/-- The rules of the settings take nothing back. -/
private theorem negated_of_mem_settingsRules {root : Path} {own : List IgnoreRule}
    (h : settingsRules tree root = .ok own) : ∀ rule ∈ own, rule.negated = false := by
  intro rule hrule
  rw [settingsRules] at h
  split at h
  · cases h
    exact IgnoreRule.negated_of_mem_ofPatterns hrule
  · split_ifs at h
    · cases h
      cases hrule

/-- A scan leaves out a file because of the ignore file exactly if git ignores the file, as long as the wildcards of the
patterns cannot stretch over a slash and no directory on the way to the file that a pattern matches is taken back. -/
theorem scan_ignoring {own : List IgnoreRule} (hproper : tree.isProper = true)
    (hscan : scan tree current excludes text = .ok (manifest, records)) (hplain : ∀ p ∈ ps, p.IsPlain)
    (htame : ∀ p ∈ ps, p.IsTame) (hpatterns : HoldsPatterns tree manifest.root ps)
    (hown : settingsRules tree manifest.root = .ok own) (hfind : tree.find manifest.root = .ok e)
    (hfile : e.nodeAt? names = some (.file contents))
    (hback : ∀ directory ∈ directoriesTo names, (∃ p ∈ ps, p.Matches directory true) → Decides ps directory true) :
    (∃ f ∈ manifest.files, f.path = spelled names) ↔
      IsSelected (own ++ IgnoreRule.ofPatterns excludes) names ∧ ¬Ignores ps names := by
  obtain ⟨rules, entries, -, hrules, hfound, hfiles⟩ := scan_ok_iff.1 ⟨records, hscan⟩
  rw [hfind] at hfound
  cases hfound
  have hrules : rules = ps.map (·.rule) ++ (own ++ IgnoreRule.ofPatterns excludes) := by
    rw [scanRules, ignoreFileRules_eq hplain hpatterns, hown] at hrules
    cases hrules
    exact List.append_assoc _ _ _
  have hothers : ∀ rule ∈ own ++ IgnoreRule.ofPatterns excludes, rule.negated = false :=
    List.forall_mem_append.2 ⟨negated_of_mem_settingsRules hown, fun _ => IgnoreRule.negated_of_mem_ofPatterns⟩
  have hentries : (directory entries).isProper = true := isProper_of_find hproper hfind
  have hsteps : ∀ n ∈ names, '/' ∉ n.toList := fun n hn =>
    Path.slash_notMem_of_isStep (isStep_of_nodeAt? hentries hfile n hn)
  have hne := ne_nil_of_file (e := directory entries) rfl hfile
  rw [hfiles, exists_mem_files_iff hentries rfl hfile, hrules, isSelected_append_iff_not_isSkipped hothers,
    isSkipped_iff hplain htame hsteps hne hback]

/-- The patterns of a project with files to try things in. -/
def scratchPatterns : List IgnorePattern :=
  [{ parts := ["scratch"], directoryOnly := true }, { parts := ["*_local.py"] },
    { parts := ["keep_local.py"], negated := true }, { parts := ["docs", "draft*"] }]

/-- A project with files to try things in. -/
def scratchProject : Entry :=
  .directory [("p", .directory [
    (ignoreFileName, .file (Text.encode (IgnorePattern.fileText scratchPatterns))),
    ("scratch", .directory [("tmp.py", .file [])]),
    ("views", .directory [("debug_local.py", .file []), ("keep_local.py", .file [])]),
    ("docs", .directory [("drafts", .directory [("conf.py", .file [])]), ("conf.py", .file [])])])]

def scratchManifest : Manifest where
  root := .absolute ["p"]
  files := [⟨"docs/conf.py", "docs.conf", 0, Digest.sha256 []⟩, ⟨"views/keep_local.py", "views.keep_local", 0, Digest.sha256 []⟩]

private theorem scratch_scan : scratchProject.isProper = true ∧
    scan scratchProject [] [] "/p" = .ok (scratchManifest, [⟨channel "scanner", .debug, "Scanned 2 modules under /p", none⟩]) ∧
    HoldsPatterns scratchProject (.absolute ["p"]) scratchPatterns ∧
    settingsRules scratchProject (.absolute ["p"]) = .ok [] := by
  decide +kernel

theorem scan_ignoring_scratch :
    (scratchProject.isProper = true ∧ (∃ records, scan scratchProject [] [] "/p" = .ok (scratchManifest, records)) ∧
      (∀ p ∈ scratchPatterns, p.IsPlain) ∧ (∀ p ∈ scratchPatterns, p.IsTame) ∧
      HoldsPatterns scratchProject scratchManifest.root scratchPatterns ∧
      settingsRules scratchProject scratchManifest.root = .ok []) ∧
    ((∃ f ∈ scratchManifest.files, f.path = spelled ["scratch", "tmp.py"]) ↔
      IsSelected ([] ++ IgnoreRule.ofPatterns []) ["scratch", "tmp.py"] ∧
        ¬Ignores scratchPatterns ["scratch", "tmp.py"]) ∧
    ((∃ f ∈ scratchManifest.files, f.path = spelled ["views", "keep_local.py"]) ↔
      IsSelected ([] ++ IgnoreRule.ofPatterns []) ["views", "keep_local.py"] ∧
        ¬Ignores scratchPatterns ["views", "keep_local.py"]) := by
  obtain ⟨hproper, hscan, hpatterns, hown⟩ := scratch_scan
  have hplain : ∀ p ∈ scratchPatterns, p.IsPlain := by decide
  have htame : ∀ p ∈ scratchPatterns, p.IsTame := by
    have hstem : (spelled ["docs", "draft*"]).toList = "docs/draft".toList ++ List.replicate 1 '*' := by decide
    have hliteral : Glob.IsLiteral "docs/draft".toList := by
      rw [Glob.IsLiteral]
      decide
    intro p hp
    rcases List.mem_cons.1 hp with rfl | hp
    · exact ⟨rfl, .inl ⟨rfl, rfl⟩⟩
    rcases List.mem_cons.1 hp with rfl | hp
    · exact ⟨rfl, .inl ⟨rfl, rfl⟩⟩
    rcases List.mem_cons.1 hp with rfl | hp
    · exact ⟨rfl, .inl ⟨rfl, rfl⟩⟩
    rw [List.mem_singleton.1 hp]
    exact ⟨rfl, .inr ⟨_, 1, hstem, hliteral⟩⟩
  obtain ⟨e, hfind, hscratch, hviews⟩ : ∃ e, scratchProject.find scratchManifest.root = .ok e ∧
      e.nodeAt? ["scratch", "tmp.py"] = some (.file []) ∧ e.nodeAt? ["views", "keep_local.py"] = some (.file []) :=
    ⟨_, rfl, rfl, rfl⟩
  refine ⟨⟨hproper, ⟨_, hscan⟩, hplain, htame, hpatterns, hown⟩, ?_, ?_⟩
  · exact scan_ignoring hproper hscan hplain htame hpatterns hown hfind hscratch (by decide +kernel)
  · exact scan_ignoring hproper hscan hplain htame hpatterns hown hfind hviews (by decide)

/-- A project with an ignore file for the scripts at its top. -/
def scriptProject : Entry :=
  .directory [("p", .directory [
    (ignoreFileName, .file (Text.encode "/*.py\n")), ("setup.py", .file []),
    ("app", .directory [("screens.py", .file [])])])]

/-- A scan may leave out a file that git does not ignore: the star stretches over the slash. -/
theorem exists_not_ignored :
    ¬∀ (tree : Entry) (current excludes : List String) (text : String) (manifest : Manifest) (records : List LogRecord)
      (ps : List IgnorePattern) (own : List IgnoreRule) (e : Entry) (names : List String) (contents : List UInt8),
      tree.isProper = true → scan tree current excludes text = .ok (manifest, records) → (∀ p ∈ ps, p.IsPlain) →
      HoldsPatterns tree manifest.root ps → settingsRules tree manifest.root = .ok own →
      tree.find manifest.root = .ok e → e.nodeAt? names = some (.file contents) →
      ((∃ f ∈ manifest.files, f.path = spelled names) ↔
        IsSelected (own ++ IgnoreRule.ofPatterns excludes) names ∧ ¬Ignores ps names) := by
  intro hall
  have hproper : scriptProject.isProper = true := by decide
  have hscan : scan scriptProject [] [] "/p" =
      .ok (⟨.absolute ["p"], []⟩, [⟨channel "scanner", .debug, "Scanned 0 modules under /p", none⟩]) := by
    decide +kernel
  have hplain : ∀ p ∈ [({ parts := ["*.py"], rooted := true } : IgnorePattern)], p.IsPlain := by decide
  have hpatterns : HoldsPatterns scriptProject (.absolute ["p"]) [{ parts := ["*.py"], rooted := true }] := by
    decide +kernel
  have hown : settingsRules scriptProject (.absolute ["p"]) = .ok [] := by decide
  have hkept : IsSelected [] ["app", "screens.py"] :=
    ⟨by decide, by decide, by decide, by decide⟩
  obtain ⟨f, hf, -⟩ := (hall _ _ _ _ _ _ _ _ _ ["app", "screens.py"] [] hproper hscan hplain hpatterns hown rfl rfl).2
    ⟨hkept, by decide⟩
  cases hf

end NavFactory
