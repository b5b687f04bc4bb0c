import Mathlib.Data.List.Infix
import NavFactory.Diff.Unified
import NavFactory.Text.Parts

/-!
# Applying patches

A patch is cut at its newlines and followed line by line.  Two lines with the names of the files come first and hunks
behind them: the heading of a hunk tells which lines of both texts it covers, and each of its lines starts with a mark
and keeps, removes or adds a line (`applyPatch`).  A heading that does not fit the lines gone through, a line that the
text does not have, and a hunk that is longer or shorter than its heading says end everything.

Lines that are joined can be told apart again if each but the last ends with a newline (`newlineLines_join`).  If one in a
hunk does not, the hunk comes out shorter than its heading says (`follow_eq_none`, `isTerminated_of_follow`).
-/

namespace NavFactory.Diff

variable {line next s : String} {lines more : List String} {l rest : List Char}

/-! ### Lines -/

/-- The lines of a text that is cut at its newlines only. -/
def newlineCut : List Char → List (List Char)
  | [] => []
  | c :: rest =>
    match newlineCut rest with
    | [] => [[c]]
    | line :: lines => if c == '\n' then [c] :: line :: lines else (c :: line) :: lines

/-- The lines of a text that is cut at its newlines only, each with its newline. -/
def newlineLines (s : String) : List String := (newlineCut s.toList).map String.ofList

/-- Whether a line ends with a newline. -/
def IsTerminated (line : String) : Prop := line.toList.getLast? = some '\n'

instance (line : String) : Decidable (IsTerminated line) := inferInstanceAs (Decidable (_ = _))

/-- Whether a text is one line, with a newline at most at its end. -/
structure IsLine (line : String) : Prop where
  ne : line.toList ≠ []
  inner : '\n' ∉ line.toList.dropLast

private theorem newlineCut_append (h : '\n' ∉ l) (rest : List Char) :
    newlineCut (l ++ '\n' :: rest) = (l ++ ['\n']) :: newlineCut rest := by
  induction l with
  | nil =>
    rw [List.nil_append, newlineCut]
    cases newlineCut rest <;> rfl
  | cons c l ih =>
    rw [List.mem_cons, not_or] at h
    rw [List.cons_append, newlineCut, ih h.2]
    simp [Ne.symm h.1]

private theorem newlineCut_of_notMem (h : '\n' ∉ l) (hne : l ≠ []) : newlineCut l = [l] := by
  induction l with
  | nil => exact absurd rfl hne
  | cons c l ih =>
    rw [List.mem_cons, not_or] at h
    rw [newlineCut]
    cases l with
    | nil => rfl
    | cons d l =>
      rw [ih h.2 (List.cons_ne_nil _ _)]
      simp [Ne.symm h.1]

/-- A line is ended by its newline or has none. -/
theorem IsLine.cases (h : IsLine line) :
    (∃ l, line.toList = l ++ ['\n'] ∧ '\n' ∉ l ∧ IsTerminated line) ∨ '\n' ∉ line.toList ∧ ¬IsTerminated line := by
  by_cases hend : IsTerminated line
  · obtain ⟨l, hl⟩ := List.getLast?_eq_some_iff.1 hend
    have hinner := h.inner
    rw [hl, List.dropLast_concat] at hinner
    exact .inl ⟨l, hl, hinner, hend⟩
  · refine .inr ⟨fun hmem => ?_, hend⟩
    rw [← List.dropLast_append_getLast h.ne, List.mem_append, List.mem_singleton] at hmem
    rcases hmem with hmem | hmem
    · exact h.inner hmem
    · exact hend (by rw [IsTerminated, List.getLast?_eq_some_getLast h.ne, ← hmem])

theorem IsLine.notMem (h : IsLine line) (hend : ¬IsTerminated line) : '\n' ∉ line.toList := by
  obtain ⟨_, _, _, hterminated⟩ | ⟨hmem, _⟩ := h.cases
  · exact absurd hterminated hend
  · exact hmem

/-- A line that ends with a newline is cut off. -/
theorem IsLine.newlineLines_append (h : IsLine line) (hend : IsTerminated line) (s : String) :
    newlineLines (line ++ s) = line :: newlineLines s := by
  obtain ⟨l, hl, hinner, _⟩ | ⟨_, hopen⟩ := h.cases
  · rw [newlineLines, String.toList_append, hl, List.append_assoc, List.singleton_append, newlineCut_append hinner,
      List.map_cons, ← hl, String.ofList_toList]
    rfl
  · exact absurd hend hopen

/-- A line is not cut. -/
theorem IsLine.newlineLines_eq (h : IsLine line) : newlineLines line = [line] := by
  obtain ⟨_, _, _, hend⟩ | ⟨hmem, _⟩ := h.cases
  · simpa [newlineLines, newlineCut] using h.newlineLines_append hend ""
  · rw [newlineLines, newlineCut_of_notMem hmem h.ne, List.map_singleton, String.ofList_toList]

/-- A line without a newline and the line behind it are one. -/
theorem IsLine.append (h : IsLine line) (hend : ¬IsTerminated line) (hnext : IsLine next) : IsLine (line ++ next) where
  ne := by simp [h.ne]
  inner := by
    rw [String.toList_append, List.dropLast_append_of_ne_nil hnext.ne, List.mem_append, not_or]
    exact ⟨h.notMem hend, hnext.inner⟩

/-- What a line that has been put together from two ends with. -/
theorem IsLine.isTerminated_append (h : IsLine next) (line : String) :
    IsTerminated (line ++ next) ↔ IsTerminated next := by
  rw [IsTerminated, IsTerminated, String.toList_append, List.getLast?_append_of_ne_nil _ h.ne]

/-- Lines that are joined come out of the cut if each of them but the last ends with a newline. -/
theorem newlineLines_join (hlines : ∀ line ∈ lines, IsLine line) (hends : ∀ line ∈ lines.dropLast, IsTerminated line) :
    newlineLines (String.join lines) = lines := by
  induction lines with
  | nil => rfl
  | cons line lines ih =>
    obtain ⟨hline, hlines⟩ := List.forall_mem_cons.1 hlines
    cases lines with
    | nil => simpa using hline.newlineLines_eq
    | cons next more =>
      rw [List.dropLast_cons_of_ne_nil (List.cons_ne_nil _ _)] at hends
      obtain ⟨hend, hends⟩ := List.forall_mem_cons.1 hends
      rw [String.join_cons, hline.newlineLines_append hend, ih hlines hends]

/-- Lines that all end with newlines are cut off. -/
theorem newlineLines_join_append (h : ∀ line ∈ lines, IsLine line ∧ IsTerminated line) (more : List String) :
    newlineLines (String.join (lines ++ more)) = lines ++ newlineLines (String.join more) := by
  induction lines with
  | nil => rfl
  | cons line lines ih =>
    obtain ⟨⟨hline, hend⟩, hlines⟩ := List.forall_mem_cons.1 h
    rw [List.cons_append, String.join_cons, hline.newlineLines_append hend, ih hlines, List.cons_append]

/-- What does not have a newline becomes a line with one at its end. -/
theorem isLine_append_newline (h : '\n' ∉ s.toList) : IsLine (s ++ "\n") ∧ IsTerminated (s ++ "\n") := by
  refine ⟨⟨by simp, ?_⟩, by simp [IsTerminated]⟩
  rwa [String.toList_append, show "\n".toList = ['\n'] from rfl, List.dropLast_concat]

/-- What a text is cut into are lines, and each of them but the last ends with a newline. -/
private theorem newlineCut_spec (cs : List Char) :
    (∀ l ∈ newlineCut cs, l ≠ [] ∧ '\n' ∉ l.dropLast) ∧ ∀ l ∈ (newlineCut cs).dropLast, l.getLast? = some '\n' := by
  induction cs with
  | nil => simp [newlineCut]
  | cons c cs ih =>
    rw [newlineCut]
    cases hcut : newlineCut cs with
    | nil => simp
    | cons line lines =>
      rw [hcut] at ih
      obtain ⟨hlines, hends⟩ := ih
      obtain ⟨⟨hne, hinner⟩, hlines⟩ := List.forall_mem_cons.1 hlines
      dsimp only
      split_ifs with hc
      · rw [beq_iff_eq] at hc
        subst hc
        rw [List.dropLast_cons_of_ne_nil (List.cons_ne_nil _ _)]
        exact ⟨List.forall_mem_cons.2 ⟨by simp, List.forall_mem_cons.2 ⟨⟨hne, hinner⟩, hlines⟩⟩,
          List.forall_mem_cons.2 ⟨rfl, hends⟩⟩
      · have hfirst : c :: line ≠ [] ∧ '\n' ∉ (c :: line).dropLast := by
          rw [beq_iff_eq] at hc
          rw [List.dropLast_cons_of_ne_nil hne, List.mem_cons, not_or]
          exact ⟨List.cons_ne_nil _ _, Ne.symm hc, hinner⟩
        refine ⟨List.forall_mem_cons.2 ⟨hfirst, hlines⟩, ?_⟩
        cases lines with
        | nil => simp
        | cons next more =>
          rw [List.dropLast_cons_of_ne_nil (List.cons_ne_nil _ _)] at hends ⊢
          obtain ⟨hend, hends⟩ := List.forall_mem_cons.1 hends
          refine List.forall_mem_cons.2 ⟨?_, hends⟩
          rw [List.getLast?_cons, hend]
          rfl

theorem isLine_of_mem_newlineLines (h : line ∈ newlineLines s) : IsLine line := by
  obtain ⟨l, hl, rfl⟩ := List.mem_map.1 h
  obtain ⟨hne, hinner⟩ := (newlineCut_spec s.toList).1 l hl
  exact ⟨by rwa [String.toList_ofList], by rwa [String.toList_ofList]⟩

theorem isTerminated_of_mem_dropLast (h : line ∈ (newlineLines s).dropLast) : IsTerminated line := by
  rw [newlineLines, ← List.map_dropLast] at h
  obtain ⟨l, hl, rfl⟩ := List.mem_map.1 h
  rw [IsTerminated, String.toList_ofList]
  exact (newlineCut_spec s.toList).2 l hl

/-! ### Lines at all breaks -/

private theorem isLine_of_mem_linesFrom (h : '\n' ∉ l) (hmem : line.toList ∈ Text.linesFrom l rest) : IsLine line := by
  fun_induction Text.linesFrom l rest with
  | case1 l hl => cases hmem
  | case2 l hl =>
    rw [List.mem_singleton] at hmem
    refine ⟨?_, fun hend => h ?_⟩
    · rw [hmem]
      simpa using hl
    · have := List.mem_of_mem_dropLast hend
      rwa [hmem, List.mem_reverse] at this
  | case3 l rest ih =>
    rcases List.mem_cons.1 hmem with heq | hmem
    · refine ⟨by simp [heq], ?_⟩
      rw [heq, List.reverse_cons, List.dropLast_concat, List.mem_reverse, List.mem_cons, not_or]
      exact ⟨by decide, h⟩
    · exact ih (by simp) hmem
  | case4 l c rest hc hbreak ih =>
    rcases List.mem_cons.1 hmem with heq | hmem
    · refine ⟨by simp [heq], ?_⟩
      rwa [heq, List.reverse_cons, List.dropLast_concat, List.mem_reverse]
    · exact ih (by simp) hmem
  | case5 l c rest hc hbreak ih =>
    refine ih ?_ hmem
    rw [List.mem_cons, not_or]
    refine ⟨?_, h⟩
    rintro rfl
    exact hbreak (by decide)

/-- What a text is cut into at all its breaks are lines. -/
theorem isLine_of_mem_textLines (h : line ∈ textLines s) : IsLine line := by
  obtain ⟨l, hl, rfl⟩ := List.mem_map.1 h
  have hmem : (String.ofList l).toList ∈ Text.linesFrom [] s.toList := by rwa [String.toList_ofList]
  exact isLine_of_mem_linesFrom List.not_mem_nil hmem

/-- The lines of a text give it back. -/
theorem join_textLines (s : String) : String.join (textLines s) = s := by
  rw [← String.toList_inj, String.toList_join, textLines, List.flatMap_map]
  simpa [List.flatMap_def, Function.comp_def] using Text.flatten_lines s.toList

/-! ### Ranges and headings -/

/-- Lines that a hunk covers: how many stand in front of them, and how many they are. -/
structure Span where
  front : Nat
  length : Nat
deriving DecidableEq

/-- The number that a text is. -/
def number? (s : String) : Option Nat :=
  if s.toList ≠ [] ∧ s.toList.all Char.isDigit then some (Nat.ofDigitChars 10 s.toList 0) else none

/-- The lines that a range names: those from its start on, or none behind it. -/
def span? (start length : Nat) : Option Span :=
  if length = 0 then some ⟨start, 0⟩ else if start = 0 then none else some ⟨start - 1, length⟩

/-- Reads a range; its length may be left out if it is one. -/
def readRange (s : String) : Option Span :=
  match Text.parts ',' s with
  | [start] => (number? start).bind (span? · 1)
  | [start, length] => (number? start).bind fun start => (number? length).bind (span? start)
  | _ => none

/-- Reads a range behind a sign. -/
def readSigned (sign : Char) (s : String) : Option Span :=
  match s.toList with
  | [] => none
  | c :: rest => if c = sign then readRange (String.ofList rest) else none

/-- Reads the heading of a hunk: the lines of the old and of the new text that it covers. -/
def readHeading (line : String) : Option (Span × Span) :=
  match Text.parts ' ' line with
  | ["@@", old, new, "@@\n"] => (readSigned '-' old).bind fun old => (readSigned '+' new).map fun new => (old, new)
  | _ => none

private theorem number?_repr (n : Nat) : number? n.repr = some n := by
  have hdigits : (Nat.toDigits 10 n).all Char.isDigit = true :=
    List.all_eq_true.2 fun _ => Nat.isDigit_of_mem_toDigits (by decide) (by decide)
  rw [number?, Nat.repr_eq_ofList_toDigits, String.toList_ofList, if_pos ⟨Nat.toDigits_ne_nil, hdigits⟩,
    Nat.ofDigitChars_ten_toDigits]

private theorem notMem_toDigits {c : Char} (hc : c.isDigit = false) (n : Nat) : c ∉ Nat.toDigits 10 n := fun h => by
  rw [Nat.isDigit_of_mem_toDigits (by decide) (by decide) h] at hc
  cases hc

/-- A range that is written comes out of reading. -/
private theorem readRange_rangeText (start stop : Nat) :
    readRange (rangeText start stop) = some ⟨start, stop - start⟩ := by
  have hcomma : ∀ n : Nat, ',' ∉ n.repr.toList := fun n => by simpa using notMem_toDigits rfl n
  have hpair : ∀ m n : Nat, Text.parts ',' (m.repr ++ "," ++ n.repr) = [m.repr, n.repr] := fun m n => by
    rw [show "," = String.singleton ',' from rfl, Text.parts_append, Text.parts_of_notMem (hcomma m),
      Text.parts_of_notMem (hcomma n), List.singleton_append]
  simp only [rangeText, beq_iff_eq, readRange, Nat.toString_eq_repr]
  split_ifs with hone hzero
  · rw [Text.parts_of_notMem (hcomma _)]
    simp [number?_repr, span?, hone]
  · rw [hpair]
    simp [number?_repr, span?, hzero]
  · rw [hpair]
    simp [number?_repr, span?, hzero]

/-- A range has nothing in it but digits and a comma. -/
private theorem notMem_rangeText {c : Char} (hc : c.isDigit = false) (hcomma : c ≠ ',') (start stop : Nat) :
    c ∉ (rangeText start stop).toList := by
  have hdigits : ∀ n : Nat, c ∉ Nat.toDigits 10 n := notMem_toDigits hc
  simp only [rangeText]
  split_ifs <;> simp [hdigits, hcomma]

/-- The heading of a hunk that leads from two positions to two others. -/
def heading (i k j l : Nat) : String := "@@ -" ++ rangeText i k ++ " +" ++ rangeText j l ++ " @@\n"

/-- A heading that is written comes out of reading. -/
theorem readHeading_heading (i k j l : Nat) : readHeading (heading i k j l) = some (⟨i, k - i⟩, ⟨j, l - j⟩) := by
  have hparts : Text.parts ' ' (heading i k j l) = ["@@", "-" ++ rangeText i k, "+" ++ rangeText j l, "@@\n"] := by
    have hjoin : heading i k j l =
        (String.singleton ' ').intercalate ["@@", "-" ++ rangeText i k, "+" ++ rangeText j l, "@@\n"] := by
      rw [← String.toList_inj]
      simp [heading]
    rw [hjoin, Text.parts_intercalate ?_ (List.cons_ne_nil _ _)]
    have hblank := @notMem_rangeText ' ' rfl (by decide)
    simp [hblank]
  rw [readHeading, hparts]
  simp [readSigned, readRange_rangeText]

theorem isLine_heading (i k j l : Nat) : IsLine (heading i k j l) ∧ IsTerminated (heading i k j l) := by
  have hnewline := @notMem_rangeText '\n' rfl (by decide)
  have hheading : heading i k j l = "@@ -" ++ rangeText i k ++ " +" ++ rangeText j l ++ " @@" ++ "\n" := by
    rw [← String.toList_inj]
    simp [heading]
  rw [hheading]
  refine isLine_append_newline ?_
  simp [hnewline]

/-! ### Marked lines -/

/-- What a patch does with a line. -/
inductive Mark
  | kept
  | removed
  | added
deriving DecidableEq

namespace Mark

def text : Mark → String
  | kept => " "
  | removed => "-"
  | added => "+"

def ofChar? : Char → Option Mark
  | ' ' => some kept
  | '-' => some removed
  | '+' => some added
  | _ => none

/-- How many lines of the old text a marked line is. -/
def old : Mark → Nat
  | kept | removed => 1
  | added => 0

/-- How many lines of the new text a marked line is. -/
def new : Mark → Nat
  | kept | added => 1
  | removed => 0

/-- A marked line is one of a text at least. -/
theorem pos (m : Mark) : 0 < m.old + m.new := by
  cases m <;> decide

end Mark

/-- A line of a hunk. -/
structure BodyLine where
  mark : Mark
  line : String
deriving DecidableEq

def BodyLine.text (b : BodyLine) : String := b.mark.text ++ b.line

/-- A line that has taken up another one. -/
def BodyLine.takeUp (b : BodyLine) (next : String) : BodyLine := ⟨b.mark, b.line ++ next⟩

theorem BodyLine.text_takeUp (b : BodyLine) (next : String) : (b.takeUp next).text = b.text ++ next :=
  String.append_assoc.symm

/-- A line is still one behind its mark. -/
theorem BodyLine.isLine_text {b : BodyLine} (h : IsLine b.line) : IsLine b.text := by
  have hmark : IsLine b.mark.text ∧ ¬IsTerminated b.mark.text := by
    cases b.mark <;> exact ⟨⟨by decide, by decide⟩, by decide⟩
  exact hmark.1.append hmark.2 h

theorem BodyLine.isTerminated_text {b : BodyLine} (h : IsLine b.line) : IsTerminated b.text ↔ IsTerminated b.line :=
  h.isTerminated_append _

/-- The lines of the old text in a hunk. -/
def oldLines (body : List BodyLine) : List String := body.flatMap fun b => List.replicate b.mark.old b.line

/-- The lines of the new text in a hunk. -/
def newLines (body : List BodyLine) : List String := body.flatMap fun b => List.replicate b.mark.new b.line

theorem oldLines_cons (b : BodyLine) (body : List BodyLine) :
    oldLines (b :: body) = List.replicate b.mark.old b.line ++ oldLines body := rfl

theorem newLines_cons (b : BodyLine) (body : List BodyLine) :
    newLines (b :: body) = List.replicate b.mark.new b.line ++ newLines body := rfl

theorem length_oldLines_cons (b : BodyLine) (body : List BodyLine) :
    (oldLines (b :: body)).length = b.mark.old + (oldLines body).length := by
  rw [oldLines_cons, List.length_append, List.length_replicate]

theorem length_newLines_cons (b : BodyLine) (body : List BodyLine) :
    (newLines (b :: body)).length = b.mark.new + (newLines body).length := by
  rw [newLines_cons, List.length_append, List.length_replicate]

/-- A line of a patch behind the names of the files. -/
inductive PatchLine
  | heading (old new : Span)
  | body (b : BodyLine)
deriving DecidableEq

/-- Reads a line of a patch. -/
def readLine (line : String) : Option PatchLine :=
  match line.toList with
  | [] => none
  | c :: rest =>
    match Mark.ofChar? c with
    | some mark => some (.body ⟨mark, String.ofList rest⟩)
    | none => (readHeading line).map fun ranges => .heading ranges.1 ranges.2

theorem readLine_text (b : BodyLine) : readLine b.text = some (.body b) := by
  obtain ⟨mark, line⟩ := b
  cases mark <;> simp [readLine, BodyLine.text, Mark.text, Mark.ofChar?]

theorem readLine_heading (i k j l : Nat) : readLine (heading i k j l) = some (.heading ⟨i, k - i⟩ ⟨j, l - j⟩) := by
  rw [readLine, readHeading_heading]
  simp [heading, Mark.ofChar?]

/-! ### Following a patch -/

/-- How far a patch has been applied: how many lines of the old text have been gone through and which are still to come,
the lines of the new text, and how many lines of both the current hunk still has to cover. -/
structure Applied where
  read : Nat
  rest : List String
  written : List String
  oldDue : Nat
  newDue : Nat

namespace Applied

/-- Follows one line of a patch.  A heading copies the lines in front of its hunk. -/
def step (s : Applied) : PatchLine → Option Applied
  | .heading old new =>
    let gap := old.front - s.read
    if s.oldDue = 0 ∧ s.newDue = 0 ∧ s.read ≤ old.front ∧ gap ≤ s.rest.length ∧ new.front = s.written.length + gap then
      some ⟨old.front, s.rest.drop gap, s.written ++ s.rest.take gap, old.length, new.length⟩
    else none
  | .body b =>
    if b.mark.old ≤ s.oldDue ∧ b.mark.new ≤ s.newDue ∧ List.replicate b.mark.old b.line <+: s.rest then
      some ⟨s.read + b.mark.old, s.rest.drop b.mark.old, s.written ++ List.replicate b.mark.new b.line,
        s.oldDue - b.mark.old, s.newDue - b.mark.new⟩
    else none

/-- The lines of the new text if a patch can be followed to its end. -/
def follow : Applied → List String → Option (List String)
  | s, [] => if s.oldDue = 0 ∧ s.newDue = 0 then some (s.written ++ s.rest) else none
  | s, line :: lines => ((readLine line).bind s.step).bind (follow · lines)

end Applied

/-- Applies the patch of a file to its text. -/
def applyPatch (name patch text : String) : Option String :=
  match newlineLines patch with
  | old :: new :: lines =>
    if old = "--- a/" ++ name ++ "\n" ∧ new = "+++ b/" ++ name ++ "\n" then
      (Applied.follow ⟨0, newlineLines text, [], 0, 0⟩ lines).map String.join
    else none
  | _ => none

namespace Applied

variable {a a' : Applied} {b next : BodyLine} {body : List BodyLine}

theorem follow_text_cons (a : Applied) (b : BodyLine) (lines : List String) :
    a.follow (b.text :: lines) = (a.step (.body b)).bind (follow · lines) := by
  rw [follow, readLine_text, Option.bind_some]

/-- A hunk that the text has is followed. -/
theorem follow_body (hstart : oldLines body <+: a.rest) (hold : (oldLines body).length ≤ a.oldDue)
    (hnew : (newLines body).length ≤ a.newDue) (more : List String) :
    a.follow (body.map BodyLine.text ++ more) = follow ⟨a.read + (oldLines body).length,
      a.rest.drop (oldLines body).length, a.written ++ newLines body, a.oldDue - (oldLines body).length,
      a.newDue - (newLines body).length⟩ more := by
  induction body generalizing a with
  | nil => simp [oldLines, newLines]
  | cons b body ih =>
    rw [length_oldLines_cons] at hold ⊢
    rw [length_newLines_cons] at hnew ⊢
    rw [oldLines_cons] at hstart
    have hfirst : List.replicate b.mark.old b.line <+: a.rest := (List.prefix_append _ _).trans hstart
    have hrest : oldLines body <+: a.rest.drop b.mark.old := by
      simpa using hstart.drop b.mark.old
    rw [List.map_cons, List.cons_append, follow_text_cons, step, if_pos ⟨by omega, by omega, hfirst⟩, Option.bind_some,
      ih hrest (by dsimp only; omega) (by dsimp only; omega)]
    simp only [newLines_cons, List.append_assoc, List.drop_drop, Nat.add_assoc, Nat.sub_sub]

/-! ### Lines that run into each other -/

/-- A line of a hunk is taken off what the hunk has to cover. -/
theorem due_of_step (h : a.step (.body b) = some a') :
    a.oldDue = b.mark.old + a'.oldDue ∧ a.newDue = b.mark.new + a'.newDue := by
  rw [step] at h
  split_ifs at h with hfits
  obtain rfl := Option.some.inj h
  dsimp only
  omega

/-- Whether a hunk that is not covered cannot go on with some lines. -/
def Closes (more : List String) : Prop :=
  ∀ a : Applied, a.oldDue + a.newDue ≠ 0 → a.follow (newlineLines (String.join more)) = none

theorem closes_nil : Closes [] := fun a ha => by
  rw [show newlineLines (String.join []) = [] from rfl, follow, if_neg (by omega)]

theorem closes_heading (i k j l : Nat) (more : List String) : Closes (heading i k j l :: more) := fun a ha => by
  obtain ⟨hline, hend⟩ := isLine_heading i k j l
  rw [String.join_cons, hline.newlineLines_append hend, follow, readLine_heading, Option.bind_some, step,
    if_neg (by omega), Option.bind_none]

/-- Whether the end of a hunk can be told from the lines behind it. -/
structure Bounded (body : List BodyLine) (more : List String) : Prop where
  lines : ∀ b ∈ body, IsLine b.text
  last : more ≠ [] → ∀ b ∈ body.getLast?, IsTerminated b.text
  closes : Closes more

theorem Bounded.tail (h : Bounded (b :: body) more) : Bounded body more where
  lines := (List.forall_mem_cons.1 h.lines).2
  last hne c hc := by
    cases body with
    | nil => cases hc
    | cons next body => exact h.last hne c (by rwa [List.getLast?_cons_cons])
  closes := h.closes

/-- A line without a newline takes up the line behind it. -/
theorem Bounded.takeUp (h : Bounded (b :: next :: body) more) (hend : ¬IsTerminated b.text) :
    Bounded (b.takeUp next.text :: body) more where
  lines := by
    obtain ⟨hb, hnext, hbody⟩ := List.forall_mem_cons.1 h.lines |>.imp_right List.forall_mem_cons.1
    exact List.forall_mem_cons.2 ⟨by rw [BodyLine.text_takeUp]; exact hb.append hend hnext, hbody⟩
  last hne c hc := by
    have hlast := h.tail.last hne
    cases body with
    | nil =>
      rw [List.getLast?_singleton, Option.mem_some] at hc
      rw [← hc, BodyLine.text_takeUp, (h.lines next (by simp)).isTerminated_append]
      exact hlast next rfl
    | cons last body => exact hlast c (by rwa [List.getLast?_cons_cons] at hc ⊢)
  closes := h.closes

/-- The first line of a hunk is cut off if it ends with a newline or is the last line of all.  Otherwise it takes up the
line behind it. -/
theorem Bounded.cut (h : Bounded (b :: body) more) :
    newlineLines (String.join ((b :: body).map BodyLine.text ++ more)) =
        b.text :: newlineLines (String.join (body.map BodyLine.text ++ more)) ∧ (IsTerminated b.text ∨ body = []) ∨
      ∃ next rest, body = next :: rest ∧ Bounded (b.takeUp next.text :: rest) more ∧
        String.join ((b :: body).map BodyLine.text ++ more) =
          String.join ((b.takeUp next.text :: rest).map BodyLine.text ++ more) := by
  have hb := h.lines b List.mem_cons_self
  by_cases hend : IsTerminated b.text
  · refine .inl ⟨?_, .inl hend⟩
    rw [List.map_cons, List.cons_append, String.join_cons, hb.newlineLines_append hend]
  · cases body with
    | nil =>
      -- behind a last line without a newline there is nothing
      obtain rfl : more = [] := by
        by_contra hne
        exact hend (h.last hne b rfl)
      refine .inl ⟨?_, .inr rfl⟩
      rw [List.map_nil, List.map_singleton, List.append_nil, String.join_cons, String.join_nil, String.append_empty,
        hb.newlineLines_eq]
      rfl
    | cons next rest =>
      refine .inr ⟨next, rest, rfl, h.takeUp hend, ?_⟩
      simp only [List.map_cons, List.cons_append, String.join_cons, BodyLine.text_takeUp, String.append_assoc]

/-- A hunk that has fewer lines than its heading says cannot be followed, however its lines run into each other. -/
theorem follow_eq_none (hbody : Bounded body more) (hold : (oldLines body).length ≤ a.oldDue)
    (hnew : (newLines body).length ≤ a.newDue)
    (hdue : (oldLines body).length + (newLines body).length < a.oldDue + a.newDue) :
    a.follow (newlineLines (String.join (body.map BodyLine.text ++ more))) = none := by
  induction hn : body.length generalizing body a with
  | zero =>
    obtain rfl := List.eq_nil_of_length_eq_zero hn
    exact hbody.closes a (by omega)
  | succ n ih =>
    obtain ⟨b, body, rfl⟩ := List.exists_cons_of_length_eq_add_one hn
    rw [length_oldLines_cons] at hold hdue
    rw [length_newLines_cons] at hnew hdue
    obtain ⟨hcut, -⟩ | ⟨next, rest, rfl, htaken, hjoin⟩ := hbody.cut
    · rw [hcut, follow_text_cons]
      cases hstep : a.step (.body b) with
      | none => rfl
      | some a' =>
        obtain ⟨hold', hnew'⟩ := due_of_step hstep
        exact ih hbody.tail (by omega) (by omega) (by omega) (by simpa using hn)
    · rw [length_oldLines_cons] at hold hdue
      rw [length_newLines_cons] at hnew hdue
      rw [hjoin]
      refine ih htaken ?_ ?_ ?_ (by simpa using hn)
      all_goals
        simp only [length_oldLines_cons, length_newLines_cons, BodyLine.takeUp]
        omega

/-- A hunk that has as many lines as its heading says can be followed only if each of its lines but the last ends with a
newline. -/
theorem isTerminated_of_follow {lines : List String} (hbody : Bounded body more)
    (hold : (oldLines body).length = a.oldDue) (hnew : (newLines body).length = a.newDue)
    (h : a.follow (newlineLines (String.join (body.map BodyLine.text ++ more))) = some lines) :
    (∀ b ∈ body.dropLast, IsTerminated b.text) ∧
      ∃ a' : Applied, a'.follow (newlineLines (String.join more)) = some lines := by
  induction body generalizing a with
  | nil => exact ⟨by simp, a, h⟩
  | cons b body ih =>
    rw [length_oldLines_cons] at hold
    rw [length_newLines_cons] at hnew
    obtain ⟨hcut, hend⟩ | ⟨next, rest, rfl, htaken, hjoin⟩ := hbody.cut
    · rw [hcut, follow_text_cons] at h
      obtain ⟨a', hstep, h⟩ := Option.bind_eq_some_iff.1 h
      obtain ⟨hold', hnew'⟩ := due_of_step hstep
      obtain ⟨hends, hmore⟩ := ih hbody.tail (by omega) (by omega) h
      refine ⟨fun c hc => ?_, hmore⟩
      cases body with
      | nil => cases hc
      | cons next body =>
        rw [List.dropLast_cons_of_ne_nil (List.cons_ne_nil _ _)] at hc
        rcases List.mem_cons.1 hc with rfl | hc
        · exact hend.resolve_right (List.cons_ne_nil _ _)
        · exact hends c hc
    · -- one line of the hunk is lost in the cut
      have hpos := next.mark.pos
      rw [length_oldLines_cons] at hold
      rw [length_newLines_cons] at hnew
      rw [hjoin, follow_eq_none htaken] at h
      · cases h
      all_goals
        simp only [length_oldLines_cons, length_newLines_cons, BodyLine.takeUp]
        omega

end Applied

end NavFactory.Diff
