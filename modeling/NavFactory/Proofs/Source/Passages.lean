import Mathlib.Algebra.BigOperators.Group.List.Basic
import NavFactory.Proofs.Source.Texts

/-!
# Accepted texts

A generated text is a module exactly if each of its statements is read and violates no rule of its place
(`checkModule_eq_ok_iff`).
-/

namespace NavFactory.Source

open NavFactory.Source.Parser

/-- A statement at the top of a text. -/
inductive Passage
  | doc (s : String)
  | imports (f : ImportForm)
  | body (c : ClassForm)
  | exports (names : List String)

namespace Passage

/-- The kinds of tokens from a statement on. -/
def kinds : Passage → List TokenKind → List TokenKind
  | doc s, tail => (Line.doc s).kinds (.newline :: tail)
  | imports f, tail => f.kinds (.newline :: tail)
  | body c, tail => c.kinds tail
  | exports names, tail => exportKinds names (.newline :: tail)

/-- Whether the words of a statement are names where no other word may stand. -/
def HasNames (n : Nat) : Passage → Prop
  | doc s => '\\' ∉ s.toList
  | imports f => f.HasNames n
  | body c => c.HasNames n
  | exports names => (∀ w ∈ names, '\\' ∉ w.toList) ∧ names.length < n

/-- Whether a statement is read. -/
def isReadable : Passage → Bool
  | imports f => f.isReadable
  | body c => c.isReadable
  | _ => true

/-- What a statement is read as. -/
def IsRead : Passage → Stmt → Prop
  | doc s, stmt => ∃ line line', stmt = .expression line (.constant line' (.text s false))
  | imports f, stmt => ∃ line, stmt = .importFrom line (if f.relative then 1 else 0) (some f.module)
      (some ((f.entry :: f.entries).map ImportEntry.imported))
  | body c, stmt => c.IsRead stmt
  | exports _, stmt => IsHarmlessAssignment stmt

end Passage

/-! ### Statements of a text -/

section Decides

variable {kinds : List TokenKind}

theorem decides_passage (n : Nat) {p : Passage} (hp : p.HasNames n) :
    (Rules.statement (ruleAt (n + 10))).Decides (p.kinds kinds) kinds p.isReadable fun ss => ∃ s, p.IsRead s ∧ ss = [s] := by
  cases p with
  | doc s =>
    refine ((decides_statement_simple rfl (decides_simpleStatements (Nat.succ_pos _) (decides_doc (n + 6) hp))).mono ?_).congr
      (iff_of_true trivial rfl)
    rintro ss ⟨stmt, hstmt, rfl⟩
    exact ⟨stmt, hstmt, rfl⟩
  | imports f =>
    obtain ⟨hrelative, hrest, hentries⟩ := hp
    refine (decides_importFrom (n + 8) ⟨hrelative, by omega, by omega⟩).mono ?_
    rintro ss ⟨line, rfl⟩
    exact ⟨_, ⟨line, rfl⟩, rfl⟩
  | body c => exact decides_class n hp
  | exports names => exact (decides_exports (n + 5) hp.1 (by have := hp.2; omega)).congr (iff_of_true trivial rfl)

/-- No statement starts with the end of a text. -/
private theorem exists_head_passage (p : Passage) (tail : List TokenKind) :
    ∃ k kinds, p.kinds tail = k :: kinds ∧ k ≠ .finish := by
  cases p with
  | doc s => exact ⟨_, _, rfl, nofun⟩
  | imports f => exact ⟨_, _, rfl, nofun⟩
  | body c => exact ⟨_, _, rfl, nofun⟩
  | exports names => exact ⟨_, _, rfl, nofun⟩

/-- The statements of a text are read exactly if each of them is. -/
theorem decides_passages (n : Nat) {ps : List Passage} (hps : ∀ p ∈ ps, p.HasNames n) (hlength : ps.length < n) :
    (Rules.statements (ruleAt (n + 10)) .finish).Decides (ps.foldr Passage.kinds [.finish]) [.finish]
      (∀ p ∈ ps, p.isReadable) (List.Forall₂ Passage.IsRead ps) := by
  obtain ⟨m, hm⟩ : ∃ m, n + 10 = (m + 1) + ps.length := ⟨n + 9 - ps.length, by omega⟩
  rw [Rules.statements, show (ruleAt (n + 10)).fuel = (m + 1) + ps.length from hm]
  refine (Decides.bind (?_ : Decides _ _ [.finish] ((∀ p ∈ ps, p.isReadable) ∧ True) fun ss =>
    List.Forall₂ Passage.IsRead ps ss.reverse) fun _ ss hss => ?_).congr (by rw [and_true, and_true])
  · have hitem : ∀ p ∈ ps, ∀ tail, (Rules.statement (ruleAt (n + 10))).Decides (p.kinds tail) tail p.isReadable
        fun ss => ∃ s, p.IsRead s ∧ ss = [s] := fun p hp _ => decides_passage n (hps p hp)
    have hstart : ∀ p ∈ ps, ∀ tail, ∃ k tail', p.kinds tail = k :: tail' ∧ k ≠ .finish :=
      fun p _ tail => exists_head_passage p tail
    refine decides_run hitem hstart fun _ ss hss => decides_run_end.mono ?_
    rintro _ rfl
    simpa using hss
  · exact .pure hss

end Decides

/-! ### Imports in their places -/

namespace ImportForm

/-- Whether an import asks for features of the language. -/
def isRequest (f : ImportForm) : Bool := !f.relative && f.module == featureModule

/-- Whether the features that an import asks for are known. -/
def asksKnown (f : ImportForm) : Bool := (f.entry :: f.entries).all fun e => featureNames.contains (Text.composed e.name)

/-- Whether the names that an import binds may be bound. -/
def bindsAllowed (f : ImportForm) : Bool :=
  (f.entry :: f.entries).all fun e => !isForbidden (Text.composed (e.alias?.getD e.name))

end ImportForm

/-- Whether imports at the start of a text violate no rule: those that ask for features stand in front of the others
and ask for known ones, and the names that the others bind may be bound. -/
def AreWellPlaced (fs : List ImportForm) : Prop :=
  (∀ f ∈ fs.takeWhile ImportForm.isRequest, f.asksKnown) ∧
    ∀ f ∈ fs.dropWhile ImportForm.isRequest, f.isRequest = false ∧ f.bindsAllowed

section Places

variable {f : ImportForm} {fs : List ImportForm} {ss : List Stmt} {last : Stmt}

/-- An import that asks for no features violates no rule exactly if the names that it binds may be bound. -/
private theorem stmtLine_imports {stmt : Stmt} (h : (Passage.imports f).IsRead stmt) :
    stmtLine {} stmt = none ↔ f.isRequest = false ∧ f.bindsAllowed := by
  obtain ⟨line, rfl⟩ := h
  have hnames : ((f.entry :: f.entries).map ImportEntry.imported).any (fun n => isForbidden (n.alias?.getD n.name)) =
      !f.bindsAllowed := by
    rw [List.any_map, ImportForm.bindsAllowed, List.all_eq_not_any_not, Bool.not_not]
    refine congrArg (List.any _) (funext fun e => ?_)
    cases h : e.alias? <;> simp [ImportEntry.imported, h]
  have hrequest : ((if f.relative then 1 else 0) == 0 && some f.module == some featureModule) = f.isRequest := by
    cases hrelative : f.relative <;> simp [ImportForm.isRequest, hrelative]
  rw [stmtLine, violation_eq_none_iff, Bool.or_eq_false_iff, hnames, hrequest, Bool.not_eq_false']

/-- Statements that ask for no features. -/
private theorem stmtsLine_imports (h : List.Forall₂ Passage.IsRead (fs.map .imports) ss) :
    stmtsLine {} (ss ++ [last]) = none ↔
      (∀ f ∈ fs, f.isRequest = false ∧ f.bindsAllowed) ∧ stmtLine {} last = none := by
  induction fs generalizing ss with
  | nil =>
    cases h
    simp [stmtsLine]
  | cons f fs ih =>
    obtain ⟨stmt, rest, hstmt, hrest, rfl⟩ := List.forall₂_cons_left_iff.1 h
    rw [List.cons_append, stmtsLine, Option.or_eq_none_iff, stmtLine_imports hstmt, ih hrest]
    simp only [List.forall_mem_cons, and_assoc]

/-- Imports in front of a statement that is none. -/
private theorem featuresLine_imports (h : List.Forall₂ Passage.IsRead (fs.map .imports) ss)
    (hlast : ∀ atStart, featuresLine atStart [last] = (none, [last])) :
    (featuresLine false (ss ++ [last])).1.or (stmtsLine {} (featuresLine false (ss ++ [last])).2) = none ↔
      AreWellPlaced fs ∧ stmtLine {} last = none := by
  induction fs generalizing ss with
  | nil =>
    cases h
    simp [hlast, stmtsLine, AreWellPlaced]
  | cons f fs ih =>
    obtain ⟨stmt, rest, ⟨line, rfl⟩, hrest, rfl⟩ := List.forall₂_cons_left_iff.1 h
    cases hrequest : f.isRequest with
    | true =>
      obtain ⟨hrelative, hmodule⟩ : f.relative = false ∧ f.module = featureModule := by
        simpa [ImportForm.isRequest] using hrequest
      have hknown : ((f.entry :: f.entries).map ImportEntry.imported).all (fun n => featureNames.contains n.name) =
          f.asksKnown := List.all_map
      have hplaced : AreWellPlaced (f :: fs) ↔ f.asksKnown ∧ AreWellPlaced fs := by
        rw [AreWellPlaced, AreWellPlaced, List.takeWhile_cons_of_pos hrequest, List.dropWhile_cons_of_pos hrequest,
          List.forall_mem_cons, and_assoc]
      rw [hplaced, List.cons_append, hrelative, hmodule]
      simp only [featuresLine, Bool.false_eq_true, if_false, beq_self_eq_true, if_true, Option.getD_some, hknown]
      cases f.asksKnown with
      | true => simpa using ih hrest
      | false => simp
    | false =>
      have hplaced : AreWellPlaced (f :: fs) ↔ ∀ g ∈ f :: fs, g.isRequest = false ∧ g.bindsAllowed := by
        simp [AreWellPlaced, hrequest]
      have hstop : ∀ names tail, featuresLine false (.importFrom line (if f.relative then 1 else 0) (some f.module)
          names :: tail) = (none, .importFrom line (if f.relative then 1 else 0) (some f.module) names :: tail) := by
        intro names tail
        cases hrelative : f.relative with
        | true => rfl
        | false =>
          have hmodule : (f.module == featureModule) = false := by
            simpa [ImportForm.isRequest, hrelative] using hrequest
          simp only [featuresLine, Bool.false_eq_true, if_false, hmodule]
      rw [List.cons_append, hstop, hplaced, Option.none_or]
      exact stmtsLine_imports h

/-- Documentation, imports and a last statement violate no rule exactly if the imports and the last statement do not. -/
theorem misplacedLine_passages {s : String} (h : List.Forall₂ Passage.IsRead (.doc s :: fs.map .imports) ss)
    (hlast : ∀ atStart, featuresLine atStart [last] = (none, [last])) :
    misplacedLine (ss ++ [last]) = none ↔ AreWellPlaced fs ∧ stmtLine {} last = none := by
  obtain ⟨stmt, rest, ⟨line, line', rfl⟩, hrest, rfl⟩ := List.forall₂_cons_left_iff.1 h
  rw [← featuresLine_imports hrest hlast]
  rfl

end Places

/-! ### Accepted texts -/

/-- A text of lines is a module exactly if its statements are read and none of them violates a rule, given the tokens
of the text. -/
theorem checkModule_lines_iff {lines : List String} {ps : List Passage} {placed : Prop} (hlines : lines ≠ [])
    (hscan : Scans .start (lineChars lines) (ps.foldr Passage.kinds [.finish]))
    (hps : ∀ p ∈ ps, p.HasNames (8 * (lineChars lines).length + 54))
    (hlength : ps.length < 8 * (lineChars lines).length + 54)
    (hplaced : ∀ ss, List.Forall₂ Passage.IsRead ps ss → (misplacedLine ss = none ↔ placed)) :
    checkModule (String.ofList (lineChars lines)) = .ok () ↔ (∀ p ∈ ps, p.isReadable) ∧ placed := by
  have hnull : (lineChars lines).contains '\x00' = false := by
    rw [Bool.eq_false_iff, ne_eq, List.contains_iff_mem]
    exact fun h => (hscan.plain _ h).2 rfl
  have hkinds : Parser.kindsOf (tokenize (lineChars lines)).1 = ps.foldr Passage.kinds [.finish] := by
    have hbreak : lineChars lines = (lineChars lines).dropLast ++ ['\n'] := by
      rw [← List.dropLast_concat_getLast hlines, lineChars_append, lineChars_cons, lineChars_nil]
      simp
    rw [hbreak] at hscan ⊢
    exact kinds_tokenize hscan
  have hdecides := decides_passages _ hps hlength
  have hrules : rulesFor (lineChars lines).length = ruleAt (8 * (lineChars lines).length + 54 + 10) := rfl
  simp only [checkModule, parseModule, String.toList_ofList, hnull, hrules]
  by_cases hread : ∀ p ∈ ps, p.isReadable
  · obtain ⟨ss, rest, hss, -, hforall⟩ := hdecides.reads hread _ hkinds
    simp only [hss, Bool.false_eq_true, if_false]
    rw [and_iff_right hread, ← hplaced ss hforall]
    cases misplacedLine ss <;> simp
  · obtain ⟨f, hf⟩ := hdecides.refuses hread _ hkinds
    simp [hf, hread]

/-! ### Bounds for loops -/

private theorem length_lineChars_cons (l : String) (lines : List String) :
    (lineChars (l :: lines)).length = l.length + 1 + (lineChars lines).length := by
  rw [lineChars_cons, List.length_append, List.length_cons, String.length_toList]
  omega

private theorem length_le_lineChars (lines : List String) : lines.length ≤ (lineChars lines).length := by
  induction lines with
  | nil => exact Nat.le_refl 0
  | cons l lines ih =>
    rw [length_lineChars_cons, List.length_cons]
    omega

private theorem length_le_of_mem {l : String} {lines : List String} (h : l ∈ lines) :
    l.length ≤ (lineChars lines).length := by
  induction lines with
  | nil => cases h
  | cons k lines ih =>
    rw [length_lineChars_cons]
    rcases List.mem_cons.1 h with rfl | h
    · omega
    · exact Nat.le_trans (ih h) (by omega)

/-- A list has at most one item more than its text with separators has characters. -/
private theorem length_le_intercalate (separator : String) (hseparator : 0 < separator.length) (ws : List String) :
    ws.length ≤ (separator.intercalate ws).length + 1 := by
  induction ws with
  | nil => exact Nat.zero_le _
  | cons w ws ih =>
    cases ws with
    | nil => simp
    | cons v ws =>
      rw [String.intercalate_cons_cons, String.length_append, String.length_append, List.length_cons]
      omega

/-- The loops that read an import end. -/
theorem ImportForm.hasNames {f : ImportForm} {n : Nat} (hrelative : f.relative → ∀ w ∈ f.parts, isName w)
    (hlength : f.shown.length < n) : f.HasNames n := by
  have hparts := length_le_intercalate "." (by decide) f.parts
  have hentries := length_le_intercalate ", " (by decide) ((f.entry :: f.entries).map ImportEntry.shown)
  simp only [ImportForm.shown, String.length_append] at hlength
  simp only [ImportForm.parts, List.length_cons, List.length_map] at hparts hentries hlength
  exact ⟨hrelative, by omega, by omega⟩

/-- The loops that read a class end. -/
theorem ClassForm.hasNames {c : ClassForm} {n : Nat} (hdoc : '\\' ∉ c.documentation.toList)
    (hformals : ∀ d ∈ c.methods, ∀ f ∈ d.formals.all, f.hint.IsFit)
    (hbody : ∀ d ∈ c.methods, Source.isReadable d.returns → ∀ l ∈ d.body, l.HasNames n)
    (hlength : (lineChars c.lines).length < n) : c.HasNames n := by
  have hbound : (c.methods.flatMap Definition.lines).length + 2 ≤ (lineChars c.lines).length := by
    refine Nat.le_trans (Nat.le_of_eq ?_) (length_le_lineChars c.lines)
    simp [ClassForm.lines]
  have hlines : ∀ d ∈ c.methods, ∀ l ∈ d.lines, l ∈ c.lines := fun d hd l hl =>
    List.mem_append_right _ (List.mem_flatMap.2 ⟨d, hd, hl⟩)
  refine ⟨hdoc, fun d hd => ⟨hformals d hd, ?_, hbody d hd, ?_⟩, ?_⟩
  · have hhead : "    def " ++ d.name ++ "(" ++ d.formals.shown ++ ") -> " ++ d.returns ++ ":" ∈ d.lines := by
      simp [Definition.lines]
    have hline := length_le_of_mem (hlines d hd _ hhead)
    have hparts := length_le_intercalate ", " (by decide) (d.formals.parts.map Part.shown)
    rw [← Formals.shown, List.length_map] at hparts
    simp only [String.length_append] at hline
    have hopen : "(".length = 1 := by decide
    omega
  · have hsublist : d.lines.length ≤ (c.methods.flatMap Definition.lines).length := by
      rw [List.flatMap_def]
      exact (List.sublist_flatten_of_mem (List.mem_map_of_mem hd)).length_le
    have hlength' : d.lines.length = d.body.length + 3 := by simp [Definition.lines]
    omega
  · have hmethods : c.methods.length ≤ (c.methods.flatMap Definition.lines).length := by
      rw [List.length_flatMap, ← List.length_map (fun d => d.lines.length)]
      refine List.length_le_sum_of_one_le _ fun k hk => ?_
      obtain ⟨d, -, rfl⟩ := List.mem_map.1 hk
      simp [Definition.lines]
    omega

theorem Line.HasNames.mono {l : Line} {n k : Nat} (h : l.HasNames n) (hk : n ≤ k) : l.HasNames k := by
  cases l with
  | append c => exact ⟨h.1, h.2.1, Nat.lt_of_lt_of_le h.2.2 hk⟩
  | returns c => exact ⟨h.1, h.2.1, Nat.lt_of_lt_of_le h.2.2 hk⟩
  | _ => exact h

/-! ### Modules and packages -/

/-- More steps than any call in a generated line has arguments. -/
def lineBound : Nat := 32

namespace ModuleForm

/-- The statements of a module. -/
def passages (m : ModuleForm) : List Passage :=
  .doc m.documentation :: (annotationsImport :: m.imports).map .imports ++ [.body m.body]

/-- Whether the words that do not come from declarations are names. -/
structure HasNames (m : ModuleForm) : Prop where
  documentation : '\\' ∉ m.documentation.toList
  absolute : ∀ f ∈ m.imports, f.relative = false
  classDocumentation : '\\' ∉ m.body.documentation.toList
  formals : ∀ d ∈ m.body.methods, ∀ f ∈ d.formals.all, f.hint.IsFit
  body : ∀ d ∈ m.body.methods, Source.isReadable d.returns → ∀ l ∈ d.body, l.HasNames lineBound

/-- Whether the statements of a module are read. -/
def isReadable (m : ModuleForm) : Bool := m.imports.all ImportForm.isReadable && m.body.isReadable

/-- Whether the statements of a module violate no rule. -/
structure IsPlaced (m : ModuleForm) : Prop where
  imports : AreWellPlaced m.imports
  body : m.body.IsPlaced

theorem kinds_eq (m : ModuleForm) : m.kinds = m.passages.foldr Passage.kinds [.finish] := by
  simp only [kinds, preambleKinds, passages, List.foldr_append, List.foldr_cons, List.foldr_nil, List.foldr_map,
    List.cons_append, List.map_cons]
  rfl

end ModuleForm

private theorem isReadable_annotationsImport : annotationsImport.isReadable := by decide +kernel

private theorem areWellPlaced_annotationsImport {fs : List ImportForm} :
    AreWellPlaced (annotationsImport :: fs) ↔ AreWellPlaced fs := by
  have hrequest : annotationsImport.isRequest := by decide +kernel
  have hknown : annotationsImport.asksKnown := by decide +kernel
  rw [AreWellPlaced, AreWellPlaced, List.takeWhile_cons_of_pos hrequest, List.dropWhile_cons_of_pos hrequest,
    List.forall_mem_cons, and_iff_right hknown]

/-- What is related to a list with a last item is such a list. -/
private theorem exists_of_forall₂_concat {α β : Type} {related : α → β → Prop} {front : List α} {last : α} {bs : List β}
    (h : List.Forall₂ related (front ++ [last]) bs) :
    ∃ front' last', List.Forall₂ related front front' ∧ related last last' ∧ bs = front' ++ [last'] := by
  induction front generalizing bs with
  | nil =>
    obtain ⟨b, rest, hb, hrest, rfl⟩ := List.forall₂_cons_left_iff.1 h
    cases hrest
    exact ⟨[], b, .nil, hb, rfl⟩
  | cons a front ih =>
    obtain ⟨b, rest, hb, hrest, rfl⟩ := List.forall₂_cons_left_iff.1 h
    obtain ⟨front', last', hfront, hlast, rfl⟩ := ih hrest
    exact ⟨b :: front', last', .cons hb hfront, hlast, rfl⟩

namespace ModuleForm

variable {m : ModuleForm}

/-- The loops that read a module end. -/
private theorem hasNames_passages (hnames : m.HasNames) :
    ∀ p ∈ m.passages, p.HasNames (8 * (lineChars m.lines).length + 54) := by
  have hbody : m.body.HasNames (8 * (lineChars m.lines).length + 54) := by
    have hlength : (lineChars m.body.lines).length ≤ (lineChars m.lines).length := by
      rw [ModuleForm.lines, lineChars_append, List.length_append]
      omega
    refine ClassForm.hasNames hnames.classDocumentation hnames.formals (fun d hd hreturns l hl => ?_) (by omega)
    exact (hnames.body d hd hreturns l hl).mono (by simp only [lineBound]; omega)
  have himports : ∀ f ∈ annotationsImport :: m.imports, f.HasNames (8 * (lineChars m.lines).length + 54) := by
    intro f hf
    have hmem : f.shown ∈ m.lines := by
      rcases List.mem_cons.1 hf with rfl | hf
      · simp [ModuleForm.lines]
      · have hne : m.imports.isEmpty = false := by
          rw [Bool.eq_false_iff, ne_eq, List.isEmpty_iff]
          exact List.ne_nil_of_mem hf
        simp only [ModuleForm.lines, hne, List.mem_append, List.mem_cons, Bool.false_eq_true, if_false]
        exact Or.inl (Or.inl (Or.inr (Or.inr (List.mem_map_of_mem hf))))
    have hrelative : f.relative = false := by
      rcases List.mem_cons.1 hf with rfl | hf
      · rfl
      · exact hnames.absolute f hf
    have hlength := length_le_of_mem hmem
    refine ImportForm.hasNames (fun h => ?_) (by omega)
    rw [hrelative] at h
    cases h
  intro p hp
  simp only [ModuleForm.passages, List.mem_append, List.mem_cons, List.mem_map, List.not_mem_nil, or_false] at hp
  rcases hp with (rfl | ⟨f, hf, rfl⟩) | rfl
  · exact hnames.documentation
  · exact himports f (List.mem_cons.2 hf)
  · exact hbody

private theorem length_passages (m : ModuleForm) : m.passages.length < 8 * (lineChars m.lines).length + 54 := by
  have hlines := length_le_lineChars m.lines
  have himports : m.imports.length ≤ m.lines.length := by
    cases hempty : m.imports.isEmpty with
    | true => simp [List.isEmpty_iff.1 hempty]
    | false =>
      simp only [ModuleForm.lines, hempty, List.length_append, List.length_cons, List.length_map, Bool.false_eq_true,
        if_false]
      omega
  simp only [ModuleForm.passages, List.length_append, List.length_cons, List.length_map, List.length_nil]
  omega

/-- A module is accepted exactly if its statements are read and violate no rule. -/
theorem checkModule_iff (hwords : m.HasWords) (hnames : m.HasNames) :
    checkModule (String.ofList (lineChars m.lines)) = .ok () ↔ m.isReadable ∧ m.IsPlaced := by
  have hscan := Scans.module hwords
  rw [m.kinds_eq] at hscan
  have hplaced : ∀ ss, List.Forall₂ Passage.IsRead m.passages ss → (misplacedLine ss = none ↔ m.IsPlaced) := by
    intro ss hss
    obtain ⟨front, last, hfront, hlast, rfl⟩ := exists_of_forall₂_concat hss
    obtain ⟨⟨line, body, rfl⟩, hbody⟩ := hlast
    rw [misplacedLine_passages hfront fun _ => rfl, areWellPlaced_annotationsImport, hbody]
    exact ⟨fun h => ⟨h.1, h.2⟩, fun h => ⟨h.imports, h.body⟩⟩
  have hreadable : (∀ p ∈ m.passages, p.isReadable) ↔ m.isReadable := by
    rw [passages, List.map_cons, List.forall_mem_append, List.forall_mem_cons, List.forall_mem_cons, List.forall_mem_map,
      List.forall_mem_singleton, isReadable, Bool.and_eq_true, List.all_eq_true]
    simp [Passage.isReadable, isReadable_annotationsImport]
  rw [checkModule_lines_iff (by simp [ModuleForm.lines]) hscan (hasNames_passages hnames) m.length_passages hplaced,
    hreadable]

end ModuleForm

namespace PackageForm

variable {p : PackageForm}

/-- The statements of a package. -/
def passages (p : PackageForm) : List Passage := .doc p.documentation :: p.imports.map .imports ++ [.exports p.names]

/-- Whether the words that do not come from settings are names. -/
structure HasNames (p : PackageForm) : Prop where
  documentation : '\\' ∉ p.documentation.toList
  modules : ∀ f ∈ p.imports, ∀ w ∈ f.parts, isName w

theorem kinds_eq (p : PackageForm) : p.kinds = p.passages.foldr Passage.kinds [.finish] := by
  simp only [kinds, preambleKinds, passages, List.foldr_append, List.foldr_cons, List.foldr_nil, List.foldr_map,
    List.cons_append]
  rfl

private theorem hasNames_passages (hwords : p.HasWords) (hnames : p.HasNames) :
    ∀ q ∈ p.passages, q.HasNames (8 * (lineChars p.lines).length + 54) := by
  intro q hq
  simp only [PackageForm.passages, List.mem_append, List.mem_cons, List.mem_map, List.not_mem_nil, or_false] at hq
  rcases hq with (rfl | ⟨f, hf, rfl⟩) | rfl
  · exact hnames.documentation
  · have hmem : f.shown ∈ p.lines := by
      simp only [PackageForm.lines, List.mem_append]
      exact Or.inl (Or.inl (Or.inr (List.mem_map_of_mem hf)))
    have hlength := length_le_of_mem hmem
    exact ImportForm.hasNames (fun _ => hnames.modules f hf) (by omega)
  · have hlength := length_le_lineChars p.lines
    refine ⟨fun w hw h => ?_, ?_⟩
    · exact ne_of_isNamePart (hwords.names w hw _ h) (by decide) rfl
    · simp only [PackageForm.lines, exportListLines, List.length_append, List.length_cons, List.length_map] at hlength ⊢
      omega

private theorem length_passages (p : PackageForm) : p.passages.length < 8 * (lineChars p.lines).length + 54 := by
  have hlines := length_le_lineChars p.lines
  simp only [PackageForm.lines, PackageForm.passages, List.length_append, List.length_cons, List.length_map,
    List.length_nil] at hlines ⊢
  omega

/-- A package is accepted exactly if its imports are read and violate no rule. -/
theorem checkModule_iff (hwords : p.HasWords) (hnames : p.HasNames) :
    checkModule (String.ofList (lineChars p.lines)) = .ok () ↔
      (∀ f ∈ p.imports, f.isReadable) ∧ AreWellPlaced p.imports := by
  have hscan := Scans.package hwords
  rw [p.kinds_eq] at hscan
  have hplaced : ∀ ss, List.Forall₂ Passage.IsRead p.passages ss → (misplacedLine ss = none ↔ AreWellPlaced p.imports) := by
    intro ss hss
    obtain ⟨front, last, hfront, hlast, rfl⟩ := exists_of_forall₂_concat hss
    obtain ⟨⟨line, targets, value, rfl⟩, hharmless⟩ := hlast
    rw [misplacedLine_passages hfront fun _ => rfl, hharmless, and_iff_left rfl]
  have hreadable : (∀ q ∈ p.passages, q.isReadable) ↔ ∀ f ∈ p.imports, f.isReadable := by
    rw [passages, List.forall_mem_append, List.forall_mem_cons, List.forall_mem_map, List.forall_mem_singleton]
    simp [Passage.isReadable]
  rw [checkModule_lines_iff (by simp [PackageForm.lines]) hscan (hasNames_passages hwords hnames) p.length_passages hplaced,
    hreadable]

end PackageForm

end NavFactory.Source
