import NavFactory.Proofs.Source.Exports
import NavFactory.Proofs.Source.Imports
import NavFactory.Source.Check

/-!
# Texts of modules

Whole generated modules, line by line, and the tokens that they are cut into: a module with a class of static methods
(`ModuleForm`) and the module of a package that exports classes (`PackageForm`).
-/

namespace NavFactory.Source

open NavFactory.Source.Parser

/-- The lines of a method, after a blank one. -/
def Definition.lines (d : Definition) : List String :=
  ["", "    @staticmethod", "    def " ++ d.name ++ "(" ++ d.formals.shown ++ ") -> " ++ d.returns ++ ":"] ++
    d.body.map fun l => "        " ++ l.shown

/-- The lines of a class. -/
def ClassForm.lines (c : ClassForm) : List String :=
  ["class " ++ c.name ++ ":", "    " ++ docstringText c.documentation] ++ c.methods.flatMap Definition.lines

/-- The import that turns types into texts. -/
def annotationsImport : ImportForm := ⟨false, featureModule, [], ⟨"annotations", none⟩, []⟩

/-- A module with imports and a class. -/
structure ModuleForm where
  documentation : String
  imports : List ImportForm
  body : ClassForm

/-- A package that imports names from its modules and exports them. -/
structure PackageForm where
  documentation : String
  imports : List ImportForm
  names : List String

/-- The kinds of tokens from documentation and imports on. -/
def preambleKinds (documentation : String) (imports : List ImportForm) (tail : List TokenKind) : List TokenKind :=
  (Line.doc documentation).kinds (.newline :: imports.foldr (fun f kinds => f.kinds (.newline :: kinds)) tail)

namespace ModuleForm

def lines (m : ModuleForm) : List String :=
  [generatedHeader, docstringText m.documentation, "", annotationsImport.shown] ++
    (if m.imports.isEmpty then [] else "" :: m.imports.map ImportForm.shown) ++ ["", ""] ++ m.body.lines

def kinds (m : ModuleForm) : List TokenKind :=
  preambleKinds m.documentation (annotationsImport :: m.imports) (m.body.kinds [.finish])

end ModuleForm

namespace PackageForm

def lines (p : PackageForm) : List String :=
  [generatedHeader, docstringText p.documentation, ""] ++ p.imports.map ImportForm.shown ++ [""] ++ exportListLines p.names

def kinds (p : PackageForm) : List TokenKind :=
  preambleKinds p.documentation p.imports (exportKinds p.names [.newline, .finish])

end PackageForm

/-! ### Words -/

/-- Whether the words of a method are words. -/
structure Definition.HasWords (d : Definition) : Prop where
  name : IsWord d.name.toList
  formals : d.formals.HasWords
  returns : IsWord d.returns.toList
  nonempty : d.body ≠ []
  body : ∀ l ∈ d.body, l.HasWords

/-- Whether the words of a class are words. -/
structure ClassForm.HasWords (c : ClassForm) : Prop where
  name : IsWord c.name.toList
  documentation : (Line.doc c.documentation).HasWords
  methods : ∀ d ∈ c.methods, d.HasWords

/-- Whether the words of a module are words. -/
structure ModuleForm.HasWords (m : ModuleForm) : Prop where
  documentation : (Line.doc m.documentation).HasWords
  imports : ∀ f ∈ m.imports, f.HasWords
  body : m.body.HasWords

/-- Whether the words of a package are words. -/
structure PackageForm.HasWords (p : PackageForm) : Prop where
  documentation : (Line.doc p.documentation).HasWords
  imports : ∀ f ∈ p.imports, f.HasWords
  names : ∀ w ∈ p.names, ∀ c ∈ w.toList, isNamePart c

/-! ### Lines of text -/

section Scans

variable {ws ws' : List Nat} {cs : List Char} {kinds new : List TokenKind}

theorem lineChars_nil : lineChars [] = [] := rfl

theorem lineChars_cons (l : String) (lines : List String) : lineChars (l :: lines) = l.toList ++ '\n' :: lineChars lines := by
  simp [lineChars]

theorem lineChars_append (lines lines' : List String) : lineChars (lines ++ lines') = lineChars lines ++ lineChars lines' :=
  List.flatMap_append

/-- How the indentations change with a line. -/
private def Layouts (k : Nat) (ws ws' : List Nat) (new : List TokenKind) : Prop :=
  ∀ line, ∃ tokens, layout ⟨k, k⟩ line (ws.map fun w => ⟨w, w⟩) = some (tokens, ws'.map fun w => ⟨w, w⟩) ∧
    tokens.map (·.kind) = new

/-- A line starts with a character that opens it. -/
private theorem opensLine_shown {l : Line} (hl : l.HasWords) (rest : List Char) :
    ∀ c ∈ (l.shown.toList ++ rest).head?, opensLine c := by
  cases l with
  | doc s => simp [Line.shown, docstringText, opensLine]
  | allocate type item => simp [Line.shown, parameterList, opensLine]
  | append c => simp [Line.shown, parameterList, opensLine]
  | returns c => simp [Line.shown, opensLine]
  | construct function argument => simp [Line.shown, opensLine]

/-- An indented line of a method or class. -/
private theorem Scans.indented {l : Line} (hl : l.HasWords) {k : Nat} (hlayout : Layouts k ws ws' new)
    (h : Scans ⟨true, ws', []⟩ cs kinds) :
    Scans ⟨true, ws, []⟩ (List.replicate k ' ' ++ (l.shown.toList ++ '\n' :: cs)) (new ++ l.kinds (.newline :: kinds)) :=
  Scans.line (opensLine_shown hl _) hlayout (Scans.statement hl h.lineBreak)

/-- The lines of a method behind the first. -/
private theorem Scans.lines {ls : List Line} (hls : ∀ l ∈ ls, l.HasWords) (h : Scans ⟨true, [8, 4, 0], []⟩ cs kinds) :
    Scans ⟨true, [8, 4, 0], []⟩ (lineChars (ls.map fun l => "        " ++ l.shown) ++ cs)
      (ls.foldr (fun l kinds => l.kinds (.newline :: kinds)) kinds) := by
  induction ls with
  | nil => exact h
  | cons l ls ih =>
    have hrest := ih fun k hk => hls k (List.mem_cons_of_mem l hk)
    have hlayout : Layouts 8 [8, 4, 0] [8, 4, 0] [] := fun line => ⟨[], rfl, rfl⟩
    have hline := Scans.indented (hls l List.mem_cons_self) hlayout hrest
    simpa [lineChars_cons, List.replicate] using hline

/-- The head of a method, behind its indentation. -/
private theorem Scans.heading {d : Definition} (hd : d.HasWords) (h : Scans ⟨true, ws, []⟩ cs kinds) :
    Scans ⟨false, ws, []⟩
      ("def ".toList ++ d.name.toList ++ '(' :: d.formals.shown.toList ++ ") -> ".toList ++ d.returns.toList ++
        ':' :: '\n' :: cs)
      (.keyword "def" :: wordKinds d.name (.symbol "(" :: d.formals.kinds (.symbol ")" :: .symbol "->" ::
        wordKinds d.returns (.symbol ":" :: .newline :: kinds)))) := by
  have hcolon := Scans.symbol (c := ':') (d := '\n') (by decide) (by decide) (by simp) h.lineBreak
  have hreturns := (hcolon.word hd.returns (by decide)).blank.arrow.blank
  have hclose := Scans.closes (c := ')') (by decide) hreturns
  have hopen := Scans.opens (c := '(') (by decide) rfl (by simp) (Scans.formals hd.formals (by simp) hclose)
  have hname := (hopen.word hd.name (by decide)).blank
  have hdef := hname.word (w := "def") (isWord_literal (by decide)) (by decide)
  rw [wordKinds_of_isReserved (by decide)] at hdef
  simpa using hdef

/-- A method, behind the documentation of its class or another method. -/
private theorem Scans.definition {d : Definition} (hd : d.HasWords) (hlayout : Layouts 4 ws [4, 0] new)
    (h : Scans ⟨true, [8, 4, 0], []⟩ cs (.dedent :: kinds)) :
    Scans ⟨true, ws, []⟩ (lineChars d.lines ++ cs) (new ++ d.kinds kinds) := by
  obtain ⟨l, ls, hbody⟩ := List.exists_cons_of_ne_nil hd.nonempty
  have hls : ∀ k ∈ l :: ls, k.HasWords := hbody ▸ hd.body
  have hfirst : Layouts 8 [4, 0] [8, 4, 0] [.indent] := fun line => ⟨_, rfl, rfl⟩
  have hrest := Scans.lines (fun k hk => hls k (List.mem_cons_of_mem l hk)) h
  have hsuite := Scans.indented (hls l List.mem_cons_self) hfirst hrest
  have hstay : Layouts 4 [4, 0] [4, 0] [] := fun line => ⟨[], rfl, rfl⟩
  have hheading := Scans.line (k := 4) (by simp [opensLine]) hstay (Scans.heading hd hsuite)
  have hword : IsWord "staticmethod".toList := (isWord_literal (by decide))
  have hname : ∀ tail, wordKinds "staticmethod" tail = .name "staticmethod" :: tail := fun tail => by
    rw [wordKinds_of_isName (by decide), Text.composed, if_pos (by decide)]
  have hdecorator := hheading.lineBreak.word hword (by decide)
  rw [hname] at hdecorator
  have hat := hdecorator.symbolWord (c := '@') (by decide) hword
  have hline := (Scans.line (k := 4) (by simp [opensLine]) hlayout hat).blankLine
  simpa [Definition.lines, Definition.kinds, Definition.heading, Definition.suite, hbody, lineChars, List.replicate]
    using hline

/-- The methods of a class up to the end of the text. -/
private theorem Scans.methods {ds : List Definition} (hds : ∀ d ∈ ds, d.HasWords) (hlayout : Layouts 4 ws [4, 0] new)
    (hend : Layouts 0 ws [0] (new ++ [.dedent])) :
    Scans ⟨true, ws, []⟩ (lineChars (ds.flatMap Definition.lines))
      (new ++ ds.foldr Definition.kinds [.dedent, .finish]) := by
  induction ds generalizing ws new with
  | nil =>
    have hfinish := Scans.line (k := 0) (by simp) hend Scans.finish
    simpa [lineChars, List.replicate] using hfinish
  | cons d ds ih =>
    have hnext : Layouts 4 [8, 4, 0] [4, 0] [.dedent] := fun line => ⟨_, rfl, rfl⟩
    have hlast : Layouts 0 [8, 4, 0] [0] [.dedent, .dedent] := fun line => ⟨_, rfl, rfl⟩
    have hrest := ih (fun e he => hds e (List.mem_cons_of_mem d he)) hnext hlast
    rw [List.flatMap_cons, lineChars_append]
    exact Scans.definition (hds d List.mem_cons_self) hlayout hrest

/-- A line that is not indented, at the top of a text. -/
private theorem Scans.topLine (hcs : ∀ c ∈ cs.head?, opensLine c) (h : Scans ⟨false, [0], []⟩ cs kinds) :
    Scans ⟨true, [0], []⟩ cs kinds := by
  have hlayout : Layouts 0 [0] [0] [] := fun line => ⟨[], rfl, rfl⟩
  simpa using Scans.line (k := 0) hcs hlayout h

/-- The documentation of a text. -/
private theorem Scans.docLine {s : String} (hs : (Line.doc s).HasWords) (h : Scans ⟨true, [0], []⟩ cs kinds) :
    Scans ⟨true, [0], []⟩ ((docstringText s).toList ++ '\n' :: cs) ((Line.doc s).kinds (.newline :: kinds)) :=
  (Scans.statement hs h.lineBreak).topLine (opensLine_shown hs _)

/-- Imports, one on each line. -/
private theorem Scans.importLines {fs : List ImportForm} (hfs : ∀ f ∈ fs, f.HasWords) (h : Scans ⟨true, [0], []⟩ cs kinds) :
    Scans ⟨true, [0], []⟩ (lineChars (fs.map ImportForm.shown) ++ cs)
      (fs.foldr (fun f kinds => f.kinds (.newline :: kinds)) kinds) := by
  induction fs with
  | nil => exact h
  | cons f fs ih =>
    have hrest := ih fun g hg => hfs g (List.mem_cons_of_mem f hg)
    have hline :=
      (Scans.importFrom (hfs f List.mem_cons_self) hrest.lineBreak).topLine (by simp [ImportForm.shown, opensLine])
    simpa [lineChars_cons] using hline

/-- A class up to the end of its text. -/
private theorem Scans.classLines {c : ClassForm} (hc : c.HasWords) :
    Scans ⟨true, [0], []⟩ (lineChars c.lines) (c.kinds [.finish]) := by
  have hfirst : Layouts 4 [0] [4, 0] [.indent] := fun line => ⟨_, rfl, rfl⟩
  have hstay : Layouts 4 [4, 0] [4, 0] [] := fun line => ⟨[], rfl, rfl⟩
  have hend : Layouts 0 [4, 0] [0] ([] ++ [.dedent]) := fun line => ⟨_, rfl, rfl⟩
  have hmethods := Scans.methods hc.methods hstay hend
  have hdoc := Scans.indented hc.documentation hfirst hmethods
  have hcolon := Scans.symbol (c := ':') (d := '\n') (by decide) (by decide) (by simp) hdoc.lineBreak
  have hclass := (hcolon.word hc.name (by decide)).blank.word (w := "class") (isWord_literal (by decide))
    (by decide)
  rw [wordKinds_of_isReserved (by decide)] at hclass
  have hline := hclass.topLine (by simp [opensLine])
  simpa [ClassForm.lines, ClassForm.kinds, ClassForm.suite, Line.shown, lineChars_cons] using hline

/-- The comment in front of a text. -/
private theorem Scans.header (h : Scans ⟨true, ws, []⟩ cs kinds) :
    Scans ⟨true, ws, []⟩ (generatedHeader.toList ++ '\n' :: cs) kinds := by
  have hheader : generatedHeader.toList = '#' :: generatedHeader.toList.tail := by decide
  rw [hheader]
  have hplain : ∀ c ∈ generatedHeader.toList.tail, c ≠ '\r' ∧ c ≠ '\x00' := List.all_iff_forall_prop.1 (by decide)
  exact Scans.comment hplain (by decide) h

/-- The tokens of a module. -/
theorem Scans.module {m : ModuleForm} (hm : m.HasWords) : Scans .start (lineChars m.lines) m.kinds := by
  have hbody := (Scans.classLines hm.body).blankLine.blankLine
  have himports : Scans ⟨true, [0], []⟩
      (lineChars (if m.imports.isEmpty then [] else "" :: m.imports.map ImportForm.shown) ++
        ('\n' :: '\n' :: lineChars m.body.lines))
      (m.imports.foldr (fun f kinds => f.kinds (.newline :: kinds)) (m.body.kinds [.finish])) := by
    cases hempty : m.imports.isEmpty with
    | true =>
      rw [List.isEmpty_iff.1 hempty]
      exact hbody
    | false => simpa [lineChars_cons] using (Scans.importLines hm.imports hbody).blankLine
  have hannotations : annotationsImport.HasWords := by
    refine ⟨?_, ?_⟩
    · simpa [annotationsImport, ImportForm.parts] using isWord_literal (w := featureModule) (by decide)
    · simpa [annotationsImport, ImportEntry.HasWords] using isWord_literal (w := "annotations") (by decide)
  have hannotated : ∀ f ∈ [annotationsImport], f.HasWords := by simpa using hannotations
  have hfirst := (Scans.importLines hannotated himports).blankLine
  have htext := Scans.header (Scans.docLine hm.documentation hfirst)
  simpa [ModuleForm.lines, ModuleForm.kinds, preambleKinds, lineChars_nil, lineChars_cons, lineChars_append, Place.start]
    using htext

/-- The tokens of a package. -/
theorem Scans.package {p : PackageForm} (hp : p.HasWords) : Scans .start (lineChars p.lines) p.kinds := by
  have hend := Scans.topLine (by simp) Scans.finish
  have hexports := (Scans.exports hp.names hend).topLine (by simp [exportListLines, lineChars_cons, exportList, opensLine])
  have himports := (Scans.importLines hp.imports hexports.blankLine).blankLine
  have htext := Scans.header (Scans.docLine hp.documentation himports)
  simpa [PackageForm.lines, PackageForm.kinds, preambleKinds, lineChars_cons, lineChars_append, Place.start] using htext

end Scans

end NavFactory.Source
