import NavFactory.Proofs.Exporting
import NavFactory.Proofs.ImportForms

/-!
# Generated modules as forms

The built-in text of a container whose methods are written as definitions is that of a module form, and it is accepted exactly
if what it imports can be imported and its names are names that may be bound (`Container.checkModule_iff`).  The text
of a package is accepted exactly if the classes that it exports have such names (`checkModule_exports_iff`).
-/

namespace NavFactory

open Source (AreWellPlaced Definition IsWord Line ModuleForm PackageForm isForbidden lineBound lineChars)
open Source.Parser (exists_of_forall₂ isName)

/-! ### Closed texts -/

/-- Whether the last line of a text ends with a character that is not blank. -/
def EndsPlainly (lines : List String) : Prop :=
  ∃ front last cs c, lines = front ++ [last] ∧ last.toList = cs ++ [c] ∧ Text.isBlank c = false

section Lines

variable {lines : List String}

theorem EndsPlainly.append (h : EndsPlainly lines) (front : List String) : EndsPlainly (front ++ lines) := by
  obtain ⟨before, last, cs, c, rfl, hlast, hc⟩ := h
  exact ⟨front ++ before, last, cs, c, by rw [List.append_assoc], hlast, hc⟩

private theorem trimRightChars_lineBreak {c : Char} (hc : Text.isBlank c = false) (cs : List Char) :
    Text.trimRightChars (cs ++ [c, '\n']) = cs ++ [c] := by
  induction cs with
  | nil =>
    have hbreak : Text.isBlank '\n' = true := by decide
    simp [Text.trimRightChars, hc, hbreak]
  | cons d cs ih => rw [List.cons_append, Text.trimRightChars, List.foldr_cons, ← Text.trimRightChars, ih]; simp

/-- The line break at the end of such a text stays as it is. -/
theorem closeText_linesText (h : EndsPlainly lines) : closeText (linesText lines) = String.ofList (lineChars lines) := by
  obtain ⟨front, last, cs, c, rfl, hlast, hc⟩ := h
  rw [← String.toList_inj, toList_closeText, toList_linesText, String.toList_ofList]
  have hchars : lineChars (front ++ [last]) = (lineChars front ++ cs) ++ [c, '\n'] := by
    simp [Source.lineChars_append, Source.lineChars_cons, Source.lineChars_nil, hlast]
  change Text.trimRightChars (lineChars (front ++ [last])) ++ ['\n'] = lineChars (front ++ [last])
  rw [hchars, trimRightChars_lineBreak hc]
  simp

end Lines

/-! ### Methods and modules -/

/-- Whether a method is written as a definition whose words are words, and names where no other word may stand. -/
structure Method.IsWrittenAs (m : Method) (d : Definition) : Prop where
  lines : methodLines m = d.lines
  name : d.name = m.name
  parameters : d.formals.all.map (·.name) = m.parameters.map (·.name)
  words : d.HasWords
  fit : ∀ f ∈ d.formals.all, f.hint.IsFit
  names : Source.isReadable d.returns → ∀ l ∈ d.body, l.HasNames lineBound

/-- Whether the words of a container are words and it names its imports as an import table does. -/
structure Container.IsSpelled (c : Container) : Prop where
  name : IsWord c.name.toList
  documentation : (Line.doc c.docstring).HasWords
  tried : c.imports.Tried
  types : ∀ a ∈ c.imports.aliases, a.1.IsSpelled

/-- The module of a container whose methods are written as definitions. -/
def Container.form (c : Container) (defs : List Definition) : ModuleForm :=
  ⟨c.docstring, c.imports.forms, ⟨c.name, c.docstring, defs⟩⟩

section Containers

variable {c : Container} {m : Method} {d : Definition} {defs : List Definition}

private theorem containerLines_eq (hdefs : List.Forall₂ Method.IsWrittenAs c.methods defs) :
    containerLines c = (c.form defs).lines := by
  have hmethods : c.methods.flatMap methodLines = defs.flatMap Definition.lines := by
    rw [List.flatMap_def, List.flatMap_def]
    congr 1
    rw [← List.forall₂_eq_eq_eq, List.forall₂_map_left_iff, List.forall₂_map_right_iff]
    exact hdefs.imp fun _ _ h => h.lines
  have hannotations : Source.annotationsImport.shown = "from __future__ import annotations" := by decide +kernel
  simp [containerLines, ModuleForm.lines, Source.ClassForm.lines, Container.form, hmethods, hannotations,
    ImportTable.lines_eq_forms]

/-- A line ends with a quote or a bracket. -/
private theorem exists_end_shown (l : Line) : ∃ cs c, l.shown.toList = cs ++ [c] ∧ Text.isBlank c = false := by
  have hends : ∀ (s t : String) (front : List Char) (c : Char), t.toList = front ++ [c] → Text.isBlank c = false →
      ∃ cs c, (s ++ t).toList = cs ++ [c] ∧ Text.isBlank c = false := fun s t front c ht hc =>
    ⟨s.toList ++ front, c, by rw [String.toList_append, ht, List.append_assoc], hc⟩
  cases l with
  | doc s => exact hends _ "\"\"\"" ['"', '"'] '"' rfl (by decide)
  | allocate type item => exact hends _ "] = []" [']', ' ', '=', ' ', '['] ']' rfl (by decide)
  | append k => exact hends _ ")" [] ')' rfl (by decide)
  | returns k =>
    rw [Line.shown, Source.Invocation.shown, ← String.append_assoc]
    exact hends _ ")" [] ')' rfl (by decide)
  | construct function argument => exact hends _ ")" [] ')' rfl (by decide)

private theorem endsPlainly_line (front : List String) (indentation : String) (l : Line) :
    EndsPlainly (front ++ [indentation ++ l.shown]) := by
  obtain ⟨cs, c, hshown, hc⟩ := exists_end_shown l
  exact ⟨front, _, indentation.toList ++ cs, c, rfl, by rw [String.toList_append, hshown, List.append_assoc], hc⟩

private theorem endsPlainly_definition (hd : d.HasWords) : EndsPlainly d.lines := by
  obtain hbody | ⟨body, last, hbody⟩ := List.eq_nil_or_concat' d.body
  · exact absurd hbody hd.nonempty
  · rw [Definition.lines, hbody, List.map_append, List.map_singleton, ← List.append_assoc]
    exact endsPlainly_line _ _ last

private theorem endsPlainly_form (hwords : ∀ d ∈ defs, d.HasWords) : EndsPlainly (c.form defs).lines := by
  rw [ModuleForm.lines]
  refine EndsPlainly.append ?_ _
  rw [Source.ClassForm.lines]
  obtain rfl | ⟨front, last, rfl⟩ := List.eq_nil_or_concat' defs
  · exact endsPlainly_line ["class " ++ c.name ++ ":"] "    " (.doc c.docstring)
  · have hlast := endsPlainly_definition (hwords last (List.mem_append_right _ List.mem_cons_self))
    have hmethods : (front ++ [last]).flatMap Definition.lines = front.flatMap Definition.lines ++ last.lines := by
      simp
    change EndsPlainly (_ ++ (front ++ [last]).flatMap Definition.lines)
    rw [hmethods, ← List.append_assoc]
    exact hlast.append _

private theorem moduleText_eq (hdefs : List.Forall₂ Method.IsWrittenAs c.methods defs) :
    c.moduleText = String.ofList (lineChars (c.form defs).lines) := by
  have hwords : ∀ d ∈ defs, d.HasWords := by
    intro d hd
    obtain ⟨m, -, h⟩ := exists_of_forall₂ hdefs d hd
    exact h.words
  rw [Container.moduleText, containerLines_eq hdefs, closeText_linesText (endsPlainly_form hwords)]

/-- The names that a definition binds may be bound exactly if those of its method may. -/
private theorem isPlaced_iff (h : m.IsWrittenAs d) : d.IsPlaced c.name ↔
    isForbidden (Text.composed m.name) = false ∧ (∀ a ∈ m.parameters, isForbidden (Text.composed a.name) = false) ∧
      (m.parameters.map fun a => c.identifier a.name).Nodup := by
  have hallowed : (∀ f ∈ d.formals.all, isForbidden (Text.composed f.name) = false) ↔
      ∀ a ∈ m.parameters, isForbidden (Text.composed a.name) = false := by
    rw [← List.forall_mem_map (f := fun f : Source.Formal => f.name) (P := fun x => isForbidden (Text.composed x) = false),
      h.parameters, List.forall_mem_map]
  have hidentifiers : (m.parameters.map fun a => c.identifier a.name) = d.formals.all.map fun f => c.identifier f.name := by
    have hnames := congrArg (List.map c.identifier) h.parameters
    rw [List.map_map, List.map_map] at hnames
    exact hnames.symm
  rw [← h.name, ← hallowed, hidentifiers]
  exact ⟨fun h => ⟨h.allowed, h.allowedFormals, h.nodup⟩, fun h => ⟨h.1, h.2.1, h.2.2⟩⟩

private theorem forall_isPlaced_iff {methods : List Method} (hdefs : List.Forall₂ Method.IsWrittenAs methods defs) :
    (∀ d ∈ defs, d.IsPlaced c.name) ↔ ∀ m ∈ methods, isForbidden (Text.composed m.name) = false ∧
      (∀ a ∈ m.parameters, isForbidden (Text.composed a.name) = false) ∧
        (m.parameters.map fun a => c.identifier a.name).Nodup := by
  induction hdefs with
  | nil => simp
  | cons h _ ih => rw [List.forall_mem_cons, List.forall_mem_cons, ih, isPlaced_iff h]

/-- The module of a container is accepted exactly if the types that it imports can be imported, its class and its methods
are read, and the names that they bind may be bound. -/
theorem Container.checkModule_iff (hc : c.IsSpelled) (hdefs : List.Forall₂ Method.IsWrittenAs c.methods defs) :
    Source.checkModule c.moduleText = .ok () ↔
      ((∀ a ∈ c.imports.aliases, a.1.isImportable) ∧ AreWellPlaced c.imports.forms) ∧
        (isName c.name ∧ isForbidden (Text.composed c.name) = false) ∧ (∀ d ∈ defs, d.isReadable) ∧
        ∀ m ∈ c.methods, isForbidden (Text.composed m.name) = false ∧
          (∀ a ∈ m.parameters, isForbidden (Text.composed a.name) = false) ∧
          (m.parameters.map fun a => c.identifier a.name).Nodup := by
  have hmethod : ∀ d ∈ defs, ∃ m ∈ c.methods, m.IsWrittenAs d := exists_of_forall₂ hdefs
  have hwords : (c.form defs).HasWords := by
    refine ⟨hc.documentation, fun f hf => ImportTable.hasWords_of_mem_forms hc.tried hc.types hf, hc.name,
      hc.documentation, fun d hd => ?_⟩
    obtain ⟨m, -, h⟩ := hmethod d hd
    exact h.words
  have hslash : '\\' ∉ c.docstring.toList := fun h => (hc.documentation _ h).2.1 rfl
  have hnames : (c.form defs).HasNames := by
    refine ⟨hslash, fun f hf => ImportTable.relative_of_mem_forms hf, hslash, fun d hd => ?_, fun d hd => ?_⟩
    · obtain ⟨m, -, h⟩ := hmethod d hd
      exact h.fit
    · obtain ⟨m, -, h⟩ := hmethod d hd
      exact h.names
  have hreadable : (c.form defs).isReadable ↔
      (∀ a ∈ c.imports.aliases, a.1.isImportable) ∧ isName c.name ∧ ∀ d ∈ defs, d.isReadable := by
    rw [ModuleForm.isReadable, Bool.and_eq_true, List.all_eq_true, Source.ClassForm.isReadable, Bool.and_eq_true,
      List.all_eq_true]
    exact and_congr_left fun _ => ImportTable.isReadable_forms_iff hc.tried
  have hplaced : (c.form defs).IsPlaced ↔ AreWellPlaced c.imports.forms ∧ isForbidden (Text.composed c.name) = false ∧
      ∀ d ∈ defs, d.IsPlaced c.name :=
    ⟨fun h => ⟨h.imports, h.body.allowed, h.body.methods⟩, fun h => ⟨h.1, h.2.1, h.2.2⟩⟩
  rw [moduleText_eq hdefs, ModuleForm.checkModule_iff hwords hnames, hreadable, hplaced,
    forall_isPlaced_iff hdefs]
  tauto

end Containers

/-! ### Packages -/

/-- The import of a class beside the package, as a form. -/
def ExportLine.form (l : ExportLine) : Source.ImportForm := ⟨true, l.module, [], ⟨l.name, none⟩, []⟩

/-- The package that exports classes. -/
def exportForm (lines : List ExportLine) : PackageForm :=
  ⟨"Generated navigation factories.", lines.map (·.form), lines.map (·.name)⟩

section Packages

variable {lines : List ExportLine} {containers : List Container}

private theorem exportLines_eq (lines : List ExportLine) : exportLines lines = (exportForm lines).lines := by
  have hform : ∀ l : ExportLine, l.form.shown = l.text := by
    intro l
    simp [Source.ImportForm.shown, ExportLine.form, Source.ImportForm.parts, ExportLine.text, Source.ImportEntry.shown]
  have htexts : (lines.map (·.form)).map Source.ImportForm.shown = lines.map (·.text) := by
    rw [List.map_map]
    exact List.map_congr_left fun l _ => hform l
  have hall : Source.exportList ++ " = [" = "__all__ = [" := by decide
  rw [exportLines, PackageForm.lines, exportForm, htexts, Source.exportListLines, hall]
  simp [Function.comp_def]

private theorem closeText_exportLines (lines : List ExportLine) :
    closeText (linesText (exportLines lines)) = String.ofList (lineChars (exportForm lines).lines) := by
  rw [exportLines_eq, closeText_linesText]
  rw [PackageForm.lines, Source.exportListLines, ← List.append_assoc]
  exact ⟨_, "]", [], ']', rfl, rfl, by decide⟩

private theorem areWellPlaced_exports (lines : List ExportLine) :
    AreWellPlaced (lines.map (·.form)) ↔ ∀ l ∈ lines, isForbidden l.identifier = false := by
  have hrequest : ∀ f ∈ lines.map (·.form), f.isRequest = false := by
    intro f hf
    obtain ⟨l, -, rfl⟩ := List.mem_map.1 hf
    rfl
  have htake : (lines.map (·.form)).takeWhile Source.ImportForm.isRequest = [] := by
    cases lines with
    | nil => rfl
    | cons l rest => rfl
  have hdrop : (lines.map (·.form)).dropWhile Source.ImportForm.isRequest = lines.map (·.form) := by
    cases lines with
    | nil => rfl
    | cons l rest => rfl
  rw [AreWellPlaced, htake, hdrop, and_iff_right (List.forall_mem_nil _), List.forall_mem_map]
  refine forall₂_congr fun l hl => ?_
  rw [and_iff_right (hrequest _ (List.mem_map_of_mem hl))]
  simp [Source.ImportForm.bindsAllowed, ExportLine.form, ExportLine.identifier]

/-- A package is accepted exactly if the classes that it exports have names that may be bound. -/
theorem checkModule_exports_iff (hmodules : ∀ l ∈ lines, isName l.module) (hnames : ∀ l ∈ lines, IsWord l.name.toList) :
    Source.checkModule (closeText (linesText (exportLines lines))) = .ok () ↔
      ∀ l ∈ lines, isName l.name ∧ isForbidden l.identifier = false := by
  have hdocumentation : ∀ c ∈ (exportForm []).documentation.toList, c ≠ '"' ∧ c ≠ '\\' ∧ c ≠ '\r' ∧ c ≠ '\x00' :=
    List.all_iff_forall_prop.1 (by decide)
  have hword : ∀ l ∈ lines, IsWord l.module.toList := fun l hl =>
    isWord_of_isIdentifier (isIdentifier_of_isName (hmodules l hl))
  have hwords : (exportForm lines).HasWords := by
    refine ⟨hdocumentation, ?_, ?_⟩
    · simp only [exportForm, List.forall_mem_map]
      intro l hl
      refine ⟨by simpa [ExportLine.form, Source.ImportForm.parts] using hword l hl, ?_⟩
      simpa [ExportLine.form, Source.ImportEntry.HasWords] using hnames l hl
    · simp only [exportForm, List.forall_mem_map]
      exact fun l hl => (hnames l hl).parts
  have hform : (exportForm lines).HasNames := by
    refine ⟨fun h => (hdocumentation _ h).2.1 rfl, ?_⟩
    simp only [exportForm, List.forall_mem_map]
    intro l hl
    simpa [ExportLine.form, Source.ImportForm.parts] using hmodules l hl
  have hreadable : (∀ f ∈ (exportForm lines).imports, f.isReadable) ↔ ∀ l ∈ lines, isName l.name := by
    simp only [exportForm, List.forall_mem_map]
    refine forall₂_congr fun l hl => ?_
    simp [Source.ImportForm.isReadable, ExportLine.form, Source.ImportForm.parts, Source.ImportEntry.isReadable,
      hmodules l hl]
  rw [closeText_exportLines, PackageForm.checkModule_iff hwords hform, hreadable, exportForm, areWellPlaced_exports,
    ← forall₂_and]

end Packages

end NavFactory
