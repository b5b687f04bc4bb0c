import NavFactory.Proofs.Accessors
import NavFactory.Proofs.ContainerForms

/-!
# Generated methods as forms

The method for a group of parameters is written as a definition (`PlannedMethod.exists_isWrittenAs`), and so is the accessor
of a model (`Selected.isWrittenAs_definition`).  A definition is read exactly if its name and its arguments are names, the
types that its class refers to are read, and no fragment state stands for a text (`PlannedMethod.isReadable_definition_iff`).
-/

namespace NavFactory

open Source (AreKeywords Definition Formal Formals IsWord Keyword Line Operand isForbidden)
open Source.Parser (isName)

/-! ### Keywords -/

/-- Keywords in ASCII stay as they are. -/
private theorem areKeywords_of_ascii {ks : List Keyword}
    (hnames : ∀ k ∈ ks, isName k.1 ∧ k.1.toList.all (·.toNat < 0x80) ∧ isForbidden k.1 = false)
    (hnodup : (ks.map (·.1)).Nodup) (hfit : ∀ k ∈ ks, k.2.IsFit) : AreKeywords ks := by
  have hcomposed : ∀ k ∈ ks, Text.composed k.1 = k.1 := fun k hk => if_pos (hnames k hk).2.1
  refine ⟨fun k hk => ⟨(hnames k hk).1, ?_⟩, ?_, hfit⟩
  · rw [hcomposed k hk]
    exact (hnames k hk).2.2
  · rwa [List.map_congr_left hcomposed]

/-! ### Attributes -/

namespace Attribute

/-- A value that an attribute takes, as the descriptor gets it. -/
def operand (nameOf : TypeRef → String) (a : Attribute) (usage : Usage) : Operand :=
  match a.kind, a.valueIn usage with
  | .state, .state m => .member (nameOf stateType) m.name
  | _, .int i => .int i
  | _, .text s => .text s
  | _, .state m => .state m
  | _, _ => .empty

/-- Whether an attribute is a text for which a state stands. -/
def quotesState (a : Attribute) (usage : Usage) : Bool :=
  match a.kind, a.valueIn usage with
  | .text, .state _ => true
  | _, _ => false

variable {a : Attribute} {usage : Usage} {text : String} {table : ImportTable}

private theorem isName_stateName (m : FragmentState) : isName m.name := by
  cases m <;> decide

/-- What an attribute takes. -/
private theorem value_cases (haccepts : a.kind.accepts (a.valueIn usage)) :
    (a.kind = .integer ∧ ∃ i, a.valueIn usage = .int i) ∨ (a.kind = .text ∧ ∃ s, a.valueIn usage = .text s) ∨
      (a.kind = .text ∧ ∃ m, a.valueIn usage = .state m) ∨ (a.kind = .state ∧ ∃ m, a.valueIn usage = .state m) := by
  cases hk : a.kind <;> cases hv : a.valueIn usage <;>
    simp [hk, hv, AttributeKind.accepts, Value.asInt?, Value.asText?, Value.asState?] at haccepts ⊢

/-- The text of an attribute is that of its operand. -/
private theorem shown_operand {nameOf : TypeRef → String} (haccepts : a.kind.accepts (a.valueIn usage))
    (htext : a.textUnder nameOf usage = .ok text) : (a.operand nameOf usage).shown = text := by
  rcases value_cases haccepts with ⟨hk, i, hv⟩ | ⟨hk, s, hv⟩ | ⟨hk, m, hv⟩ | ⟨hk, m, hv⟩
  · rw [textUnder, hk, hv] at htext
    rw [operand, hk, hv]
    change Value.shownInt i = _ at htext
    rw [Value.shownInt] at htext
    split_ifs at htext
    exact Except.ok.inj htext
  all_goals
    rw [textUnder, hk, hv] at htext
    rw [operand, hk, hv]
    exact Except.ok.inj htext

private theorem isFit_operand (htried : table.Tried) (haccepts : a.kind.accepts (a.valueIn usage))
    (htext : a.textUnder table.nameOf usage = .ok text) : (a.operand table.nameOf usage).IsFit := by
  rcases value_cases haccepts with ⟨hk, i, hv⟩ | ⟨hk, s, hv⟩ | ⟨hk, m, hv⟩ | ⟨hk, m, hv⟩
  · rw [textUnder, hk, hv] at htext
    rw [operand, hk, hv]
    change Value.shownInt i = _ at htext
    rw [Value.shownInt] at htext
    split_ifs at htext with hlimit
    have hpower : ∀ n, Nat.pow 10 n = 10 ^ n := fun _ => rfl
    have hdigits : Value.maxDigits = Source.maxDecimalDigits := rfl
    rw [hpower, hdigits] at hlimit
    exact Nat.lt_of_not_le hlimit
  · rw [operand, hk, hv]
    trivial
  · rw [operand, hk, hv]
    trivial
  · rw [operand, hk, hv]
    exact ⟨isName_nameOf htried (by decide +kernel), isName_stateName m⟩

private theorem isWord_of_mem_operand (htried : table.Tried) (haccepts : a.kind.accepts (a.valueIn usage)) :
    ∀ w ∈ (a.operand table.nameOf usage).words, IsWord w.toList := by
  rcases value_cases haccepts with ⟨hk, i, hv⟩ | ⟨hk, s, hv⟩ | ⟨hk, m, hv⟩ | ⟨hk, m, hv⟩
  all_goals
    rw [operand, hk, hv]
  · exact List.forall_mem_nil _
  · exact List.forall_mem_nil _
  · exact List.forall_mem_nil _
  · have hstate : isName (table.nameOf stateType) := isName_nameOf htried (by decide +kernel)
    refine List.forall_mem_cons.2 ⟨?_, List.forall_mem_singleton.2 ?_⟩
    · exact isWord_of_isIdentifier (isIdentifier_of_isName hstate)
    · exact isWord_of_isIdentifier (isIdentifier_of_isName (isName_stateName m))

private theorem isReadable_operand (haccepts : a.kind.accepts (a.valueIn usage)) (nameOf : TypeRef → String) :
    (a.operand nameOf usage).isReadable = !a.quotesState usage := by
  rcases value_cases haccepts with ⟨hk, i, hv⟩ | ⟨hk, s, hv⟩ | ⟨hk, m, hv⟩ | ⟨hk, m, hv⟩
  all_goals
    rw [operand, quotesState, hk, hv]
    rfl

end Attribute

/-- An accepted class has values that its attributes take. -/
theorem accepts_attributes {t : TargetKind} {s : Selected} (h : t.accepts s) :
    ∀ a ∈ t.attributes, a.kind.accepts (a.valueIn s.usage) := by
  obtain ⟨model, hmodel⟩ := accepts_iff.1 h
  have hproblems := (accepted_of_verdict hmodel).targetProblems_eq
  rw [targetProblems] at hproblems
  obtain ⟨ofAttributes, hattributes, hproblems⟩ := bind_eq_ok_iff.1 hproblems
  simp only [Except.ok.injEq, List.append_eq_nil_iff] at hproblems
  obtain ⟨⟨-, rfl⟩, -⟩ := hproblems
  exact attributeProblems_nil hattributes

/-! ### Definitions for groups of parameters -/

namespace PlannedMethod

/-- The parameter for an entry. -/
def formal (nameOf : TypeRef → String) (x : ParameterEntry × String) : Formal :=
  ⟨x.2, if x.1.optional then .subscript (nameOf optionalType) (nameOf x.1.type) [] else .word (nameOf x.1.type)⟩

/-- The line that adds the provider of an entry to the list. -/
def appendLine (nameOf : TypeRef → String) (x : ParameterEntry × String) : Line :=
  .append ⟨nameOf providerType, ("key", .text x.1.key), [("value", .word x.2), ("name", .text x.1.name),
    ("type", .word (nameOf x.1.type)), ("optional", .word (if x.1.optional then "True" else "False"))]⟩

/-- The keywords of the descriptor of a class. -/
def keywords (t : TargetKind) (nameOf : TypeRef → String) (s : Selected) : List Keyword :=
  (t.attributes.map fun a => (a.keyword, a.operand nameOf s.usage)) ++ [("parameters", .word parameterList)]

/-- The line that returns the descriptor. -/
def returnLine (t : TargetKind) (nameOf : TypeRef → String) (s : Selected) : Line :=
  .returns ⟨nameOf t.descriptor, ("target_class", .word (nameOf s.typeRef)), keywords t nameOf s⟩

/-- A planned method as a definition, with given names for types and arguments. -/
def definition (t : TargetKind) (nameOf : TypeRef → String) (p : PlannedMethod) (arguments : List String) :
    Definition where
  name := p.name
  formals :=
    { required := ((p.entries.zip arguments).filter (!·.1.optional)).map (formal nameOf)
      optional := ((p.entries.zip arguments).filter (·.1.optional)).map (formal nameOf) }
  returns := nameOf t.descriptor
  body :=
    .doc (methodDocstring p.target.name p.group) :: .allocate (nameOf listType) (nameOf providerType) ::
      (p.entries.zip arguments).map (appendLine nameOf) ++ [returnLine t nameOf p.target]

section Texts

variable {t : TargetKind} {nameOf : TypeRef → String} {p : PlannedMethod} {arguments : List String} {s : Selected}

private theorem shown_appendLine (x : ParameterEntry × String) :
    (appendLine nameOf x).shown = appendStatement (t.bodyNames nameOf s) x.1 (nameOf x.1.type) x.2 := by
  rw [← String.toList_inj]
  simp [appendLine, Line.shown, Source.Invocation.shown, Source.Invocation.keywords, Keyword.shown, Operand.shown,
    appendStatement, TargetKind.bodyNames, String.intercalate_cons_cons, String.intercalate_singleton]

private theorem attributeTexts_eq {attributes : List Attribute} {usage : Usage} {texts : List (String × String)}
    (haccepts : ∀ a ∈ attributes, a.kind.accepts (a.valueIn usage))
    (htexts : attributeTextsUnder nameOf usage attributes = .ok texts) :
    texts = attributes.map fun a => (a.keyword, (a.operand nameOf usage).shown) := by
  induction attributes generalizing texts with
  | nil => exact (Except.ok.inj htexts).symm
  | cons a rest ih =>
    obtain ⟨ha, hrest⟩ := List.forall_mem_cons.1 haccepts
    rw [attributeTextsUnder, bind_eq_ok_iff] at htexts
    obtain ⟨text, htext, htexts⟩ := htexts
    obtain ⟨others, hothers, htexts⟩ := bind_eq_ok_iff.1 htexts
    rw [List.map_cons, Attribute.shown_operand ha htext, ← ih hrest hothers]
    exact (Except.ok.inj htexts).symm

private theorem exists_text {attributes : List Attribute} {usage : Usage} {texts : List (String × String)}
    (htexts : attributeTextsUnder nameOf usage attributes = .ok texts) :
    ∀ a ∈ attributes, ∃ text, a.textUnder nameOf usage = .ok text := by
  induction attributes generalizing texts with
  | nil => exact List.forall_mem_nil _
  | cons a rest ih =>
    rw [attributeTextsUnder, bind_eq_ok_iff] at htexts
    obtain ⟨text, htext, htexts⟩ := htexts
    obtain ⟨others, hothers, -⟩ := bind_eq_ok_iff.1 htexts
    exact List.forall_mem_cons.2 ⟨⟨text, htext⟩, ih hothers⟩

private theorem shown_returnLine {texts : List (String × String)} (haccepts : t.accepts s)
    (htexts : attributeTextsUnder nameOf s.usage t.attributes = .ok texts) :
    (returnLine t nameOf s).shown = returnStatement (t.bodyNames nameOf s) texts := by
  have htarget : Keyword.shown ("target_class", .word (nameOf s.typeRef)) = "target_class=" ++ nameOf s.typeRef := by
    rw [← String.toList_inj]
    simp [Keyword.shown, Operand.shown]
  have hparameters : Keyword.shown ("parameters", .word parameterList) = "parameters=" ++ parameterList := by decide
  have hattributes : (t.attributes.map fun a => (a.keyword, a.operand nameOf s.usage)).map Keyword.shown =
      texts.map fun text => text.1 ++ "=" ++ text.2 := by
    rw [attributeTexts_eq (accepts_attributes haccepts) htexts, List.map_map, List.map_map]
    rfl
  rw [returnLine, Line.shown, Source.Invocation.shown, Source.Invocation.keywords, keywords, List.map_cons,
    List.map_append, List.map_singleton, htarget, hparameters, hattributes]
  simp only [returnStatement, TargetKind.bodyNames, String.append_assoc, List.nil_append, List.cons_append]

private theorem shown_formals (p : PlannedMethod) :
    (p.definition t nameOf arguments).formals.shown = ", ".intercalate ((p.required nameOf arguments).map (·.text) ++
      if p.optional nameOf arguments = [] then [] else "*" :: (p.optional nameOf arguments).map (·.text)) := by
  have hrequired : (p.definition t nameOf arguments).formals.required.map (fun f => (Source.Part.required f).shown) =
      (p.required nameOf arguments).map (·.text) := by
    rw [definition, required, List.map_map, List.map_map]
    refine List.map_congr_left fun x hx => ?_
    have hoptional : x.1.optional = false := by simpa using (List.mem_filter.1 hx).2
    simp [formal, hoptional, Source.Part.shown, Operand.shown, requiredParameter, Parameter.text]
  have hoptional : (p.definition t nameOf arguments).formals.optional.map (fun f => (Source.Part.optional f).shown) =
      (p.optional nameOf arguments).map (·.text) := by
    rw [definition, optional, List.map_map, List.map_map]
    refine List.map_congr_left fun x hx => ?_
    have hoptional : x.1.optional = true := (List.mem_filter.1 hx).2
    rw [← String.toList_inj]
    simp [formal, hoptional, Source.Part.shown, Operand.shown, optionalParameter, Parameter.text,
      String.intercalate_singleton]
  have hempty : (p.definition t nameOf arguments).formals.optional.isEmpty ↔ p.optional nameOf arguments = [] := by
    rw [List.isEmpty_iff, definition, optional, List.map_eq_nil_iff, List.map_eq_nil_iff]
  rw [Formals.shown, Formals.parts, List.map_append, List.map_map, ← hrequired, ← hoptional]
  by_cases hnone : p.optional nameOf arguments = []
  · rw [if_pos (hempty.2 hnone), if_pos hnone]
    rfl
  · rw [if_neg (mt hempty.1 hnone), if_neg hnone, List.map_cons, List.map_map]
    rfl

/-- The documentation of a method has nothing to escape. -/
private theorem hasWords_docstring {name : String} {group : Option String} (hname : IsWord name.toList)
    (hgroup : IsNamedGroup group) : (Line.doc (methodDocstring name group)).HasWords := by
  have hpart : ∀ cs : List Char, (∀ c ∈ cs, Source.isNamePart c) → ∀ c ∈ cs, c ≠ '"' ∧ c ≠ '\\' ∧ c ≠ '\r' ∧ c ≠ '\x00' :=
    fun cs hcs c hc => ⟨Source.ne_of_isNamePart (hcs c hc) (by decide), Source.ne_of_isNamePart (hcs c hc) (by decide),
      Source.ne_of_isNamePart (hcs c hc) (by decide), Source.ne_of_isNamePart (hcs c hc) (by decide)⟩
  have happend : ∀ s t : String, (Line.doc s).HasWords → (Line.doc t).HasWords → (Line.doc (s ++ t)).HasWords := by
    intro s t hs ht c hc
    rw [String.toList_append, List.mem_append] at hc
    exact hc.elim (hs c) (ht c)
  have hfor : (Line.doc ("Target for " ++ name)).HasWords := by
    exact happend _ _ (List.all_iff_forall_prop.1 (by decide)) (hpart _ hname.parts)
  have hshort : (Line.doc ("Target for " ++ name ++ ".")).HasWords := by
    exact happend _ _ hfor (List.all_iff_forall_prop.1 (by decide))
  cases group with
  | none => exact hshort
  | some group =>
    rw [methodDocstring]
    split_ifs with hdefault
    · exact hshort
    · obtain ⟨-, hchars⟩ := (hgroup group rfl).resolve_left (by simpa using hdefault)
      have hparts : ∀ c ∈ group.toList, Source.isNamePart c := by
        intro c hc
        rcases hchars c hc with h | rfl
        · rw [Char.isAlphanum, Bool.or_eq_true] at h
          rcases h with h | h <;> simp [Source.isNamePart, Source.isNameStart, h]
        · decide
      refine happend _ _ (happend _ _ (happend _ _ hfor ?_) (hpart _ hparts)) ?_
      · exact List.all_iff_forall_prop.1 (by decide)
      · exact List.all_iff_forall_prop.1 (by decide)

private theorem isEmpty_methodDocstring (name : String) (group : Option String) :
    (methodDocstring name group).isEmpty = false := by
  have hprefix : ∀ s : String, ("Target for " ++ s).isEmpty = false := by
    intro s
    rw [Bool.eq_false_iff, ne_eq, String.isEmpty_iff, ← String.toList_inj]
    simp
  cases group with
  | none =>
    rw [methodDocstring, String.append_assoc]
    exact hprefix _
  | some group =>
    rw [methodDocstring]
    split_ifs
    all_goals
      simp only [String.append_assoc]
      exact hprefix _

/-! ### Methods as definitions -/

private theorem methodLines_eq {m : Method} {table : ImportTable} {texts : List (String × String)}
    (haccepts : t.accepts p.target)
    (htexts : attributeTextsUnder table.nameOf p.target.usage t.attributes = .ok texts)
    (hm : m = p.assembleUnder table.nameOf (t.bodyNames table.nameOf p.target) texts) :
    methodLines m = (p.definition t table.nameOf
      (p.argumentNames table.nameOf (t.bodyNames table.nameOf p.target) texts)).lines := by
  have hcollects := p.collects_assembleUnder table.nameOf (t.bodyNames table.nameOf p.target) texts
  rw [← hm] at hcollects
  have hdocumentation : m.docstring = some (methodDocstring p.target.name p.group) := hm ▸ rfl
  have hname : m.name = p.name := hm ▸ rfl
  have hreturns : m.returns = table.nameOf t.descriptor := hm ▸ rfl
  have hallocate : (Line.allocate (table.nameOf listType) (table.nameOf providerType)).shown =
      allocateStatement (t.bodyNames table.nameOf p.target) := rfl
  have happend : ∀ xs : List (ParameterEntry × String), (xs.map (appendLine table.nameOf)).map Line.shown =
      xs.map fun x => appendStatement (t.bodyNames table.nameOf p.target) x.1 (table.nameOf x.1.type) x.2 := by
    intro xs
    rw [List.map_map]
    exact List.map_congr_left fun x _ => shown_appendLine x
  have hbody : (p.definition t table.nameOf (p.argumentNames table.nameOf (t.bodyNames table.nameOf p.target) texts)).body.map
      Line.shown = docstringText (methodDocstring p.target.name p.group) :: m.statements := by
    rw [definition, hcollects.statements_eq, List.map_append, List.map_cons, List.map_cons, happend, hallocate,
      List.map_singleton, shown_returnLine haccepts htexts]
    rfl
  have hindented : ((p.definition t table.nameOf
      (p.argumentNames table.nameOf (t.bodyNames table.nameOf p.target) texts)).body.map fun l => "        " ++ l.shown) =
        ("        " ++ docstringText (methodDocstring p.target.name p.group)) :: m.statements.map ("        " ++ ·) := by
    have h := congrArg (List.map ("        " ++ ·)) hbody
    rwa [List.map_map, List.map_cons] at h
  rw [methodLines, hdocumentation, hname, hreturns, hcollects.signature_eq, ← shown_formals (t := t), Definition.lines,
    hindented]
  simp only [isEmpty_methodDocstring]
  rfl

private theorem names_formals : (p.definition t nameOf arguments).formals.all.map (·.name) =
      (p.required nameOf arguments ++ p.optional nameOf arguments).map (·.name) := by
  rw [Formals.all, definition, required, optional, List.map_append, List.map_append, List.map_map, List.map_map,
    List.map_map, List.map_map]
  rfl

private theorem forall_formals_iff {P : Formal → Prop} : (∀ f ∈ (p.definition t nameOf arguments).formals.all, P f) ↔
    ∀ x ∈ p.entries.zip arguments, P (formal nameOf x) := by
  rw [Formals.all, definition, ← List.map_append, List.forall_mem_map]
  have hperm := List.perm_append_comm.trans
    (List.filter_append_perm (fun x : ParameterEntry × String => x.1.optional) (p.entries.zip arguments))
  exact ⟨fun h x hx => h x (hperm.mem_iff.2 hx), fun h x hx => h x (hperm.mem_iff.1 hx)⟩

/-- The keywords of the calls in a method can stand in one call each. -/
private theorem areKeywords_appendLine (x : ParameterEntry × String) :
    AreKeywords [("key", .text x.1.key), ("value", .word x.2), ("name", .text x.1.name),
      ("type", .word (nameOf x.1.type)), ("optional", .word (if x.1.optional then "True" else "False"))] := by
  refine areKeywords_of_ascii ?_ ?_ ?_
  · have hall : ∀ w ∈ ["key", "value", "name", "type", "optional"],
        isName w ∧ w.toList.all (·.toNat < 0x80) ∧ isForbidden w = false := by
      decide +kernel
    exact (List.forall_mem_map (f := Prod.fst) (P := fun w =>
      isName w ∧ w.toList.all (·.toNat < 0x80) ∧ isForbidden w = false)).1 hall
  · simp only [List.map_cons, List.map_nil]
    decide
  · simp [Operand.IsFit]

private theorem areKeywords_returnLine {table : ImportTable} (ht : t ∈ [activityTargets, fragmentTargets])
    (htried : table.Tried) (haccepts : t.accepts s) {texts : List (String × String)}
    (htexts : attributeTextsUnder table.nameOf s.usage t.attributes = .ok texts) :
    AreKeywords (("target_class", .word (table.nameOf s.typeRef)) :: keywords t table.nameOf s) := by
  have hnames : (("target_class", .word (table.nameOf s.typeRef)) :: keywords t table.nameOf s).map (·.1) =
      "target_class" :: t.attributes.map (·.keyword) ++ ["parameters"] := by
    simp [keywords, Function.comp_def]
  have hall : ∀ t ∈ [activityTargets, fragmentTargets],
      (∀ w ∈ "target_class" :: t.attributes.map (·.keyword) ++ ["parameters"],
        isName w ∧ w.toList.all (·.toNat < 0x80) ∧ isForbidden w = false) ∧
      ("target_class" :: t.attributes.map (·.keyword) ++ ["parameters"]).Nodup := by
    decide +kernel
  obtain ⟨hkeywords, hnodup⟩ := hall t ht
  rw [← hnames] at hkeywords hnodup
  refine areKeywords_of_ascii (List.forall_mem_map.1 hkeywords) hnodup (List.forall_mem_cons.2 ⟨trivial, ?_⟩)
  rw [keywords, List.forall_mem_append, List.forall_mem_map]
  refine ⟨fun a ha => ?_, List.forall_mem_singleton.2 trivial⟩
  obtain ⟨text, htext⟩ := exists_text htexts a ha
  exact Attribute.isFit_operand htried (accepts_attributes haccepts a ha) htext

/-- The types that every method refers to go by names. -/
private theorem isName_runtime {table : ImportTable} (ht : t ∈ [activityTargets, fragmentTargets]) (htried : table.Tried) :
    isName (table.nameOf providerType) ∧ isName (table.nameOf listType) ∧ isName (table.nameOf optionalType) ∧
      isName (table.nameOf t.descriptor) := by
  have hall : ∀ t ∈ [activityTargets, fragmentTargets], providerType.isImportable ∧ listType.isImportable ∧
      optionalType.isImportable ∧ t.descriptor.isImportable := by
    decide +kernel
  obtain ⟨hprovider, hlist, hoptional, hdescriptor⟩ := hall t ht
  exact ⟨isName_nameOf htried hprovider, isName_nameOf htried hlist, isName_nameOf htried hoptional,
    isName_nameOf htried hdescriptor⟩

private theorem isWord_of_isName {w : String} (h : isName w) : IsWord w.toList :=
  isWord_of_isIdentifier (isIdentifier_of_isName h)

private theorem hasWords_invocation {c : Source.Invocation} (hfunction : isName c.function) (hks : AreKeywords c.keywords)
    (hwords : ∀ k ∈ c.keywords, ∀ w ∈ k.2.words, IsWord w.toList) : c.HasWords :=
  ⟨isWord_of_isName hfunction, fun k hk => ⟨isWord_of_isName (hks.names k hk).1, hwords k hk⟩⟩

private theorem forall_body_iff {P : Line → Prop} : (∀ l ∈ (p.definition t nameOf arguments).body, P l) ↔
    (P (.doc (methodDocstring p.target.name p.group)) ∧ P (.allocate (nameOf listType) (nameOf providerType))) ∧
      (∀ x ∈ p.entries.zip arguments, P (appendLine nameOf x)) ∧ P (returnLine t nameOf p.target) := by
  simp only [definition, List.cons_append, List.forall_mem_cons, List.forall_mem_append, List.forall_mem_map, and_assoc]
  simp

/-- The words of a definition are words if its arguments and the types that it refers to are. -/
private theorem hasWords_definition {table : ImportTable} {texts : List (String × String)}
    (ht : t ∈ [activityTargets, fragmentTargets]) (htried : table.Tried) (haccepts : t.accepts p.target)
    (htexts : attributeTextsUnder table.nameOf p.target.usage t.attributes = .ok texts) (hgroup : IsNamedGroup p.group)
    (hspelled : ∀ u ∈ t.typesOf p, u.IsSpelled) (harguments : ∀ a ∈ arguments, IsWord a.toList) :
    (p.definition t table.nameOf arguments).HasWords := by
  obtain ⟨hprovider, hlist, hoptional, hdescriptor⟩ := isName_runtime ht htried
  have htarget : p.target.typeRef.IsSpelled := hspelled _ (by simp [TargetKind.typesOf])
  have htype : ∀ x ∈ p.entries.zip arguments, IsWord (table.nameOf x.1.type).toList := by
    intro x hx
    refine isWord_nameOf htried (hspelled _ ?_)
    simp only [TargetKind.typesOf, List.mem_append, List.mem_map]
    exact Or.inl (Or.inl (Or.inr ⟨x.1, (List.of_mem_zip hx).1, rfl⟩))
  have hargument : ∀ x ∈ p.entries.zip arguments, IsWord x.2.toList := fun x hx => harguments _ (List.of_mem_zip hx).2
  refine ⟨isWord_targetMethodName htarget.name hgroup, ?_, isWord_of_isName hdescriptor, by simp [definition], ?_⟩
  · rw [Formals.HasWords, forall_formals_iff]
    intro x hx
    refine ⟨hargument x hx, ?_⟩
    rw [formal]
    split_ifs
    · simpa [Operand.words] using ⟨isWord_of_isName hoptional, htype x hx⟩
    · simpa [Operand.words] using htype x hx
  · rw [forall_body_iff]
    refine ⟨⟨hasWords_docstring htarget.name hgroup, isWord_of_isName hlist, isWord_of_isName hprovider⟩, fun x hx => ?_, ?_⟩
    · refine hasWords_invocation hprovider (areKeywords_appendLine x) ?_
      have htruth : IsWord (if x.1.optional then "True" else "False").toList := by
        split_ifs <;> exact Source.isWord_literal (by decide)
      simpa [Source.Invocation.keywords, Operand.words] using ⟨hargument x hx, htype x hx, htruth⟩
    · refine hasWords_invocation hdescriptor (areKeywords_returnLine ht htried haccepts htexts) ?_
      have hlistWord : IsWord parameterList.toList := Source.isWord_literal (by decide)
      rw [Source.Invocation.keywords, keywords, List.forall_mem_cons, List.forall_mem_append, List.forall_mem_map]
      refine ⟨?_, fun a ha => ?_, ?_⟩
      · simpa [Operand.words] using isWord_nameOf htried htarget
      · exact Attribute.isWord_of_mem_operand htried (accepts_attributes haccepts a ha)
      · simpa [Operand.words] using hlistWord

/-- A planned method is written as a definition for the names of a table. -/
theorem exists_isWrittenAs {table : ImportTable} {m : Method} (ht : t ∈ [activityTargets, fragmentTargets])
    (htried : table.Tried) (haccepts : t.accepts p.target) (hgroup : IsNamedGroup p.group)
    (hspelled : ∀ u ∈ t.typesOf p, u.IsSpelled) (hm : t.methodUnder table.nameOf p = .ok m) :
    ∃ arguments, arguments.length = p.entries.length ∧ m.IsWrittenAs (p.definition t table.nameOf arguments) := by
  rw [methodUnder_eq, map_eq_ok_iff] at hm
  obtain ⟨texts, htexts, rfl⟩ := hm
  obtain ⟨hprovider, hlist, hoptional, hdescriptor⟩ := isName_runtime ht htried
  have hcollects := p.collects_assembleUnder table.nameOf (t.bodyNames table.nameOf p.target) texts
  refine ⟨_, hcollects.length_arguments, ?_⟩
  constructor
  case lines => exact methodLines_eq haccepts htexts rfl
  case name => rfl
  case parameters => rw [names_formals, hcollects.parameters_eq]
  case words =>
    exact hasWords_definition ht htried haccepts htexts hgroup hspelled fun _ ha => isWord_of_mem_argumentsFor ha
  case fit =>
    rw [forall_formals_iff]
    intro x _
    rw [formal]
    split_ifs
    · exact ⟨hoptional, by decide⟩
    · trivial
  case names =>
    intro _
    have hdocumentation := hasWords_docstring (hspelled p.target.typeRef (by simp [TargetKind.typesOf])).name hgroup
    have hattributes : ∀ t ∈ [activityTargets, fragmentTargets], t.attributes.length + 1 < Source.lineBound := by decide
    rw [forall_body_iff]
    refine ⟨⟨fun h => (hdocumentation _ h).2.1 rfl, hlist⟩, fun x _ => ?_, ?_⟩
    · exact ⟨hprovider, areKeywords_appendLine x, (by decide : 4 < Source.lineBound)⟩
    · refine ⟨hdescriptor, areKeywords_returnLine ht htried haccepts htexts, ?_⟩
      simpa [keywords] using hattributes t ht

/-- A definition is read exactly if its name and its arguments are names, the types that its class refers to are read, and
no state stands for a text. -/
theorem isReadable_definition_iff {table : ImportTable} (ht : t ∈ [activityTargets, fragmentTargets])
    (htried : table.Tried) (haccepts : t.accepts p.target) (hlength : arguments.length = p.entries.length) :
    (p.definition t table.nameOf arguments).isReadable ↔
      (isName p.name ∧ ∀ f ∈ (p.definition t table.nameOf arguments).formals.all, isName f.name) ∧
        (Source.isReadable (table.nameOf p.target.typeRef) ∧
          ∀ e ∈ p.entries, Source.isReadable (table.nameOf e.type)) ∧
        ∀ a ∈ t.attributes, a.quotesState p.target.usage = false := by
  obtain ⟨hprovider, hlist, hoptional, hdescriptor⟩ := isName_runtime ht htried
  have hword : ∀ {w : String}, isName w → Source.isReadable w := fun h => by rw [Source.isReadable, h, Bool.true_or]
  have hentries : (∀ e ∈ p.entries, Source.isReadable (table.nameOf e.type)) ↔
      ∀ x ∈ p.entries.zip arguments, Source.isReadable (table.nameOf x.1.type) := by
    have hmap : (p.entries.zip arguments).map (·.1) = p.entries := List.map_fst_zip hlength.ge
    calc (∀ e ∈ p.entries, Source.isReadable (table.nameOf e.type))
      _ ↔ ∀ e ∈ (p.entries.zip arguments).map (·.1), Source.isReadable (table.nameOf e.type) := by rw [hmap]
      _ ↔ ∀ x ∈ p.entries.zip arguments, Source.isReadable (table.nameOf x.1.type) := List.forall_mem_map
  have hhint : ∀ x, (formal table.nameOf x).hint.isReadable = Source.isReadable (table.nameOf x.1.type) := by
    intro x
    rw [formal]
    split_ifs <;> simp [Operand.isReadable]
  have happend : ∀ x, (appendLine table.nameOf x).isReadable =
      (Source.isReadable x.2 && Source.isReadable (table.nameOf x.1.type)) := by
    intro x
    have htruth : Source.isReadable (if x.1.optional then "True" else "False") := by
      split_ifs <;> decide
    simp [appendLine, Line.isReadable, Source.Invocation.isReadable, Source.Invocation.keywords, Operand.isReadable, htruth]
  have hreturn : (returnLine t table.nameOf p.target).isReadable ↔ Source.isReadable (table.nameOf p.target.typeRef) ∧
      ∀ a ∈ t.attributes, a.quotesState p.target.usage = false := by
    have hattributes : (∀ a ∈ t.attributes, (a.operand table.nameOf p.target.usage).isReadable) ↔
        ∀ a ∈ t.attributes, a.quotesState p.target.usage = false := by
      refine forall₂_congr fun a ha => ?_
      rw [Attribute.isReadable_operand (accepts_attributes haccepts a ha), Bool.not_eq_true']
    have hparameters : Source.isReadable parameterList := by decide
    rw [← hattributes]
    simp [returnLine, Line.isReadable, Source.Invocation.isReadable, Source.Invocation.keywords, keywords,
      Operand.isReadable, hparameters]
  rw [Definition.isReadable, Bool.and_eq_true, Bool.and_eq_true, Bool.and_eq_true, Formals.isReadable, List.all_eq_true,
    List.all_eq_true, forall_formals_iff, forall_formals_iff, forall_body_iff, hentries, hreturn]
  have hdoc : ∀ s, (Line.doc s).isReadable = true := fun _ => rfl
  have hallocate : (Line.allocate (table.nameOf listType) (table.nameOf providerType)).isReadable = true := hword hprovider
  have hreturns : Source.isReadable (p.definition t table.nameOf arguments).returns := hword hdescriptor
  have hname : (p.definition t table.nameOf arguments).name = p.name := rfl
  have hformal : ∀ x, (formal table.nameOf x).name = x.2 := fun x => rfl
  simp only [hdoc, hallocate, happend, hhint, hreturns, hname, hformal, Bool.and_eq_true, and_true, true_and]
  constructor
  · rintro ⟨⟨hmethod, hformals⟩, hlines, htarget, hstates⟩
    exact ⟨⟨hmethod, fun x hx => (hformals x hx).1⟩, ⟨htarget, fun x hx => (hformals x hx).2⟩, hstates⟩
  · rintro ⟨⟨hmethod, hformals⟩, ⟨htarget, htypes⟩, hstates⟩
    exact ⟨⟨hmethod, fun x hx => ⟨hformals x hx, htypes x hx⟩⟩,
      fun x hx => ⟨hword (hformals x hx), htypes x hx⟩, htarget, hstates⟩

end Texts

end PlannedMethod

/-! ### Definitions for models -/

namespace Selected

/-- The accessor of a model as a definition, with given names for types. -/
def definition (nameOf : TypeRef → String) (s : Selected) : Definition where
  name := accessorName s.name
  formals := ⟨[⟨bundleArgument, .subscript (nameOf mappingType) "str" [nameOf anyType]⟩], []⟩
  returns := nameOf s.typeRef
  body := [.construct (nameOf s.typeRef) bundleArgument]

variable {s : Selected} {table : ImportTable}

private theorem isName_signature (htried : table.Tried) :
    isName (table.nameOf mappingType) ∧ isName (table.nameOf anyType) :=
  ⟨isName_nameOf htried (by decide +kernel), isName_nameOf htried (by decide +kernel)⟩

private theorem methodLines_accessor (nameOf : TypeRef → String) (s : Selected) :
    methodLines (accessor (nameOf mappingType) (nameOf anyType) (nameOf s.typeRef) s) = (s.definition nameOf).lines := by
  have hhint : (Operand.subscript (nameOf mappingType) "str" [nameOf anyType]).shown =
      nameOf mappingType ++ "[str, " ++ nameOf anyType ++ "]" := by
    rw [← String.toList_inj]
    simp [Operand.shown, String.intercalate_cons_cons, String.intercalate_singleton]
  simp [methodLines, accessor, Definition.lines, definition, Formals.shown, Formals.parts, Source.Part.shown, Line.shown,
    Method.signature, signatureParts, Parameter.text, hhint, String.intercalate_singleton]

/-- An accessor is written as a definition for the names of a table. -/
theorem isWrittenAs_definition (htried : table.Tried) (hspelled : s.typeRef.IsSpelled) :
    (accessor (table.nameOf mappingType) (table.nameOf anyType) (table.nameOf s.typeRef) s).IsWrittenAs
      (s.definition table.nameOf) := by
  obtain ⟨hmapping, hany⟩ := isName_signature htried
  have hword : ∀ {w : String}, isName w → IsWord w.toList := fun h => isWord_of_isIdentifier (isIdentifier_of_isName h)
  have hbundle : isName bundleArgument := by decide
  have hmodel := isWord_nameOf htried hspelled
  constructor
  case lines => exact methodLines_accessor table.nameOf s
  case name => rfl
  case parameters => rfl
  case words =>
    refine ⟨isWord_accessorName hspelled.name, ?_, hmodel, by simp [definition], ?_⟩
    · have hstr : IsWord "str".toList := Source.isWord_literal (by decide)
      simpa [Formals.HasWords, Formals.all, definition, Operand.words] using ⟨hword hbundle, hword hmapping, hstr, hword hany⟩
    · exact List.forall_mem_singleton.2 ⟨hmodel, hword hbundle⟩
  case fit => exact List.forall_mem_singleton.2 ⟨hmapping, Nat.lt_succ_self 1⟩
  case names => exact fun hreturns => List.forall_mem_singleton.2 ⟨hreturns, hbundle⟩

/-- An accessor is read exactly if its name is a name and its model is read. -/
theorem isReadable_definition_iff (htried : table.Tried) :
    (s.definition table.nameOf).isReadable ↔ isName (accessorName s.name) ∧ Source.isReadable (table.nameOf s.typeRef) := by
  obtain ⟨-, hany⟩ := isName_signature htried
  have hstr : Source.isReadable "str" := by decide
  have hbundle : isName bundleArgument := by decide
  have hany : Source.isReadable (table.nameOf anyType) := by rw [Source.isReadable, hany, Bool.true_or]
  simp [Definition.isReadable, definition, Formals.isReadable, Formals.all, Operand.isReadable, Line.isReadable, hstr,
    hbundle, hany]

end Selected

end NavFactory
