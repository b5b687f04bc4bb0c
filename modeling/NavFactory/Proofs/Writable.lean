import NavFactory.Proofs.MethodForms

/-!
# Rounds that can be written

Without templates a round that has read its declarations makes all of its modules exactly if the names that these are made of
can stand where they do (`exists_plan_iff`): the types can be imported, containers and arguments have names that may be bound,
and no fragment state stands for a text.
-/

namespace NavFactory

open Source (AreWellPlaced Definition IsWord isForbidden)
open Source.Parser (isName)

/-! ### Names that can be written -/

/-- Whether a word is a name that may be bound. -/
def isBindable (w : String) : Bool := isName w && !isForbidden (Text.composed w)

theorem isBindable_iff {w : String} : isBindable w ↔ isName w ∧ isForbidden (Text.composed w) = false := by
  rw [isBindable, Bool.and_eq_true, Bool.not_eq_true']

namespace TypeRef

/-- Whether a type can be referred to in a module. -/
def isUsable (u : TypeRef) : Bool := if u.isBuiltin then Source.isReadable u.name else u.isImportable

variable {u : TypeRef} {table : ImportTable}

theorem isUsable_of_isBuiltin (hb : u.isBuiltin) : u.isUsable = Source.isReadable u.name := if_pos hb

theorem isUsable_of_not_isBuiltin (hb : ¬u.isBuiltin) : u.isUsable = u.isImportable := if_neg hb

theorem isReadable_nameOf (htried : table.Tried) (hu : u.isUsable) : Source.isReadable (table.nameOf u) := by
  by_cases hb : u.isBuiltin
  · rwa [nameOf_builtin table hb, ← isUsable_of_isBuiltin hb]
  · rw [isUsable_of_not_isBuiltin hb] at hu
    rw [Source.isReadable, isName_nameOf htried hu, Bool.true_or]

/-- The name of a type that can be referred to is an identifier. -/
theorem isIdentifier_of_isUsable (hu : u.isUsable) : Text.isIdentifier u.name := by
  by_cases hb : u.isBuiltin
  · rw [isUsable_of_isBuiltin hb] at hu
    exact isIdentifier_of_isReadable hu
  · rw [isUsable_of_not_isBuiltin hb, isImportable, Bool.and_eq_true] at hu
    exact isIdentifier_of_isName hu.2

/-- A type that can be referred to is spelled. -/
theorem isSpelled_of_isUsable (hu : u.isUsable) : u.IsSpelled := by
  refine ⟨?_, isWord_of_isIdentifier (isIdentifier_of_isUsable hu)⟩
  by_cases hb : u.isBuiltin
  · have hmodule : u.module = builtinModule := by simpa [isBuiltin] using hb
    have hparts : ∀ w ∈ DottedPath.ofText builtinModule, Text.isIdentifier w := by decide
    rw [hmodule]
    exact fun w hw => isWord_of_isIdentifier (hparts w hw)
  · rw [isUsable_of_not_isBuiltin hb, isImportable, Bool.and_eq_true, List.all_eq_true] at hu
    exact fun w hw => isWord_of_isIdentifier (isIdentifier_of_isName (hu.1 w hw))

end TypeRef

instance (fs : List Source.ImportForm) : Decidable (AreWellPlaced fs) := inferInstanceAs (Decidable (_ ∧ _))

namespace Processor

/-- The types that the container of a processor refers to. -/
def types (q : Processor) (declarations : List Declaration) : List TypeRef :=
  match q with
  | targets t => t.types declarations
  | bundles => bundleTypes declarations
  | plugin _ => []

/-- Whether a state stands for the text of an attribute of an accepted class. -/
def quotesState (q : Processor) (declarations : List Declaration) : Bool :=
  match q with
  | targets t => (t.accepted declarations).any fun s => t.attributes.any fun a => a.quotesState s.usage
  | _ => false

/-- Whether a container of a processor can be written: the types that it refers to can be imported, its imports stand where
they may, the class and the arguments have names that may be bound, the arguments of a method are different identifiers, and
no state stands for a text. -/
@[mk_iff]
structure IsWritable (q : Processor) (declarations : List Declaration) (c : Container) : Prop where
  types : ∀ u ∈ q.types declarations, u.isUsable
  imports : AreWellPlaced c.imports.forms
  container : isBindable c.name
  arguments : ∀ m ∈ c.methods, ∀ a ∈ m.parameters, isBindable a.name
  distinct : ∀ m ∈ c.methods, (m.parameters.map fun a => c.identifier a.name).Nodup
  states : q.quotesState declarations = false

instance (q : Processor) (declarations : List Declaration) (c : Container) : Decidable (q.IsWritable declarations c) :=
  decidable_of_iff _ (isWritable_iff q declarations c).symm

end Processor

/-! ### Modules of containers -/

/-- Methods that are each written as a definition are written as a list of definitions. -/
private theorem exists_definitions {α : Type} {R : α → Prop} {plans : List α} {methods : List Method}
    (h : List.Forall₂ (fun p m => ∃ d, m.IsWrittenAs d ∧ (d.isReadable ↔ R p ∧ ∀ a ∈ m.parameters, isName a.name))
      plans methods) :
    ∃ defs, List.Forall₂ Method.IsWrittenAs methods defs ∧
      ((∀ d ∈ defs, d.isReadable) ↔ (∀ p ∈ plans, R p) ∧ ∀ m ∈ methods, ∀ a ∈ m.parameters, isName a.name) := by
  induction h with
  | nil => exact ⟨[], .nil, by simp⟩
  | cons hm _ ih =>
    obtain ⟨d, hd, hread⟩ := hm
    obtain ⟨defs, hdefs, hreads⟩ := ih
    refine ⟨d :: defs, .cons hd hdefs, ?_⟩
    rw [List.forall_mem_cons, List.forall_mem_cons, List.forall_mem_cons, hread, hreads]
    tauto

section Targets

variable {t : TargetKind} {ds : List Declaration} {p : PlannedMethod} {c : Container} {containerName : String}

private theorem accepts_of_mem_planned (hp : p ∈ t.planned ds) : t.accepts p.target :=
  (List.mem_filter.1 (mem_planned.1 hp).1).2

/-- A method that is planned has no parameters, or those of a group that has a place in its name. -/
private theorem planned_cases (hp : p ∈ t.planned ds) : (p.group = none ∧ p.entries = []) ∨
    ∃ group, p.group = some group ∧ (group = defaultGroup ∨ IsGroupName group) ∧
      p.entries = p.target.declaration.entriesIn group := by
  obtain ⟨model, hmodel⟩ := accepts_iff.1 (accepts_of_mem_planned hp)
  have hproblems := parameterErrors_eq_nil_iff.1 (accepted_of_verdict hmodel).parameterErrors_eq
  have hnamed : ∀ group ∈ p.target.declaration.namedGroups, group = defaultGroup ∨ IsGroupName group := fun group =>
    isGroupName_of_mem_namedGroups fun usage hu => parameterProblems_eq_nil_iff.1 (hproblems usage hu)
  obtain ⟨⟨group, entries⟩, hstep, heq⟩ := List.mem_map.1 (mem_planned.1 hp).2
  have hgroup : p.group = group := (congrArg PlannedMethod.group heq).symm
  have hentries : p.entries = entries := (congrArg PlannedMethod.entries heq).symm
  rw [hgroup, hentries]
  simp only [Selected.plan, List.mem_append, List.mem_map] at hstep
  rcases hstep with (hstep | hstep) | ⟨other, hmem, hstep⟩
  · split_ifs at hstep
    · cases List.mem_singleton.1 hstep
      exact .inl ⟨rfl, rfl⟩
    · cases hstep
  · split_ifs at hstep
    · cases hstep
    · cases List.mem_singleton.1 hstep
      exact .inr ⟨_, rfl, .inl rfl, rfl⟩
  · cases hstep
    exact .inr ⟨other, rfl, hnamed other (mem_otherGroups.1 hmem).2, rfl⟩

/-- The groups of planned methods have places in names of methods. -/
private theorem isNamedGroup_of_mem_planned (hp : p ∈ t.planned ds) : IsNamedGroup p.group := by
  obtain ⟨hgroup, -⟩ | ⟨group, hgroup, hnamed, -⟩ := planned_cases hp
  · rw [hgroup]
    exact fun g hg => by cases hg
  · rw [hgroup]
    rintro g ⟨⟩
    exact hnamed

/-- The parameters of planned methods have the types that markers give. -/
private theorem exists_usage_of_mem_entries (hp : p ∈ t.planned ds) {e : ParameterEntry} (he : e ∈ p.entries) :
    ∃ usage ∈ p.target.declaration.markers, usage.type? = some e.type := by
  obtain ⟨-, hentries⟩ | ⟨group, -, -, hentries⟩ := planned_cases hp
  · rw [hentries] at he
    cases he
  · rw [hentries, Declaration.entriesIn, List.mem_filterMap] at he
    obtain ⟨usage, husage, hentry⟩ := he
    refine ⟨usage, (List.mem_filter.1 husage).1, ?_⟩
    simp only [Usage.entryFor?, Option.bind_eq_bind, Option.bind_eq_some_iff] at hentry
    obtain ⟨_, -, type, htype, _, -, _, -, _, -, hentry⟩ := hentry
    split_ifs at hentry
    cases hentry
    exact htype

/-- What the methods for a group of parameters need of the types that they refer to. -/
private def NeedsTypes (table : ImportTable) (t : TargetKind) (p : PlannedMethod) : Prop :=
  isName p.name ∧ (Source.isReadable (table.nameOf p.target.typeRef) ∧
    ∀ e ∈ p.entries, Source.isReadable (table.nameOf e.type)) ∧ ∀ a ∈ t.attributes, a.quotesState p.target.usage = false

/-- The methods of a container are written as definitions. -/
private theorem exists_targetDefinitions (ht : t ∈ [activityTargets, fragmentTargets])
    (h : (targetContainer t ds containerName).result = .ok c) (hspelled : ∀ u ∈ t.types ds, u.IsSpelled) :
    ∃ defs, List.Forall₂ Method.IsWrittenAs c.methods defs ∧ ((∀ d ∈ defs, d.isReadable) ↔
      (∀ p ∈ t.planned ds, NeedsTypes c.imports t p) ∧ ∀ m ∈ c.methods, ∀ a ∈ m.parameters, isName a.name) := by
  obtain ⟨-, himports, hmethods⟩ := methods_under_imports h
  have htried : c.imports.Tried := himports ▸ tried_imports t ds containerName
  refine exists_definitions ?_
  obtain ⟨hlength, hmethods⟩ := List.forall₂_iff_zip.1 hmethods
  refine List.forall₂_iff_zip.2 ⟨hlength, fun {p m} hpm => ?_⟩
  have hp := (List.of_mem_zip hpm).1
  have haccepts := accepts_of_mem_planned hp
  have htypes : ∀ u ∈ t.typesOf p, u.IsSpelled := fun u hu =>
    hspelled u (List.mem_append_right _ (List.mem_flatMap.2 ⟨p, hp, hu⟩))
  obtain ⟨arguments, hlength, hwritten⟩ := PlannedMethod.exists_isWrittenAs ht htried haccepts
    (isNamedGroup_of_mem_planned hp) htypes (hmethods hpm)
  refine ⟨_, hwritten, ?_⟩
  have hnames : (∀ f ∈ (p.definition t c.imports.nameOf arguments).formals.all, isName f.name) ↔
      ∀ a ∈ m.parameters, isName a.name := by
    rw [← List.forall_mem_map (f := fun f : Source.Formal => f.name) (P := fun x => isName x = true),
      hwritten.parameters, List.forall_mem_map]
  rw [PlannedMethod.isReadable_definition_iff ht htried haccepts hlength, hnames, NeedsTypes]
  tauto

/-- The types of which all methods of a kind may make use. -/
private def sharedTypes (t : TargetKind) : List TypeRef :=
  [providerType, listType, t.descriptor, optionalType, stateType]

/-- The types that a method refers to are its class, those of its parameters and some that all methods of a kind share. -/
private theorem typesOf_cases {u : TypeRef} (hu : u ∈ t.typesOf p) :
    u = p.target.typeRef ∨ (∃ e ∈ p.entries, e.type = u) ∨ u ∈ sharedTypes t := by
  simp only [TargetKind.typesOf, List.mem_append, List.mem_cons, List.not_mem_nil, or_false, List.mem_map,
    List.mem_flatMap] at hu
  rcases hu with (((rfl | rfl | rfl | rfl) | hentry) | ⟨a, -, ha⟩) | hoptional
  · exact .inl rfl
  · simp [sharedTypes]
  · simp [sharedTypes]
  · simp [sharedTypes]
  · exact .inr (.inl hentry)
  · rw [Attribute.types] at ha
    split at ha
    · simp [List.mem_singleton.1 ha, sharedTypes]
    · cases ha
  · split_ifs at hoptional
    · simp [List.mem_singleton.1 hoptional, sharedTypes]
    · cases hoptional

/-- The types that all methods of a kind share can be imported. -/
private theorem isUsable_sharedTypes : ∀ t ∈ [activityTargets, fragmentTargets],
    ∀ u ∈ sharedTypes t, ¬u.isBuiltin ∧ u.isUsable := by
  decide

/-- The types that a container refers to are shared, or some method refers to them. -/
private theorem types_cases {u : TypeRef} (hu : u ∈ t.types ds) :
    u ∈ sharedTypes t ∨ ∃ p ∈ t.planned ds, u ∈ t.typesOf p := by
  rw [TargetKind.types, List.mem_append, List.mem_flatMap] at hu
  refine hu.imp_left fun hu => ?_
  have hsubset : [listType, providerType, t.descriptor] ⊆ sharedTypes t := by simp [sharedTypes]
  exact hsubset hu

private theorem quotesState_eq_false_iff : (Processor.targets t).quotesState ds = false ↔
    ∀ p ∈ t.planned ds, ∀ a ∈ t.attributes, a.quotesState p.target.usage = false := by
  have hplanned : (∃ p ∈ t.planned ds, ∃ a ∈ t.attributes, a.quotesState p.target.usage) ↔
      ∃ s ∈ t.accepted ds, ∃ a ∈ t.attributes, a.quotesState s.usage :=
    exists_planned_iff (Q := fun s => ∃ a ∈ t.attributes, a.quotesState s.usage)
  rw [← not_iff_not, Bool.not_eq_false, Processor.quotesState, List.any_eq_true]
  simp only [List.any_eq_true, not_forall, Bool.not_eq_false, exists_prop]
  exact hplanned.symm

/-- The types that a container refers to can all be referred to exactly if those that it imports can be imported and the
methods are given what they need. -/
private theorem forall_isUsable_iff (ht : t ∈ [activityTargets, fragmentTargets])
    (himports : c.imports = t.imports ds containerName) :
    (∀ a ∈ c.imports.aliases, a.1.isImportable) ∧ (∀ p ∈ t.planned ds, NeedsTypes c.imports t p) ↔
      (∀ u ∈ t.types ds, u.isUsable) ∧ (Processor.targets t).quotesState ds = false := by
  have htried : c.imports.Tried := himports ▸ tried_imports t ds containerName
  have hkeys : ∀ u, u ∈ c.imports.aliases.map (·.1) ↔ u ∈ t.types ds ∧ ¬u.isBuiltin := fun u =>
    himports ▸ mem_keys_imports t ds containerName u
  have hplanned : ∀ p ∈ t.planned ds, t.typesOf p ⊆ t.types ds := fun p hp u hu =>
    List.mem_append_right _ (List.mem_flatMap.2 ⟨p, hp, hu⟩)
  rw [quotesState_eq_false_iff]
  constructor
  · rintro ⟨himportable, hneeds⟩
    refine ⟨fun u hu => ?_, fun p hp => (hneeds p hp).2.2⟩
    by_cases hb : u.isBuiltin
    · have hread : Source.isReadable (c.imports.nameOf u) := by
        obtain hshared | ⟨p, hp, hu⟩ := types_cases hu
        · exact absurd hb (isUsable_sharedTypes t ht u hshared).1
        · obtain rfl | ⟨e, he, rfl⟩ | hshared := typesOf_cases hu
          · exact (hneeds p hp).2.1.1
          · exact (hneeds p hp).2.1.2 e he
          · exact absurd hb (isUsable_sharedTypes t ht u hshared).1
      rwa [TypeRef.isUsable_of_isBuiltin hb, ← nameOf_builtin c.imports hb]
    · obtain ⟨a, ha, rfl⟩ := List.mem_map.1 ((hkeys u).2 ⟨hu, hb⟩)
      rw [TypeRef.isUsable_of_not_isBuiltin hb]
      exact himportable a ha
  · rintro ⟨husable, hstates⟩
    refine ⟨fun a ha => ?_, fun p hp => ?_⟩
    · obtain ⟨hu, hb⟩ := (hkeys a.1).1 (List.mem_map_of_mem ha)
      rw [← TypeRef.isUsable_of_not_isBuiltin hb]
      exact husable _ hu
    · have htypes : ∀ u ∈ t.typesOf p, u.isUsable := fun u hu => husable u (hplanned p hp hu)
      have htarget : p.target.typeRef.isUsable := htypes _ (by simp [TargetKind.typesOf])
      refine ⟨isName_targetMethodName (TypeRef.isIdentifier_of_isUsable htarget) (isNamedGroup_of_mem_planned hp),
        ⟨TypeRef.isReadable_nameOf htried htarget, fun e he => ?_⟩, hstates p hp⟩
      refine TypeRef.isReadable_nameOf htried (htypes _ ?_)
      simp only [TargetKind.typesOf, List.mem_append, List.mem_map]
      exact .inl (.inl (.inr ⟨e, he, rfl⟩))

/-- The module of a container of targets is accepted exactly if the container can be written. -/
private theorem checkModule_targets_iff (ht : t ∈ [activityTargets, fragmentTargets])
    (h : (targetContainer t ds containerName).result = .ok c) (hname : IsWord containerName.toList)
    (hspelled : ∀ u ∈ t.types ds, u.IsSpelled) :
    Source.checkModule c.moduleText = .ok () ↔ (Processor.targets t).IsWritable ds c := by
  obtain ⟨rfl, himports, hmethods⟩ := methods_under_imports h
  obtain ⟨defs, hdefs, hread⟩ := exists_targetDefinitions ht h hspelled
  have hdocumentation : ∀ t ∈ [activityTargets, fragmentTargets],
      t.docstring.toList.all fun c => c ≠ '"' ∧ c ≠ '\\' ∧ c ≠ '\r' ∧ c ≠ '\x00' := by
    decide
  have hdocstring : c.docstring = t.docstring := by
    obtain ⟨-, methods, table, -, hc⟩ := targetContainer_ok_iff.1 h
    rw [hc]
  have hc : c.IsSpelled := by
    refine ⟨hname, ?_, himports ▸ tried_imports t ds c.name, fun a ha => hspelled _ ?_⟩
    · rw [hdocstring]
      exact List.all_iff_forall_prop.1 (hdocumentation t ht)
    · exact ((mem_keys_imports t ds c.name a.1).1 (himports ▸ List.mem_map_of_mem ha)).1
  have hallowed : ∀ m ∈ c.methods, isForbidden (Text.composed m.name) = false := by
    intro m hm
    have hemits := forall₂_methods h
    obtain ⟨p, -, hp⟩ := Source.Parser.exists_of_forall₂ hemits m hm
    rw [hp.name_eq]
    exact isForbidden_targetMethodName _ _
  rw [Container.checkModule_iff hc hdefs, hread]
  have husable := forall_isUsable_iff ht himports
  constructor
  · rintro ⟨⟨himportable, hplaced⟩, ⟨hname, hforbidden⟩, ⟨hneeds, harguments⟩, hbound⟩
    obtain ⟨htypes, hstates⟩ := husable.1 ⟨himportable, hneeds⟩
    exact ⟨htypes, hplaced, isBindable_iff.2 ⟨hname, hforbidden⟩,
      fun m hm a ha => isBindable_iff.2 ⟨harguments m hm a ha, (hbound m hm).2.1 a ha⟩,
      fun m hm => (hbound m hm).2.2, hstates⟩
  · intro hw
    obtain ⟨himportable, hneeds⟩ := husable.2 ⟨hw.types, hw.states⟩
    refine ⟨⟨himportable, hw.imports⟩, isBindable_iff.1 hw.container,
      ⟨hneeds, fun m hm a ha => (isBindable_iff.1 (hw.arguments m hm a ha)).1⟩,
      fun m hm => ⟨hallowed m hm, ?_, hw.distinct m hm⟩⟩
    exact fun a ha => (isBindable_iff.1 (hw.arguments m hm a ha)).2

end Targets

section Bundles

variable {ds : List Declaration} {c : Container} {containerName : String}

/-- What the accessor of a model needs of the model. -/
private def NeedsModel (table : ImportTable) (s : Selected) : Prop :=
  isName (accessorName s.name) ∧ Source.isReadable (table.nameOf s.typeRef)

/-- Accessors are written as definitions. -/
private theorem exists_accessorDefinitions {table : ImportTable} (htried : table.Tried) {models : List Selected}
    (hspelled : ∀ s ∈ models, s.typeRef.IsSpelled) :
    ∃ defs, List.Forall₂ Method.IsWrittenAs (accessorsUnder table.nameOf models) defs ∧
      ((∀ d ∈ defs, d.isReadable) ↔ (∀ s ∈ models, NeedsModel table s) ∧
        ∀ m ∈ accessorsUnder table.nameOf models, ∀ a ∈ m.parameters, isName a.name) := by
  refine exists_definitions ?_
  rw [accessorsUnder, List.forall₂_map_right_iff, List.forall₂_same]
  refine fun s hs => ⟨_, Selected.isWrittenAs_definition htried (hspelled s hs), ?_⟩
  have hbundle : isName bundleArgument := by decide
  have hargument : ∀ a ∈ (accessor (table.nameOf mappingType) (table.nameOf anyType) (table.nameOf s.typeRef) s).parameters,
      isName a.name := List.forall_mem_singleton.2 hbundle
  rw [Selected.isReadable_definition_iff htried, NeedsModel, and_iff_left hargument]

/-- The types that accessors refer to can all be referred to exactly if those that are imported can be imported and the
accessors are given what they need. -/
private theorem forall_isUsable_bundles_iff :
    (∀ a ∈ (bundleImports ds containerName).aliases, a.1.isImportable) ∧
        (∀ s ∈ (bundleModels ds).1, NeedsModel (bundleImports ds containerName) s) ↔
      ∀ u ∈ bundleTypes ds, u.isUsable := by
  have htried := tried_bundleImports ds containerName
  constructor
  · rintro ⟨himportable, hneeds⟩ u hu
    by_cases hb : u.isBuiltin
    · rw [bundleTypes, List.mem_append] at hu
      rcases hu with hu | hu
      · have hruntime : ∀ u ∈ [mappingType, anyType], ¬u.isBuiltin := by decide
        exact absurd hb (hruntime u hu)
      · obtain ⟨s, hs, rfl⟩ := List.mem_map.1 hu
        rw [TypeRef.isUsable_of_isBuiltin hb, ← nameOf_builtin (bundleImports ds containerName) hb]
        exact (hneeds s hs).2
    · obtain ⟨a, ha, rfl⟩ := List.mem_map.1 ((mem_keys_bundleImports ds containerName u).2 ⟨hu, hb⟩)
      rw [TypeRef.isUsable_of_not_isBuiltin hb]
      exact himportable a ha
  · intro husable
    refine ⟨fun a ha => ?_, fun s hs => ?_⟩
    · obtain ⟨hu, hb⟩ := (mem_keys_bundleImports ds containerName a.1).1 (List.mem_map_of_mem ha)
      rw [← TypeRef.isUsable_of_not_isBuiltin hb]
      exact husable _ hu
    · have hmodel : s.typeRef.isUsable := husable _ (List.mem_append_right _ (List.mem_map_of_mem hs))
      exact ⟨isName_accessorName (TypeRef.isIdentifier_of_isUsable hmodel), TypeRef.isReadable_nameOf htried hmodel⟩

/-- The module of a container of accessors is accepted exactly if the container can be written. -/
private theorem checkModule_bundles_iff (h : (bundleContainer ds containerName).result = .ok c)
    (hname : IsWord containerName.toList) (hspelled : ∀ u ∈ bundleTypes ds, u.IsSpelled) :
    Source.checkModule c.moduleText = .ok () ↔ Processor.bundles.IsWritable ds c := by
  rw [bundleContainer_eq] at h
  obtain rfl := Except.ok.inj h
  have htried := tried_bundleImports ds containerName
  have hmodels : ∀ s ∈ (bundleModels ds).1, s.typeRef.IsSpelled := fun s hs =>
    hspelled _ (List.mem_append_right _ (List.mem_map_of_mem hs))
  obtain ⟨defs, hdefs, hread⟩ := exists_accessorDefinitions htried hmodels
  have hbindable : isBindable bundleArgument := by decide
  have haccessor : ∀ m ∈ accessorsUnder (bundleImports ds containerName).nameOf (bundleModels ds).1,
      isForbidden (Text.composed m.name) = false ∧ m.parameters.map (·.name) = [bundleArgument] := by
    intro m hm
    obtain ⟨s, -, rfl⟩ := List.mem_map.1 hm
    exact ⟨isForbidden_accessorName s.name, rfl⟩
  have harguments : ∀ m ∈ accessorsUnder (bundleImports ds containerName).nameOf (bundleModels ds).1,
      ∀ a ∈ m.parameters, isBindable a.name := by
    intro m hm a ha
    have hmem := List.mem_map_of_mem (f := fun a : Parameter => a.name) ha
    rw [(haccessor m hm).2] at hmem
    rw [List.mem_singleton.1 hmem]
    exact hbindable
  have hdistinct : ∀ m ∈ accessorsUnder (bundleImports ds containerName).nameOf (bundleModels ds).1,
      ∀ f : String → String, (m.parameters.map fun a => f a.name).Nodup := by
    intro m hm f
    have hnames := congrArg (List.map f) (haccessor m hm).2
    rw [List.map_map] at hnames
    exact hnames ▸ List.nodup_singleton _
  have hc : (⟨"bundle", containerName, "bundles", "Accessors rebuilding bundle-backed models.",
      bundleImports ds containerName, accessorsUnder (bundleImports ds containerName).nameOf (bundleModels ds).1⟩ :
        Container).IsSpelled := by
    refine ⟨hname, ?_, htried, fun a ha => hspelled _ ?_⟩
    · have hdocumentation : "Accessors rebuilding bundle-backed models.".toList.all fun c =>
          c ≠ '"' ∧ c ≠ '\\' ∧ c ≠ '\r' ∧ c ≠ '\x00' := by
        decide
      exact List.all_iff_forall_prop.1 hdocumentation
    · exact ((mem_keys_bundleImports ds containerName a.1).1 (List.mem_map_of_mem ha)).1
  rw [Container.checkModule_iff hc hdefs, hread]
  constructor
  · rintro ⟨⟨himportable, hplaced⟩, ⟨hname, hforbidden⟩, ⟨hneeds, -⟩, -⟩
    exact ⟨forall_isUsable_bundles_iff.1 ⟨himportable, hneeds⟩, hplaced, isBindable_iff.2 ⟨hname, hforbidden⟩, harguments,
      fun m hm => hdistinct m hm _, rfl⟩
  · intro hw
    obtain ⟨himportable, hneeds⟩ := forall_isUsable_bundles_iff.2 hw.types
    refine ⟨⟨himportable, hw.imports⟩, isBindable_iff.1 hw.container,
      ⟨hneeds, fun m hm a ha => (isBindable_iff.1 (harguments m hm a ha)).1⟩, fun m hm => ⟨(haccessor m hm).1, ?_, ?_⟩⟩
    · exact fun a ha => (isBindable_iff.1 (harguments m hm a ha)).2
    · exact hdistinct m hm _

end Bundles

/-! ### Rounds -/

/-- Whether the class and the types of its parameters have names whose parts are words. -/
structure Declaration.IsSpelled (d : Declaration) : Prop where
  self : (⟨d.namespaceName, d.name⟩ : TypeRef).IsSpelled
  parameters : ∀ usage ∈ d.markers, ∀ u, usage.type? = some u → u.IsSpelled

/-- Whether a processor makes a container of declarations that can be written. -/
def Processor.CanWrite (q : Processor) (settings : Settings) (declarations : List Declaration) : Prop :=
  ∃ c, (q.container declarations (containerNameFor settings q)).result = .ok c ∧ q.IsWritable declarations c

/-- Whether the processors of a request are different and each of them makes a container that can be written. -/
def Request.CanWrite (request : Request) (settings : Settings) (declarations : List Declaration) : Prop :=
  ∃ processors, chosenProcessors request settings = .ok processors ∧ processors.Nodup ∧
    ∀ q ∈ processors, q.CanWrite settings declarations

section Rounds

variable {tree : Entry} {current : List String} {request : Request} {root : Path} {settings : Settings}
  {declarations : List Declaration} {containers : List Container} {q : Processor} {c : Container} {containerName : String}

private theorem builtin_cases (hq : q ∈ builtinProcessors.map (·.2)) :
    q = .targets activityTargets ∨ q = .targets fragmentTargets ∨ q = .bundles := by
  simpa [builtinProcessors] using hq

/-- The module of a container is accepted exactly if the container can be written. -/
theorem Processor.checkModule_iff (hq : q ∈ builtinProcessors.map (·.2))
    (h : (q.container declarations containerName).result = .ok c) (hname : IsWord containerName.toList)
    (hspelled : ∀ u ∈ q.types declarations, u.IsSpelled) :
    Source.checkModule c.moduleText = .ok () ↔ q.IsWritable declarations c := by
  rcases builtin_cases hq with rfl | rfl | rfl
  · exact checkModule_targets_iff (by simp) h hname hspelled
  · exact checkModule_targets_iff (by simp) h hname hspelled
  · exact checkModule_bundles_iff h hname hspelled

/-- The settings give containers names that are identifiers. -/
theorem isIdentifier_containerNameFor (hq : q ∈ builtinProcessors.map (·.2))
    (hsettings : requestedSettings tree current root request.output = .ok settings) :
    Text.isIdentifier (containerNameFor settings q) := by
  obtain ⟨loaded, hloaded, -, -, hcontainers, -⟩ := Settings.exists_loaded hsettings
  obtain ⟨file, -, hlocated⟩ := Settings.exists_located_load hloaded
  rw [containerNameFor, hcontainers]
  rcases builtin_cases hq with rfl | rfl | rfl
  · exact hlocated.containers "activity" _ rfl
  · exact hlocated.containers "fragment" _ rfl
  · exact hlocated.containers "bundle" _ rfl

/-- Declarations whose names are words are referred to as types whose names are words. -/
private theorem isSpelled_of_mem_types (hq : q ∈ builtinProcessors.map (·.2)) (hspelled : ∀ d ∈ declarations, d.IsSpelled) :
    ∀ u ∈ q.types declarations, u.IsSpelled := by
  have hselected : ∀ marker, ∀ s ∈ (select declarations marker).1, s.declaration.IsSpelled := fun marker s hs =>
    hspelled _ (mem_candidates.1 (mem_candidates_of_select hs)).1
  have htargets : ∀ t ∈ [activityTargets, fragmentTargets], ∀ u ∈ t.types declarations, u.IsSpelled := by
    intro t ht u hu
    obtain hshared | ⟨p, hp, hu⟩ := types_cases hu
    · exact TypeRef.isSpelled_of_isUsable (isUsable_sharedTypes t ht u hshared).2
    · have htarget : p.target.declaration.IsSpelled :=
        hselected t.marker _ (List.mem_filter.1 (mem_planned.1 hp).1).1
      obtain rfl | ⟨e, he, rfl⟩ | hshared := typesOf_cases hu
      · exact htarget.self
      · obtain ⟨usage, husage, htype⟩ := exists_usage_of_mem_entries hp he
        exact htarget.parameters usage husage _ htype
      · exact TypeRef.isSpelled_of_isUsable (isUsable_sharedTypes t ht u hshared).2
  rcases builtin_cases hq with rfl | rfl | rfl
  · exact htargets _ (by simp)
  · exact htargets _ (by simp)
  · intro u hu
    rw [Processor.types, bundleTypes, List.mem_append] at hu
    rcases hu with hu | hu
    · have hshared : ∀ u ∈ [mappingType, anyType], u.isUsable := by decide
      exact TypeRef.isSpelled_of_isUsable (hshared u hu)
    · obtain ⟨s, hs, rfl⟩ := List.mem_map.1 hu
      exact (hselected bundleMarker s (List.mem_filter.1 hs).1).self

/-- Whether containers are those that processors make. -/
private def AreMade (settings : Settings) (declarations : List Declaration) : List Processor → List Container → Prop :=
  List.Forall₂ fun q c => (q.container declarations (containerNameFor settings q)).result = .ok c

/-- The files of containers have names of their own exactly if their processors are different. -/
private theorem nodup_fileNames_iff {processors : List Processor} (hbuiltIn : processors ⊆ builtinProcessors.map (·.2))
    (hmade : AreMade settings declarations processors containers) :
    ((moduleSources containers ++ [(packageFileName, exportText containers)]).map (·.1)).Nodup ↔ processors.Nodup := by
  have hfiles : containers.map (·.fileName) = processors.map fun q => q.module ++ ".py" := by
    rw [← List.forall₂_eq_eq_eq, List.forall₂_map_left_iff, List.forall₂_map_right_iff]
    refine hmade.flip.imp fun c q h => ?_
    rw [Container.fileName, module_of_container h]
  have hnames : (moduleSources containers ++ [(packageFileName, exportText containers)]).map (·.1) =
      (processors.map fun q => q.module ++ ".py") ++ [packageFileName] := by
    rw [← hfiles, List.map_append, moduleSources, List.map_map]
    rfl
  have hdistinct : ∀ q ∈ builtinProcessors.map (·.2), q.module ++ ".py" ≠ packageFileName ∧
      ∀ q' ∈ builtinProcessors.map (·.2), q.module ++ ".py" = q'.module ++ ".py" → q = q' := by
    decide
  rw [hnames, ← List.concat_eq_append, List.nodup_concat]
  constructor
  · exact fun h => h.2.of_map _
  · refine fun h => ⟨fun hmem => ?_, h.map_on fun q hq q' hq' => (hdistinct q (hbuiltIn hq)).2 q' (hbuiltIn hq')⟩
    obtain ⟨q, hq, hname⟩ := List.mem_map.1 hmem
    exact (hdistinct q (hbuiltIn hq)).1 hname

/-- The text of a package is accepted if its classes have names that may be bound. -/
private theorem checkModule_exportText {processors : List Processor} (hbuiltIn : processors ⊆ builtinProcessors.map (·.2))
    (hmade : AreMade settings declarations processors containers) (hnames : ∀ c ∈ containers, isBindable c.name) :
    Source.checkModule (exportText containers) = .ok () := by
  have hmodule : ∀ q ∈ builtinProcessors.map (·.2), isName q.module := by decide
  have hcontainer := Source.Parser.exists_of_forall₂ hmade
  rw [exportText, packageLines_eq, checkModule_exports_iff]
  · rw [List.forall_mem_map]
    exact fun c hc => isBindable_iff.1 (hnames c hc)
  · rw [List.forall_mem_map]
    intro c hc
    obtain ⟨q, hq, h⟩ := hcontainer c hc
    rw [Container.exportLine, module_of_container h]
    exact hmodule q (hbuiltIn hq)
  · rw [List.forall_mem_map]
    exact fun c hc => isWord_of_isIdentifier (isIdentifier_of_isName (isBindable_iff.1 (hnames c hc)).1)

/-- Without templates the processors that are built in write the modules of all declarations if each container can be
written, and, when names of declarations are words, in no other case. -/
theorem exists_plan_iff (hbuiltIn : request.IsBuiltIn) (hroot : projectRoot tree current request.path = .ok root)
    (hsettings : requestedSettings tree current root request.output = .ok settings)
    (hdeclarations : (readDeclarations tree current settings).result = .ok declarations)
    (htemplates : request.templates.or settings.templates = none) :
    (request.CanWrite settings declarations → ∃ p, (plan tree current request).result = .ok p ∧
        ∀ file ∈ p.sources, Source.checkModule file.2 = .ok ()) ∧
      ((∀ d ∈ declarations, d.IsSpelled) → (∃ p, (plan tree current request).result = .ok p) →
        request.CanWrite settings declarations) := by
  constructor
  · rintro ⟨processors, hchosen, hnodup, hwrite⟩
    have hsubset := chosenProcessors_subset hbuiltIn hchosen
    have : Nonempty Container := ⟨⟨"", "", "", "", ⟨[], []⟩, []⟩⟩
    choose! made hmade hwritable using hwrite
    have hcontainers : AreMade settings declarations processors (processors.map made) :=
      List.forall₂_map_right_iff.2 (List.forall₂_same.2 hmade)
    have hmodules : ∀ c ∈ processors.map made, Source.checkModule c.moduleText = .ok () := by
      rw [List.forall_mem_map]
      intro q hq
      refine (Processor.checkModule_iff (hsubset hq) (hmade q hq) ?_ fun u hu => ?_).2 (hwritable q hq)
      · exact isWord_of_isIdentifier (isIdentifier_containerNameFor (hsubset hq) hsettings)
      · exact TypeRef.isSpelled_of_isUsable ((hwritable q hq).types u hu)
    have hexports : Source.checkModule (exportText (processors.map made)) = .ok () := by
      refine checkModule_exportText hsubset hcontainers ?_
      rw [List.forall_mem_map]
      exact fun q hq => (hwritable q hq).container
    refine ⟨⟨settings, processors.map made, moduleSources (processors.map made) ++
      [(packageFileName, exportText (processors.map made))]⟩, plan_ok_iff.2 ⟨root, declarations, hroot, hsettings,
      hdeclarations, buildContainers_ok_iff.2 ⟨processors, hchosen, hcontainers⟩, ?_⟩, ?_⟩
    · rw [htemplates]
      exact renderSources_builtin_iff.2 ⟨rfl, (nodup_fileNames_iff hsubset hcontainers).2 hnodup, hmodules, hexports⟩
    · intro file hfile
      rcases List.mem_append.1 hfile with hfile | hfile
      · obtain ⟨c, hc, rfl⟩ := List.mem_map.1 hfile
        exact hmodules c hc
      · rw [List.mem_singleton.1 hfile]
        exact hexports
  · rintro hspelled ⟨p, hplan⟩
    obtain ⟨root', declarations', hroot', hsettings', hdeclarations', hcontainers, hsources⟩ := plan_ok_iff.1 hplan
    obtain rfl := Except.ok.inj (hroot.symm.trans hroot')
    rw [← Except.ok.inj (hsettings.symm.trans hsettings')] at hdeclarations' hcontainers hsources
    obtain rfl := Except.ok.inj (hdeclarations.symm.trans hdeclarations')
    obtain ⟨processors, hchosen, hmade⟩ := buildContainers_ok_iff.1 hcontainers
    have hsubset := chosenProcessors_subset hbuiltIn hchosen
    rw [htemplates] at hsources
    obtain ⟨hfiles, hnodup, hmodules, -⟩ := renderSources_builtin_iff.1 hsources
    rw [hfiles] at hnodup
    refine ⟨processors, hchosen, (nodup_fileNames_iff hsubset hmade).1 hnodup, fun q hq => ?_⟩
    obtain ⟨c, hc, h⟩ := Source.Parser.exists_of_forall₂ hmade.flip q hq
    refine ⟨c, h, (Processor.checkModule_iff (hsubset hq) h ?_ ?_).1 (hmodules c hc)⟩
    · exact isWord_of_isIdentifier (isIdentifier_containerNameFor (hsubset hq) hsettings)
    · exact isSpelled_of_mem_types (hsubset hq) hspelled

end Rounds

/-! ### A project with a screen -/

instance (q : Processor) (settings : Settings) (declarations : List Declaration) :
    Decidable (q.CanWrite settings declarations) :=
  match h : (q.container declarations (containerNameFor settings q)).result with
  | .ok c => decidable_of_iff (q.IsWritable declarations c)
      ⟨fun hw => ⟨c, h, hw⟩, fun ⟨_, hc, hw⟩ => Except.ok.inj (h.symm.trans hc) ▸ hw⟩
  | .error _ => .isFalse fun ⟨_, hc, _⟩ => by cases h.symm.trans hc

/-- The text of a screen. -/
def screenText : String :=
  "from autotarget import activity_target\n\n\n@activity_target\nclass Pay:\n    pass\n"

/-- A project with a screen whose settings name the container of screens. -/
def screenProject (containerName : String) : Entry :=
  .directory [("p", .directory [
    (settingsFileName, .file (Text.encode ("containers:\n  activity: " ++ containerName ++ "\n"))),
    ("app", .directory [("screens.py", .file (Text.encode screenText))])])]

def screenRequest : Request where
  path := "/p"
  processors := some [.targets activityTargets]

/-- The settings of the project. -/
def screenSettings (containerName : String) : Settings where
  root := .absolute ["p"]
  sourceRoots := [.absolute ["p"]]
  directory := .absolute ["p", defaultDirectory]
  package := defaultPackage
  containers := { activity := containerName }

def screenDeclaration : Declaration where
  name := "Pay"
  namespaceName := "app.screens"
  markers := [{ marker := activityMarker, line := 4 }]
  path := some "app/screens.py"
  line := 5

private theorem read_screenProject : ∀ containerName ∈ ["Screens", "class"],
    projectRoot (screenProject containerName) [] screenRequest.path = .ok (.absolute ["p"]) ∧
      requestedSettings (screenProject containerName) [] (.absolute ["p"]) screenRequest.output =
        .ok (screenSettings containerName) ∧
      (readDeclarations (screenProject containerName) [] (screenSettings containerName)).result =
        .ok [screenDeclaration] := by
  decide +kernel

private theorem isSpelled_screenDeclaration : ∀ d ∈ [screenDeclaration], d.IsSpelled := by
  have hself : (⟨screenDeclaration.namespaceName, screenDeclaration.name⟩ : TypeRef).isUsable := by decide
  have htypes : ∀ usage ∈ screenDeclaration.markers, ∀ u ∈ usage.type?, u.isUsable := by decide
  refine List.forall_mem_singleton.2 ⟨TypeRef.isSpelled_of_isUsable hself, fun usage husage u hu => ?_⟩
  exact TypeRef.isSpelled_of_isUsable (htypes usage husage u hu)

/-- The name of a container decides whether a round is done: a reserved word is read, but no class goes by it. -/
theorem plan_screenProject :
    ((screenRequest.IsBuiltIn ∧ projectRoot (screenProject "Screens") [] screenRequest.path = .ok (.absolute ["p"]) ∧
      requestedSettings (screenProject "Screens") [] (.absolute ["p"]) screenRequest.output =
        .ok (screenSettings "Screens") ∧
      (readDeclarations (screenProject "Screens") [] (screenSettings "Screens")).result = .ok [screenDeclaration] ∧
      screenRequest.templates.or (screenSettings "Screens").templates = none) ∧
      ∃ p, (plan (screenProject "Screens") [] screenRequest).result = .ok p ∧
        ∀ file ∈ p.sources, Source.checkModule file.2 = .ok ()) ∧
    ¬∃ p, (plan (screenProject "class") [] screenRequest).result = .ok p := by
  have hbuiltIn : screenRequest.IsBuiltIn :=
    show [.targets activityTargets] ⊆ builtinProcessors.map (·.2) by decide
  have hprocessor : (Processor.targets activityTargets).CanWrite (screenSettings "Screens") [screenDeclaration] := by
    decide +kernel
  have hrefused : ¬(Processor.targets activityTargets).CanWrite (screenSettings "class") [screenDeclaration] := by
    decide +kernel
  obtain ⟨hroot, hsettings, hdeclarations⟩ := read_screenProject "Screens" (by simp)
  obtain ⟨hroot', hsettings', hdeclarations'⟩ := read_screenProject "class" (by simp)
  refine ⟨⟨⟨hbuiltIn, hroot, hsettings, hdeclarations, rfl⟩, ?_⟩, fun hplan => ?_⟩
  · refine (exists_plan_iff hbuiltIn hroot hsettings hdeclarations rfl).1 ⟨_, rfl, List.nodup_singleton _, ?_⟩
    exact List.forall_mem_singleton.2 hprocessor
  · obtain ⟨processors, hchosen, -, hwrite⟩ :=
      (exists_plan_iff hbuiltIn hroot' hsettings' hdeclarations' rfl).2 isSpelled_screenDeclaration hplan
    cases hchosen
    exact hrefused (hwrite _ List.mem_cons_self)

end NavFactory
