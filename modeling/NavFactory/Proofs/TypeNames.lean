import NavFactory.Proofs.Emission
import NavFactory.Proofs.ImportNames

/-!
# Names of types in generated modules

The imports of a container are those of the types that its methods refer to, in order, and each method refers to them by
the names that the finished table gives (`methods_under_imports`): it does not matter when a method was built.  A
builtin type goes by its own name, which the table does not know; so this name refers to the builtin type exactly if no
imported type and not the container itself has it (`denotesBuiltins_iff`).
-/

namespace NavFactory

/-! ### Methods under given names -/

/-- The types that the value of an attribute refers to. -/
def Attribute.types (a : Attribute) (usage : Usage) : List TypeRef :=
  match a.kind, a.valueIn usage with
  | .state, .state _ => [stateType]
  | _, _ => []

/-- An attribute as the descriptor gets it, with the name of the type of states. -/
def Attribute.textUnder (nameOf : TypeRef → String) (a : Attribute) (usage : Usage) : Except Value.DigitLimit String :=
  match a.kind, a.valueIn usage with
  | .state, .state m => .ok (nameOf stateType ++ "." ++ m.name)
  | _, value => value.shown

/-- The keyword arguments of the descriptor, with the name of the type of states. -/
def attributeTextsUnder (nameOf : TypeRef → String) (usage : Usage) :
    List Attribute → Except Value.DigitLimit (List (String × String))
  | [] => .ok []
  | a :: rest => do
    let text ← a.textUnder nameOf usage
    let texts ← attributeTextsUnder nameOf usage rest
    .ok ((a.keyword, text) :: texts)

/-- A planned method with given names for the types that it refers to and given arguments of its descriptor. -/
def PlannedMethod.assemble (p : PlannedMethod) (names : BodyNames) (typeNames : List String) (optionalName : String)
    (attributes : List (String × String)) : Method :=
  let taken := [names.target, names.provider, names.list, names.descriptor] ++ typeNames ++
    attributes.map fun a => headName a.2
  let assigned := assignArguments taken (p.entries.zip typeNames)
  let required := (assigned.filter (!·.1.optional)).map fun (_, typeName, argument) =>
    requiredParameter typeName argument
  let optional := (assigned.filter (·.1.optional)).map fun (_, typeName, argument) =>
    optionalParameter optionalName typeName argument
  { name := p.name
    returns := names.descriptor
    parameters := required ++ optional
    statements :=
      allocateStatement names ::
        (assigned.map fun (e, typeName, argument) => appendStatement names e typeName argument) ++
        [returnStatement names attributes]
    docstring := some (methodDocstring p.target.name p.group) }

namespace TargetKind

/-- The types that a planned method refers to, in the order of their first use. -/
def typesOf (t : TargetKind) (p : PlannedMethod) : List TypeRef :=
  [p.target.typeRef, providerType, listType, t.descriptor] ++ p.entries.map (·.type) ++
    t.attributes.flatMap (·.types p.target.usage) ++ if p.entries.any (·.optional) then [optionalType] else []

/-- A planned method in which each type goes by a given name. -/
def methodUnder (t : TargetKind) (nameOf : TypeRef → String) (p : PlannedMethod) : Except Value.DigitLimit Method :=
  (attributeTextsUnder nameOf p.target.usage t.attributes).map
    (p.assemble ⟨nameOf p.target.typeRef, nameOf providerType, nameOf listType, nameOf t.descriptor⟩
      (p.entries.map fun e => nameOf e.type) (nameOf optionalType))

end TargetKind

section Names

variable {t : TargetKind} {usage : Usage} {table table' : ImportTable}

/-- The value of an attribute is a state, or it refers to no type. -/
private theorem attribute_cases (a : Attribute) (usage : Usage) :
    (∃ m, a.kind = .state ∧ a.valueIn usage = .state m) ∨
      (a.types usage = [] ∧ (∀ nameOf, a.textUnder nameOf usage = (a.valueIn usage).shown) ∧
        ∀ table, attributeText a usage table = (a.valueIn usage).shown.map fun text => (text, table)) := by
  by_cases h : ∃ m, a.kind = .state ∧ a.valueIn usage = .state m
  · exact Or.inl h
  · refine Or.inr ⟨?_, fun nameOf => ?_, fun table => ?_⟩
    · unfold Attribute.types
      split
      · rename_i hk hv
        exact absurd ⟨_, hk, hv⟩ h
      · rfl
    · unfold Attribute.textUnder
      split
      · rename_i hk hv
        exact absurd ⟨_, hk, hv⟩ h
      · rfl
    · unfold attributeText
      split
      · rename_i hk hv
        exact absurd ⟨_, hk, hv⟩ h
      · rfl

private theorem attributeText_names {a : Attribute} {text : String}
    (h : attributeText a usage table = .ok (text, table')) :
    table' = (table.useAll (a.types usage)).2 ∧
      ∀ later : ImportTable, later.Extends table' → a.textUnder later.nameOf usage = .ok text := by
  rcases attribute_cases a usage with ⟨m, hk, hv⟩ | ⟨htypes, htext, hattribute⟩
  · simp only [attributeText, Attribute.types, Attribute.textUnder, hk, hv, Except.ok.injEq, Prod.mk.injEq] at h ⊢
    obtain ⟨rfl, rfl⟩ := h
    exact ⟨rfl, fun later hlater => by rw [ImportTable.nameOf_of_extends_use hlater]; rfl⟩
  · rw [hattribute, map_eq_ok_iff] at h
    obtain ⟨shown, hshown, h⟩ := h
    obtain ⟨rfl, rfl⟩ := Prod.mk.inj h
    rw [htypes]
    exact ⟨rfl, fun later _ => (htext later.nameOf).trans hshown⟩

private theorem attributeTexts_names {attributes : List Attribute} {texts : List (String × String)}
    (h : attributeTexts usage table attributes = .ok (texts, table')) :
    table' = (table.useAll (attributes.flatMap (·.types usage))).2 ∧
      ∀ later : ImportTable, later.Extends table' → attributeTextsUnder later.nameOf usage attributes = .ok texts := by
  induction attributes generalizing table texts with
  | nil =>
    cases h
    exact ⟨rfl, fun _ _ => rfl⟩
  | cons a rest ih =>
    rw [attributeTexts, bind_eq_ok_iff] at h
    obtain ⟨⟨text, table₁⟩, ha, h⟩ := h
    obtain ⟨⟨others, table₂⟩, hr, h⟩ := bind_eq_ok_iff.1 h
    simp only [Except.ok.injEq, Prod.mk.injEq] at h
    obtain ⟨rfl, rfl⟩ := h
    obtain ⟨htable, hothers⟩ := ih hr
    obtain ⟨htable₁, htext⟩ := attributeText_names ha
    rw [List.flatMap_cons, ImportTable.useAll_append, ← htable₁]
    refine ⟨htable, fun later hlater => ?_⟩
    have hbetween : table₂.Extends table₁ := htable ▸ ImportTable.extends_useAll _ _
    rw [attributeTextsUnder, htext later (hlater.trans hbetween), hothers later hlater]
    rfl

private theorem buildMethod_eq (t : TargetKind) (p : PlannedMethod) (table : ImportTable) :
    buildMethod t p.target p.group p.entries table =
      let heads := table.useAll [p.target.typeRef, providerType, listType, t.descriptor]
      let types := heads.2.useAll (p.entries.map (·.type))
      (attributeTexts p.target.usage types.2 t.attributes).bind fun (attributes, table) =>
        let optional := table.useAll (if p.entries.any (·.optional) then [optionalType] else [])
        .ok (p.assemble ⟨heads.1.getD 0 "", heads.1.getD 1 "", heads.1.getD 2 "", heads.1.getD 3 ""⟩ types.1
          (optional.1.getD 0 "") attributes, optional.2) := by
  unfold buildMethod
  cases p.entries.any (·.optional) <;> rfl

/-- If no entry is optional, the name for optional types does not matter. -/
private theorem assemble_optionalName {p : PlannedMethod} (h : p.entries.any (·.optional) = false) (names : BodyNames)
    (typeNames : List String) (optionalName optionalName' : String) (attributes : List (String × String)) :
    p.assemble names typeNames optionalName attributes = p.assemble names typeNames optionalName' attributes := by
  have hnone : ∀ taken, (assignArguments taken (p.entries.zip typeNames)).filter (·.1.optional) = [] := by
    intro taken
    rw [List.filter_eq_nil_iff]
    intro x hx
    have hfst : x.1 ∈ (assignArguments taken (p.entries.zip typeNames)).map (·.1) := List.mem_map_of_mem hx
    rw [map_fst_assignArguments] at hfst
    obtain ⟨⟨e, typeName⟩, hm, he⟩ := List.mem_map.1 hfst
    rw [← he]
    exact List.any_eq_false.1 h e (List.of_mem_zip hm).1
  simp only [PlannedMethod.assemble, hnone, List.map_nil]

/-- A method refers to types by the names that all later tables give, and uses the types of its plan. -/
theorem buildMethod_names {p : PlannedMethod} {m : Method}
    (h : buildMethod t p.target p.group p.entries table = .ok (m, table')) :
    table' = (table.useAll (t.typesOf p)).2 ∧
      ∀ later : ImportTable, later.Extends table' → t.methodUnder later.nameOf p = .ok m := by
  rw [buildMethod_eq] at h
  obtain ⟨⟨attributes, table₁⟩, ha, h⟩ := bind_eq_ok_iff.1 h
  obtain ⟨htable₁, hattributes⟩ := attributeTexts_names ha
  simp only [Except.ok.injEq, Prod.mk.injEq] at h
  obtain ⟨rfl, rfl⟩ := h
  refine ⟨?_, fun later hlater => ?_⟩
  · rw [TargetKind.typesOf, ImportTable.useAll_append, ImportTable.useAll_append, ImportTable.useAll_append, htable₁]
  · have h₁ : later.Extends table₁ := hlater.trans (ImportTable.extends_useAll _ _)
    have htypes := h₁.trans (htable₁ ▸ ImportTable.extends_useAll _ _)
    have hheads := htypes.trans (ImportTable.extends_useAll _ _)
    rw [TargetKind.methodUnder, hattributes later h₁, ImportTable.useAll_fst htypes, ImportTable.useAll_fst hheads,
      ImportTable.useAll_fst hlater, List.map_map]
    cases hany : p.entries.any (·.optional) with
    | true => rfl
    | false => exact congrArg Except.ok (assemble_optionalName hany _ _ _ _ _)

/-- Planned methods refer to types by the names that all later tables give; together they use the types of their
plans. -/
theorem build_names {plan : List PlannedMethod} {methods : List Method}
    (h : t.build table plan = .ok (methods, table')) :
    table' = (table.useAll (plan.flatMap t.typesOf)).2 ∧
      ∀ later : ImportTable, later.Extends table' →
        List.Forall₂ (fun p m => t.methodUnder later.nameOf p = .ok m) plan methods := by
  induction plan generalizing table methods with
  | nil =>
    cases h
    exact ⟨rfl, fun _ _ => List.Forall₂.nil⟩
  | cons p rest ih =>
    rw [TargetKind.build, bind_eq_ok_iff] at h
    obtain ⟨⟨m, table₁⟩, hp, h⟩ := h
    obtain ⟨⟨others, table₂⟩, hr, h⟩ := bind_eq_ok_iff.1 h
    simp only [Except.ok.injEq, Prod.mk.injEq] at h
    obtain ⟨rfl, rfl⟩ := h
    obtain ⟨htable, hothers⟩ := ih hr
    obtain ⟨htable₁, hm⟩ := buildMethod_names hp
    rw [List.flatMap_cons, ImportTable.useAll_append, ← htable₁]
    refine ⟨htable, fun later hlater => List.Forall₂.cons (hm later (hlater.trans ?_)) (hothers later hlater)⟩
    exact htable ▸ ImportTable.extends_useAll _ _

end Names

/-! ### Containers -/

namespace TargetKind

/-- The types that the methods of a container refer to, in the order of their first use. -/
def types (t : TargetKind) (declarations : List Declaration) : List TypeRef :=
  [listType, providerType, t.descriptor] ++ (t.planned declarations).flatMap t.typesOf

/-- The imports of the types that the methods of a container refer to. -/
def imports (t : TargetKind) (declarations : List Declaration) (containerName : String) : ImportTable :=
  ((ImportTable.reserving [containerName]).useAll (t.types declarations)).2

end TargetKind

section Containers

variable {t : TargetKind} {ds : List Declaration} {containerName : String} {c : Container}

/-- A container imports the types that its methods refer to, and they do so by the names of these imports. -/
theorem methods_under_imports (h : (targetContainer t ds containerName).result = .ok c) :
    c.name = containerName ∧ c.imports = t.imports ds containerName ∧
      List.Forall₂ (fun p m => t.methodUnder c.imports.nameOf p = .ok m) (t.planned ds) c.methods := by
  obtain ⟨-, methods, table, hb, rfl⟩ := targetContainer_ok_iff.1 h
  obtain ⟨htable, hmethods⟩ := build_names hb
  refine ⟨rfl, ?_, hmethods table (.refl table)⟩
  rw [TargetKind.imports, TargetKind.types, ImportTable.useAll_append]
  exact htable

theorem sound_imports (t : TargetKind) (ds : List Declaration) (containerName : String) :
    (t.imports ds containerName).Sound [containerName] := (ImportTable.sound_reserving _).useAll _

theorem mem_keys_imports (t : TargetKind) (ds : List Declaration) (containerName : String) (u : TypeRef) :
    u ∈ (t.imports ds containerName).aliases.map (·.1) ↔ u ∈ t.types ds ∧ ¬u.isBuiltin := by
  rw [TargetKind.imports, ImportTable.mem_keys_useAll]
  exact or_iff_right List.not_mem_nil

end Containers

/-! ### Builtin types -/

/-- What a name refers to in a generated module, outside of its methods. -/
inductive Referent
  | container
  | imported (t : TypeRef)
  | builtin
deriving DecidableEq

/-- What a name refers to in the module of a container: its class, which is defined last, what the import lines bind it
to, or else what is in scope everywhere. -/
def Container.referent (c : Container) (x : String) : Referent :=
  if x = c.name then .container
  else match ImportStatement.resolve c.imports.statements x with
    | some t => .imported t
    | none => .builtin

namespace TargetKind

/-- The builtin types of the parameters of a container. -/
def builtinTypes (t : TargetKind) (declarations : List Declaration) : List TypeRef :=
  ((t.planned declarations).flatMap fun p => p.entries.map (·.type)).filter (·.isBuiltin)

/-- Whether a name is that of the container or of an imported type, be it the own name of the type or an alias. -/
def occupies (t : TargetKind) (declarations : List Declaration) (containerName x : String) : Prop :=
  x = containerName ∨ ∃ u ∈ t.types declarations, ¬u.isBuiltin ∧
    (u.name = x ∨ (t.imports declarations containerName).nameOf u = x)

end TargetKind

theorem nameOf_builtin (table : ImportTable) {t : TypeRef} (h : t.isBuiltin) : table.nameOf t = t.name := by
  simp [ImportTable.nameOf, ImportTable.use, h]

section Builtin

variable {t : TargetKind} {ds : List Declaration} {containerName : String} {c : Container}

private theorem resolve_imports_eq_none_iff (t : TargetKind) (ds : List Declaration) (containerName x : String) :
    ImportStatement.resolve (t.imports ds containerName).statements x = none ↔
      ∀ u ∈ t.types ds, ¬u.isBuiltin → (t.imports ds containerName).nameOf u ≠ x := by
  have hsound := sound_imports t ds containerName
  rw [Option.eq_none_iff_forall_ne_some]
  refine forall_congr' fun u => ?_
  rw [ne_eq, ImportTable.resolve_statements hsound]
  constructor
  · intro hu hmem hb he
    exact hu ((hsound.mem_aliases_iff hb).2 ⟨(mem_keys_imports t ds containerName u).2 ⟨hmem, hb⟩, he⟩)
  · intro hu ha
    obtain ⟨hmem, hb⟩ := (mem_keys_imports t ds containerName u).1 (List.mem_map_of_mem ha)
    exact hu hmem hb ((hsound.mem_aliases_iff hb).1 ha).2

/-- The own name of an imported type is that of the container, or this type or another one is imported under it. -/
private theorem own_name_taken {u : TypeRef} (hu : u ∈ t.types ds) (hb : ¬u.isBuiltin) (containerName : String) :
    u.name = containerName ∨
      ∃ v ∈ t.types ds, ¬v.isBuiltin ∧ (t.imports ds containerName).nameOf v = u.name := by
  have hsound := sound_imports t ds containerName
  obtain ⟨⟨u, y⟩, ha, rfl⟩ := List.mem_map.1 ((mem_keys_imports t ds containerName u).2 ⟨hu, hb⟩)
  rcases (hsound.mem_taken _).1 (hsound.name_taken _ ha) with hreserved | himported
  · exact Or.inl (List.mem_singleton.1 hreserved)
  · obtain ⟨⟨v, z⟩, hv, hz⟩ := List.mem_map.1 himported
    obtain ⟨hmem, hvb⟩ := (mem_keys_imports t ds containerName v).1 (List.mem_map_of_mem hv)
    exact Or.inr ⟨v, hmem, hvb, ((hsound.mem_aliases_iff hvb).1 hv).2.trans hz⟩

/-- A name refers to what is in scope everywhere exactly if it is not occupied. -/
private theorem referent_eq_builtin_iff (h : (targetContainer t ds containerName).result = .ok c) (x : String) :
    c.referent x = .builtin ↔ ¬t.occupies ds containerName x := by
  obtain ⟨hname, himports, -⟩ := methods_under_imports h
  have hreferent : c.referent x = .builtin ↔
      x ≠ containerName ∧ ImportStatement.resolve c.imports.statements x = none := by
    unfold Container.referent
    rw [hname]
    split
    · rename_i hx
      simp [hx]
    · rename_i hx
      cases ImportStatement.resolve c.imports.statements x <;> simp [hx]
  rw [hreferent, himports, resolve_imports_eq_none_iff, TargetKind.occupies]
  push Not
  refine and_congr_right fun hx =>
    ⟨fun hnames u hu hb => ⟨fun he => ?_, hnames u hu hb⟩, fun hfree u hu hb => (hfree u hu hb).2⟩
  rcases own_name_taken hu hb containerName with hcontainer | ⟨v, hv, hvb, hvname⟩
  · exact hx (he ▸ hcontainer)
  · exact hnames v hv hvb (hvname.trans he)

/-- The builtin types of parameters go by their own names in the methods of a container.  Each of these names refers to
the builtin type exactly if none of them is occupied. -/
theorem denotesBuiltins_iff (h : (targetContainer t ds containerName).result = .ok c) :
    List.Forall₂ (fun p m => t.methodUnder c.imports.nameOf p = .ok m) (t.planned ds) c.methods ∧
      (∀ b ∈ t.builtinTypes ds, c.imports.nameOf b = b.name) ∧
      ((∀ b ∈ t.builtinTypes ds, c.referent (c.imports.nameOf b) = .builtin) ↔
        ∀ b ∈ t.builtinTypes ds, ¬t.occupies ds containerName b.name) := by
  have hnames : ∀ b ∈ t.builtinTypes ds, c.imports.nameOf b = b.name := fun b hb =>
    nameOf_builtin _ (List.mem_filter.1 hb).2
  refine ⟨(methods_under_imports h).2.2, hnames, forall₂_congr fun b hb => ?_⟩
  rw [hnames b hb]
  exact referent_eq_builtin_iff h b.name

/-- A screen with a text as its parameter. -/
def searchScreen : Declaration where
  name := "Search"
  namespaceName := "app.screens"
  markers :=
    [⟨activityMarker, [], 4, []⟩,
      ⟨parameterMarker, [("key", .text "query"), ("type", .typeRef ⟨builtinModule, "str"⟩)], 5, []⟩]
  path := some "app/screens.py"
  line := 4

/-- A screen that has the name of a builtin type. -/
def textScreen : Declaration where
  name := "str"
  namespaceName := "app.text"
  markers := [⟨activityMarker, [], 7, []⟩]
  path := some "app/text.py"
  line := 7

theorem denotesBuiltins_search :
    ∃ c, (targetContainer activityTargets [searchScreen] "ActivityTargets").result = .ok c ∧
      activityTargets.builtinTypes [searchScreen] = [⟨builtinModule, "str"⟩] ∧
      ((∀ b ∈ activityTargets.builtinTypes [searchScreen], c.referent (c.imports.nameOf b) = .builtin) ↔
        ∀ b ∈ activityTargets.builtinTypes [searchScreen],
          ¬activityTargets.occupies [searchScreen] "ActivityTargets" b.name) := by
  have hrun : ((targetContainer activityTargets [searchScreen] "ActivityTargets").result.toOption.map
      (·.methodNames)) = some ["showSearch"] := by
    decide +kernel
  have htypes : activityTargets.builtinTypes [searchScreen] = [⟨builtinModule, "str"⟩] := by
    decide +kernel
  obtain ⟨c, hc, -⟩ := map_toOption_eq_some_iff.1 hrun
  exact ⟨c, hc, htypes, (denotesBuiltins_iff hc).2.2⟩

/-- The name of a builtin type may refer to an imported one. -/
theorem exists_shadowed_builtin :
    ¬∀ t ∈ [activityTargets, fragmentTargets], ∀ (ds : List Declaration) (containerName : String) (c : Container),
      Text.isIdentifier containerName → (targetContainer t ds containerName).result = .ok c →
        ∀ b ∈ t.builtinTypes ds, c.referent (c.imports.nameOf b) = .builtin := by
  intro hall
  have hrun : ((targetContainer activityTargets [searchScreen, textScreen] "ActivityTargets").result.toOption.map
      fun c => c.referent (c.imports.nameOf ⟨builtinModule, "str"⟩)) = some (.imported ⟨"app.text", "str"⟩) := by
    decide +kernel
  have htype : ⟨builtinModule, "str"⟩ ∈ activityTargets.builtinTypes [searchScreen, textScreen] := by
    decide
  obtain ⟨c, hc, himported⟩ := map_toOption_eq_some_iff.1 hrun
  have hbuiltin := hall activityTargets List.mem_cons_self _ _ c (by decide) hc _ htype
  rw [himported] at hbuiltin
  cases hbuiltin

end Builtin

end NavFactory
