import NavFactory.Proofs.BodyNames
import NavFactory.Proofs.MethodNames

/-!
# Accessors of bundles

Each model that can be read from a bundle has one accessor, whose body calls the model by its local name in the module.
The variable of the body has a fixed name, of which the import table knows nothing: a class of this name is imported
under it, and the body then calls the bundle instead (`exists_captured_model`).  No alias is called like the variable,
so that this is the only way in which an imported model can have its name (`nameOf_eq_bundleArgument_iff`).
-/

namespace NavFactory

/-! ### The table of a container -/

/-- The types that accessors refer to, in the order of their first use. -/
def bundleTypes (declarations : List Declaration) : List TypeRef :=
  [mappingType, anyType] ++ (bundleModels declarations).1.map (·.typeRef)

/-- The imports of the types that accessors refer to. -/
def bundleImports (declarations : List Declaration) (containerName : String) : ImportTable :=
  ((ImportTable.reserving [containerName]).useAll (bundleTypes declarations)).2

/-- The accessors of models when types go by given names. -/
def accessorsUnder (nameOf : TypeRef → String) (models : List Selected) : List Method :=
  models.map fun s => accessor (nameOf mappingType) (nameOf anyType) (nameOf s.typeRef) s

section Table

variable {ds : List Declaration} {containerName : String} {s : Selected}

/-- Accessors refer to their models by the names that all later tables give. -/
private theorem accessors_names {mapping any : String} {table later : ImportTable} {models : List Selected}
    (h : later.Extends (table.useAll (models.map (·.typeRef))).2) :
    accessors mapping any table models =
      (models.map fun s => accessor mapping any (later.nameOf s.typeRef) s,
        (table.useAll (models.map (·.typeRef))).2) := by
  induction models generalizing table with
  | nil => rfl
  | cons s rest ih =>
    have hrest : later.Extends ((table.use s.typeRef).2.useAll (rest.map (·.typeRef))).2 := h
    have hname : (table.use s.typeRef).1 = later.nameOf s.typeRef :=
      (ImportTable.nameOf_of_extends_use (hrest.trans (ImportTable.extends_useAll _ _))).symm
    have hstep : accessors mapping any table (s :: rest) =
        (accessor mapping any (table.use s.typeRef).1 s :: (accessors mapping any (table.use s.typeRef).2 rest).1,
          (accessors mapping any (table.use s.typeRef).2 rest).2) := rfl
    rw [hstep, ih hrest, hname]
    rfl

/-- The container of the accessors is made under the names of its imports. -/
theorem bundleContainer_eq (ds : List Declaration) (containerName : String) :
    bundleContainer ds containerName = ⟨(bundleModels ds).2, .ok ⟨"bundle", containerName, "bundles",
      "Accessors rebuilding bundle-backed models.", bundleImports ds containerName,
      accessorsUnder (bundleImports ds containerName).nameOf (bundleModels ds).1⟩⟩ := by
  obtain ⟨heads, hheads⟩ : ∃ heads, heads = (ImportTable.reserving [containerName]).useAll [mappingType, anyType] :=
    ⟨_, rfl⟩
  have himports : bundleImports ds containerName = (heads.2.useAll ((bundleModels ds).1.map (·.typeRef))).2 := by
    rw [bundleImports, bundleTypes, ImportTable.useAll_append, ← hheads]
  have hlater : (bundleImports ds containerName).Extends heads.2 := himports ▸ ImportTable.extends_useAll _ _
  have hnames : heads.1 = [mappingType, anyType].map (bundleImports ds containerName).nameOf := by
    rw [hheads] at hlater ⊢
    exact ImportTable.useAll_fst hlater
  have hcontainer : bundleContainer ds containerName =
      let methods := accessors (heads.1.getD 0 "") (heads.1.getD 1 "") heads.2 (bundleModels ds).1
      ⟨(bundleModels ds).2, .ok ⟨"bundle", containerName, "bundles", "Accessors rebuilding bundle-backed models.",
        methods.2, methods.1⟩⟩ := by
    rw [hheads]
    rfl
  have hextends : (bundleImports ds containerName).Extends
      (heads.2.useAll ((bundleModels ds).1.map (·.typeRef))).2 := himports ▸ ImportTable.Extends.refl _
  rw [hcontainer, accessors_names hextends, ← himports, hnames]
  rfl

theorem sound_bundleImports (ds : List Declaration) (containerName : String) :
    (bundleImports ds containerName).Sound [containerName] := (ImportTable.sound_reserving _).useAll _

theorem tried_bundleImports (ds : List Declaration) (containerName : String) :
    (bundleImports ds containerName).Tried :=
  ImportTable.Tried.useAll (fun _ ha => absurd ha List.not_mem_nil) _

theorem mem_keys_bundleImports (ds : List Declaration) (containerName : String) (u : TypeRef) :
    u ∈ (bundleImports ds containerName).aliases.map (·.1) ↔ u ∈ bundleTypes ds ∧ ¬u.isBuiltin := by
  rw [bundleImports, ImportTable.mem_keys_useAll]
  exact or_iff_right List.not_mem_nil

private theorem mem_bundleTypes (h : s ∈ (bundleModels ds).1) : s.typeRef ∈ bundleTypes ds :=
  List.mem_append_right _ (List.mem_map_of_mem h)

/-- A type that accessors refer to is imported under its name, if it has to be. -/
private theorem mem_aliases_bundleImports (containerName : String) {u : TypeRef} (hu : u ∈ bundleTypes ds)
    (hb : ¬u.isBuiltin) :
    (u, (bundleImports ds containerName).nameOf u) ∈ (bundleImports ds containerName).aliases :=
  ((sound_bundleImports ds containerName).mem_aliases_iff hb).2
    ⟨(mem_keys_bundleImports ds containerName u).2 ⟨hu, hb⟩, rfl⟩

/-! ### Local names of models -/

/-- A type that goes by a name without underscores goes by its own. -/
private theorem name_of_nameOf_eq {table : ImportTable} (htried : table.Tried) {u : TypeRef} {x : String}
    (hx : '_' ∉ x.toList) (h : table.nameOf u = x) : u.name = x := by
  obtain ⟨n, hn⟩ := htried.nameOf u
  rw [h] at hn
  have hflat : '_' ∈ u.flatName.toList := by
    simp [TypeRef.flatName]
  rcases n with _ | _ | n
  · exact hn.symm
  · exact absurd (hn ▸ hflat) hx
  · refine absurd (hn ▸ ?_) hx
    rw [TypeRef.candidateName, String.toList_append]
    exact List.mem_append_left _ hflat

/-- A model has the name of the variable of its accessor exactly if its class is called so, unless the container has
taken this name. -/
theorem nameOf_eq_bundleArgument_iff (hs : s ∈ (bundleModels ds).1) :
    (bundleImports ds containerName).nameOf s.typeRef = bundleArgument ↔
      s.name = bundleArgument ∧ (s.typeRef.isBuiltin ∨ containerName ≠ bundleArgument) := by
  have hsound := sound_bundleImports ds containerName
  have htried := tried_bundleImports ds containerName
  have hunderscore : '_' ∉ bundleArgument.toList := by decide
  by_cases hb : s.typeRef.isBuiltin
  · rw [nameOf_builtin _ hb]
    exact ⟨fun h => ⟨h, Or.inl hb⟩, fun h => h.1⟩
  · have halias := mem_aliases_bundleImports containerName (mem_bundleTypes hs) hb
    constructor
    · intro he
      refine ⟨name_of_nameOf_eq htried hunderscore he, Or.inr fun hcontainer => hsound.not_reserved _ halias ?_⟩
      rw [he, hcontainer]
      exact List.mem_cons_self
    · rintro ⟨hname, hfree⟩
      have hcontainer := hfree.resolve_left hb
      -- something has taken the name, and it can only be the model
      have htaken : bundleArgument ∈ (bundleImports ds containerName).taken := hname ▸ hsound.name_taken _ halias
      obtain ⟨⟨v, x⟩, hv, rfl⟩ := List.mem_map.1
        (((hsound.mem_taken _).1 htaken).resolve_left (by simpa using hcontainer.symm))
      obtain ⟨hmem, hvb⟩ := (mem_keys_bundleImports ds containerName v).1 (List.mem_map_of_mem hv)
      have hvname : v.name = bundleArgument :=
        name_of_nameOf_eq htried hunderscore ((hsound.mem_aliases_iff hvb).1 hv).2
      suffices hvs : v = s.typeRef from hvs ▸ ((hsound.mem_aliases_iff hvb).1 hv).2
      simp only [bundleTypes, List.mem_append, List.mem_cons, List.not_mem_nil, or_false, List.mem_map] at hmem
      rcases hmem with (rfl | rfl) | ⟨s', hs', rfl⟩
      · exact absurd hvname (by decide)
      · exact absurd hvname (by decide)
      · rw [List.inj_on_of_nodup_map (nodup_name_bundleModels ds) hs' hs (hvname.trans hname.symm)]

/-- Different imports have different names. -/
private theorem nameOf_inj {u v : TypeRef} (hu : u ∈ bundleTypes ds) (hub : ¬u.isBuiltin) (hv : v ∈ bundleTypes ds)
    (hvb : ¬v.isBuiltin) :
    (bundleImports ds containerName).nameOf u = (bundleImports ds containerName).nameOf v ↔ u = v := by
  refine ⟨fun he => ?_, fun he => he ▸ rfl⟩
  have := List.inj_on_of_nodup_map (sound_bundleImports ds containerName).nodup_names
    (mem_aliases_bundleImports _ hu hub) (mem_aliases_bundleImports _ hv hvb) he
  exact (Prod.mk.inj this).1

/-- A model that is imported goes by the name of the variable, of the container or of a type in the signature only if
its class is called like the variable and the container is not, or it is such a type itself. -/
theorem nameOf_model_not_mem_iff (hs : s ∈ (bundleModels ds).1) (hb : ¬s.typeRef.isBuiltin) :
    (bundleImports ds containerName).nameOf s.typeRef ∉
        [bundleArgument, containerName, (bundleImports ds containerName).nameOf mappingType,
          (bundleImports ds containerName).nameOf anyType] ↔
      (s.name = bundleArgument → containerName = bundleArgument) ∧ s.typeRef ∉ [mappingType, anyType] := by
  have hcontainer : (bundleImports ds containerName).nameOf s.typeRef ≠ containerName := fun he =>
    (sound_bundleImports ds containerName).not_reserved _ (mem_aliases_bundleImports _ (mem_bundleTypes hs) hb)
      (List.mem_singleton.2 he)
  have hmapping : mappingType ∈ bundleTypes ds := List.mem_append_left _ List.mem_cons_self
  have hany : anyType ∈ bundleTypes ds := List.mem_append_left _ (List.mem_cons_of_mem _ List.mem_cons_self)
  rw [List.mem_cons, List.mem_cons, List.mem_cons, List.mem_singleton, nameOf_eq_bundleArgument_iff hs,
    nameOf_inj (mem_bundleTypes hs) hb hmapping (by decide), nameOf_inj (mem_bundleTypes hs) hb hany (by decide),
    List.mem_cons, List.mem_singleton]
  tauto

end Table

/-! ### What accessors call -/

/-- The accessors of a container are made from the models, one for each, and have different names.  The name of a model
that is imported stands apart from the other names of its accessor exactly if the class is not called like the variable,
or the container is, and the model is not a type of the signature.  The body refers to the model by this name only if
the container admits it beside the variable, and it does so if the names around are spelled apart. -/
theorem bundleContainer_calls (ds : List Declaration) (containerName : String) :
    ∃ c, (bundleContainer ds containerName).result = .ok c ∧ c.name = containerName ∧
      c.methods = accessorsUnder c.imports.nameOf (bundleModels ds).1 ∧ c.methodNames.Nodup ∧
      c.meaningAmong [bundleArgument] bundleArgument = .localVariable ∧
      ∀ s ∈ (bundleModels ds).1,
        (¬s.typeRef.isBuiltin →
          (c.imports.nameOf s.typeRef ∉
              [bundleArgument, c.name, c.imports.nameOf mappingType, c.imports.nameOf anyType] ↔
            (s.name = bundleArgument → c.name = bundleArgument) ∧ s.typeRef ∉ [mappingType, anyType])) ∧
        (c.meaningAmong [bundleArgument] (c.imports.nameOf s.typeRef) = s.typeRef.meaning →
          c.AdmitsAmong [bundleArgument] s.typeRef) ∧
        (c.SpelledApart (c.namesAmong [bundleArgument] s.typeRef) →
          (c.meaningAmong [bundleArgument] (c.imports.nameOf s.typeRef) = s.typeRef.meaning ↔
            c.AdmitsAmong [bundleArgument] s.typeRef)) := by
  have hsound := sound_bundleImports ds containerName
  refine ⟨_, congrArg Report.result (bundleContainer_eq ds containerName), rfl, rfl, ?_,
    if_pos (List.mem_map_of_mem List.mem_cons_self), fun s hs => ⟨nameOf_model_not_mem_iff hs,
      admitsAmong_of_meaning hsound, fun hapart => ⟨admitsAmong_of_meaning hsound,
        meaning_of_admitsAmong hsound hapart fun hb => ?_⟩⟩⟩
  · rw [Container.methodNames, accessorsUnder, List.map_map]
    exact nodup_accessorName_bundleModels ds
  · exact (mem_keys_bundleImports ds containerName _).2 ⟨mem_bundleTypes hs, hb⟩

/-- A class that goes by its own name beside the other names of its accessor. -/
def settingsClass : Declaration where
  name := "Settings"
  namespaceName := "app.models"
  markers := [⟨bundleMarker, [], 3, []⟩]
  path := some "app/models.py"
  line := 3

theorem bundleContainer_calls_settings :
    ∃ c, (bundleContainer [settingsClass] "Bundles").result = .ok c ∧ c.methodNames = ["getSettings"] ∧
      ∀ s ∈ (bundleModels [settingsClass]).1,
        c.meaningAmong [bundleArgument] (c.imports.nameOf s.typeRef) = .imported ⟨"app.models", "Settings"⟩ := by
  have hrun : ((bundleContainer [settingsClass] "Bundles").result.toOption.map fun c =>
      decide (c.methodNames = ["getSettings"] ∧ ∀ s ∈ (bundleModels [settingsClass]).1,
        s.typeRef.meaning = .imported ⟨"app.models", "Settings"⟩ ∧
          c.SpelledApart (c.namesAmong [bundleArgument] s.typeRef) ∧ c.AdmitsAmong [bundleArgument] s.typeRef)) =
      some true := by
    decide +kernel
  obtain ⟨c, hc, -, -, -, -, hcalls⟩ := bundleContainer_calls [settingsClass] "Bundles"
  obtain ⟨c', hc', hall⟩ := map_toOption_eq_some_iff.1 hrun
  obtain rfl : c' = c := Except.ok.inj (hc'.symm.trans hc)
  obtain ⟨hnames, hall⟩ := of_decide_eq_true hall
  refine ⟨c', hc, hnames, fun s hs => ?_⟩
  obtain ⟨hmeaning, hapart, hadmits⟩ := hall s hs
  rw [((hcalls s hs).2.2 hapart).2 hadmits, hmeaning]

/-- A class that has the name of a variable of accessors. -/
def bundleClass : Declaration where
  name := bundleArgument
  namespaceName := "app.models"
  markers := [⟨bundleMarker, [], 4, []⟩]
  path := some "app/models.py"
  line := 4

/-- A model may be imported under the name of the variable of its accessor, and the body then calls the bundle. -/
theorem exists_captured_model :
    ¬∀ (ds : List Declaration) (containerName : String) (c : Container), Text.isIdentifier containerName →
      (bundleContainer ds containerName).result = .ok c →
        ∀ s ∈ (bundleModels ds).1, Text.isIdentifier s.name → ¬Text.isReserved s.name →
          c.imports.nameOf s.typeRef ∉
              [bundleArgument, c.name, c.imports.nameOf mappingType, c.imports.nameOf anyType] ∧
            c.meaningAmong [bundleArgument] (c.imports.nameOf s.typeRef) = s.typeRef.meaning := by
  intro hall
  have hmodel : ∃ s ∈ (bundleModels [bundleClass]).1, Text.isIdentifier s.name ∧ ¬Text.isReserved s.name ∧
      (bundleImports [bundleClass] "Bundles").nameOf s.typeRef = bundleArgument := by
    decide +kernel
  obtain ⟨s, hs, hname, hreserved, he⟩ := hmodel
  have hok := congrArg Report.result (bundleContainer_eq [bundleClass] "Bundles")
  exact (hall _ _ _ (by decide) hok s hs hname hreserved).1 (List.mem_cons.2 (Or.inl he))

end NavFactory
