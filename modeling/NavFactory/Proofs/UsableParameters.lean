import NavFactory.Proofs.GroupNames

/-!
# Usable parameters

The parameters of a declaration are given up with an error exactly if something is wrong with a marker
(`parameterProblems_eq_nil_iff`), or with two groups or two entries of one group (`groupClashes_groupedEntries_iff`).
Otherwise nothing of them is lost or repeated: `ParameterGroups.Represents` says what the model holds.
-/

namespace NavFactory

/-! ### Markers -/

/-- Whether nothing is wrong with a parameter marker.  An argument that is left out has a value of its own, but for the
key and the type. -/
structure Usage.IsWellFormed (usage : Usage) : Prop where
  errors_eq : usage.errors = []
  known : ∀ argument ∈ usage.arguments, argument.1 ∈ parameterFields
  key : ∃ v ∈ usage.argument? "key", ∃ key, v.asText? = some key ∧ ∃ c ∈ key.toList, Text.isBlank c = false
  type : ∃ ref, usage.argument? "type" = some (.typeRef ref)
  name : ∀ v ∈ usage.argument? "name", ∃ name, v.asText? = some name
  optional : ∀ v ∈ usage.argument? "optional", ∃ optional, v = .bool optional
  group : ∀ v ∈ usage.argument? "group",
    ∃ groups, v.NamesGroups groups ∧ ∀ group ∈ groups, group = defaultGroup ∨ IsGroupName group

section Marker

variable {usage : Usage}

/-- What holds of the value of an argument that is left out holds of the argument exactly if it does where one is
given. -/
private theorem argument_getD_iff {p : Value → Prop} {name : String} (default : Value) (h : p default) :
    p ((usage.argument? name).getD default) ↔ ∀ v ∈ usage.argument? name, p v := by
  cases usage.argument? name <;> simp [h]

private theorem isSome_key?_iff : usage.key?.isSome = true ↔
    ∃ v ∈ usage.argument? "key", ∃ key, v.asText? = some key ∧ ∃ c ∈ key.toList, Text.isBlank c = false := by
  rw [Usage.key?, Option.isSome_iff_exists]
  simp only [Option.filter_eq_some_iff, Option.bind_eq_some_iff, Text.isBlankText, Bool.not_eq_true',
    List.all_eq_false, Option.mem_def, Bool.not_eq_true]
  constructor
  · rintro ⟨key, ⟨v, hv, hkey⟩, hblank⟩
    exact ⟨v, hv, key, hkey, hblank⟩
  · rintro ⟨v, hv, key, hkey, hblank⟩
    exact ⟨key, ⟨v, hv, hkey⟩, hblank⟩

private theorem isSome_type?_iff : usage.type?.isSome = true ↔ ∃ ref, usage.argument? "type" = some (.typeRef ref) := by
  have hvalue (v : Value) (ref : TypeRef) : v.asType? = some ref ↔ v = .typeRef ref := by
    cases v <;> simp [Value.asType?]
  simp [Usage.type?, Option.isSome_iff_exists, Option.bind_eq_some_iff, hvalue]

private theorem isSome_displayName?_iff : usage.displayName?.isSome = true ↔
    ∀ v ∈ usage.argument? "name", ∃ name, v.asText? = some name := by
  rw [Usage.displayName?, Option.isSome_iff_exists]
  exact argument_getD_iff (p := fun v => ∃ name, v.asText? = some name) (.text "unspecified") ⟨_, rfl⟩

private theorem isSome_optional?_iff : usage.optional?.isSome = true ↔
    ∀ v ∈ usage.argument? "optional", ∃ optional, v = .bool optional := by
  have hvalue (v : Value) (b : Bool) : v.asBool? = some b ↔ v = .bool b := by
    cases v <;> simp [Value.asBool?]
  simp only [Usage.optional?, Option.isSome_iff_exists, hvalue]
  exact argument_getD_iff (p := fun v => ∃ optional, v = .bool optional) (.bool false) ⟨_, rfl⟩

private theorem groupProblem_eq_nil_iff {group : String} :
    groupProblem group = [] ↔ group = defaultGroup ∨ IsGroupName group := by
  simp [groupProblem, isValidGroup_iff, or_iff_not_imp_left]

private theorem groups?_iff : (∃ groups, usage.groups? = some groups ∧ groups.flatMap groupProblem = []) ↔
    ∀ v ∈ usage.argument? "group",
      ∃ groups, v.NamesGroups groups ∧ ∀ group ∈ groups, group = defaultGroup ∨ IsGroupName group := by
  rw [← argument_getD_iff
    (p := fun v => ∃ groups, v.NamesGroups groups ∧ ∀ group ∈ groups, group = defaultGroup ∨ IsGroupName group)
    (.text defaultGroup) ⟨[defaultGroup], .one ⟨rfl, by decide⟩, by simp⟩]
  simp only [Usage.groups?, asGroups?_eq_some_iff, List.flatMap_eq_nil_iff, groupProblem_eq_nil_iff]
  constructor
  · rintro ⟨groups, ⟨names, hnames, rfl⟩, hgroups⟩
    exact ⟨names, hnames, fun group hg => hgroups group (mem_dedupe.2 hg)⟩
  · rintro ⟨names, hnames, hgroups⟩
    exact ⟨_, ⟨names, hnames, rfl⟩, fun group hg => hgroups group (mem_dedupe.1 hg)⟩

/-- A parameter marker has no problems exactly if it is well-formed. -/
theorem parameterProblems_eq_nil_iff : parameterProblems usage = [] ↔ usage.IsWellFormed := by
  have hprovided (ok : Bool) (text : String) : (if ok = true then [] else [text]) = [] ↔ ok = true := by
    cases ok <;> simp
  unfold parameterProblems
  simp only [List.append_eq_nil_iff, hprovided]
  refine Iff.trans (and_congr_right fun _ =>
    (?_ : _ ↔ ∃ groups, usage.groups? = some groups ∧ groups.flatMap groupProblem = [])) ?_
  · cases usage.groups? <;> simp
  rw [unknownProblem_eq_nil_iff, isSome_key?_iff, isSome_displayName?_iff, isSome_optional?_iff, groups?_iff,
    Bool.or_eq_true, isSome_type?_iff]
  constructor
  · rintro ⟨⟨⟨⟨⟨⟨herrors, hknown⟩, hkey⟩, htype⟩, hname⟩, hoptional⟩, hgroup⟩
    refine ⟨herrors, hknown, hkey, htype.resolve_right ?_, hname, hoptional, hgroup⟩
    simp [herrors]
  · rintro ⟨herrors, hknown, hkey, htype, hname, hoptional, hgroup⟩
    exact ⟨⟨⟨⟨⟨⟨herrors, hknown⟩, hkey⟩, Or.inl htype⟩, hname⟩, hoptional⟩, hgroup⟩

end Marker

/-! ### Declarations -/

namespace Declaration

/-- Whether no two groups, the default one excepted, differ in nothing but the case of their letters. -/
def DistinguishesGroups (d : Declaration) : Prop :=
  ∀ g ∈ d.namedGroups, ∀ h ∈ d.namedGroups, g ≠ defaultGroup → h ≠ defaultGroup → g.toLower = h.toLower → g = h

/-- Whether no two entries of one group have the same argument. -/
def DistinguishesArguments (d : Declaration) : Prop :=
  ∀ group ∈ d.namedGroups, ((d.entriesIn group).map fun e => argumentName e.key []).Nodup

/-- Whether nothing is wrong with the parameters of a declaration. -/
structure HasUsableParameters (d : Declaration) : Prop where
  wellFormed : ∀ usage ∈ d.usages parameterMarker, usage.IsWellFormed
  groups : d.DistinguishesGroups
  arguments : d.DistinguishesArguments

end Declaration

/-- What the model of a declaration holds: a bucket for each named group in the order of first use, with one entry for
each marker that names the group. -/
structure ParameterGroups.Represents (model : ParameterGroups) (d : Declaration) (forceEmpty : Bool) : Prop where
  keys_eq : model.keys = dedupe d.namedGroups
  entries_eq : ∀ bucket ∈ model.groups, bucket.2 = d.entriesIn bucket.1
  ordered_perm : model.ordered.Perm model.groups
  ordered_pairwise : model.ordered.Pairwise fun a b =>
    b.1 ≠ defaultGroup ∧ (a.1 = defaultGroup ∨ a.1 < b.1)
  size_eq : model.size = ((d.usages parameterMarker).flatMap fun usage =>
    (dedupe (usage.groups?.getD [])).map fun group => (usage, group)).length
  needsEmptyMethod_iff : model.needsEmptyMethod = true ↔ forceEmpty = true ∨ d.usages parameterMarker = []

section Declaration

variable {d : Declaration}

/-- The groups of markers without problems can be part of method names. -/
theorem isGroupName_of_mem_namedGroups (h : ∀ usage ∈ d.usages parameterMarker, usage.IsWellFormed)
    {group : String} (hg : group ∈ d.namedGroups) : group = defaultGroup ∨ IsGroupName group := by
  obtain ⟨usage, hu, hg⟩ := List.mem_flatMap.1 hg
  obtain ⟨groups, hgroups, hproblems⟩ := groups?_iff.2 (h usage hu).group
  rw [hgroups, Option.getD_some] at hg
  exact groupProblem_eq_nil_iff.1 (List.flatMap_eq_nil_iff.1 hproblems group hg)

/-- If the markers are well-formed, then there is no clash exactly if the groups and the arguments can be told apart. -/
theorem groupClashes_groupedEntries_iff (h : ∀ usage ∈ d.usages parameterMarker, usage.IsWellFormed) :
    groupClashes d [] (groupedEntries d).groups = [] ↔ d.DistinguishesGroups ∧ d.DistinguishesArguments := by
  have herrors : parameterErrors d = [] :=
    parameterErrors_eq_nil_iff.2 fun usage hu => parameterProblems_eq_nil_iff.2 (h usage hu)
  have hmethods : ((groupedEntries d).groups.map fun bucket => targetMethodName d.name (some bucket.1)).Nodup ↔
      d.DistinguishesGroups := by
    have hkeys : ((groupedEntries d).groups.map fun bucket => targetMethodName d.name (some bucket.1)) =
        (groupedEntries d).keys.map fun group => targetMethodName d.name (some group) := by
      rw [ParameterGroups.keys, List.map_map]
      rfl
    rw [hkeys, List.nodup_map_iff_inj_on (nodup_keys_groupedEntries herrors)]
    simp only [mem_keys_groupedEntries herrors, targetMethodName_inj]
    refine forall₂_congr fun g hg => forall₂_congr fun g' hg' => ?_
    rw [groupSuffix_eq_iff (isGroupName_of_mem_namedGroups h hg) (isGroupName_of_mem_namedGroups h hg')]
    tauto
  have harguments : (∀ bucket ∈ (groupedEntries d).groups, (bucket.2.map fun e => argumentName e.key []).Nodup) ↔
      d.DistinguishesArguments := by
    simp only [mem_groups_groupedEntries herrors]
    constructor
    · exact fun h group hg => h (group, d.entriesIn group) ⟨hg, rfl⟩
    · rintro h bucket ⟨hg, he⟩
      exact he ▸ h bucket.1 hg
  rw [groupClashes_eq_nil_iff, hmethods, harguments]
  simp

/-- Nothing is wrong with the parameters of a declaration exactly if neither its markers nor its groups have errors. -/
private theorem hasUsableParameters_iff : d.HasUsableParameters ↔
    parameterErrors d = [] ∧ groupClashes d [] (groupedEntries d).groups = [] := by
  have hmarkers : parameterErrors d = [] ↔ ∀ usage ∈ d.usages parameterMarker, usage.IsWellFormed := by
    simp only [parameterErrors_eq_nil_iff, parameterProblems_eq_nil_iff]
  rw [hmarkers]
  constructor
  · rintro ⟨hwell, hgroups, harguments⟩
    exact ⟨hwell, (groupClashes_groupedEntries_iff hwell).2 ⟨hgroups, harguments⟩⟩
  · rintro ⟨hwell, hclashes⟩
    obtain ⟨hgroups, harguments⟩ := (groupClashes_groupedEntries_iff hwell).1 hclashes
    exact ⟨hwell, hgroups, harguments⟩

private theorem pairwise_ordered_groupedEntries (h : parameterErrors d = []) :
    (groupedEntries d).ordered.Pairwise fun a b => b.1 ≠ defaultGroup ∧ (a.1 = defaultGroup ∨ a.1 < b.1) := by
  have hothers : (d.otherGroups.map fun group => (group, d.entriesIn group)).Pairwise
      fun a b => b.1 ≠ defaultGroup ∧ (a.1 = defaultGroup ∨ a.1 < b.1) := by
    rw [List.pairwise_map]
    refine List.Pairwise.imp_of_mem ?_ sortedLT_otherGroups.pairwise
    exact fun _ hb hlt => ⟨(mem_otherGroups.1 hb).1, Or.inr hlt⟩
  rw [ordered_groupedEntries h]
  split
  · exact hothers
  · rw [List.singleton_append, List.pairwise_cons]
    refine ⟨fun bucket hb => ?_, hothers⟩
    obtain ⟨group, hg, rfl⟩ := List.mem_map.1 hb
    exact ⟨(mem_otherGroups.1 hg).1, Or.inl rfl⟩

/-- The model that is read from a declaration without errors holds the entries of its markers. -/
private theorem represents_groupedEntries (h : parameterErrors d = []) (forceEmpty : Bool) :
    ParameterGroups.Represents
      { groupedEntries d with needsEmptyMethod := forceEmpty || (groupedEntries d).size == 0 } d forceEmpty where
  keys_eq := keys_groupedEntries h
  entries_eq bucket hb := ((mem_groups_groupedEntries h bucket).1 hb).2
  ordered_perm := perm_sortBy _ _
  ordered_pairwise := pairwise_ordered_groupedEntries h
  size_eq := by
    have hpairs : d.namedGroups = ((d.usages parameterMarker).flatMap fun usage =>
        (dedupe (usage.groups?.getD [])).map fun group => (usage, group)).map (·.2) := by
      rw [List.map_flatMap, Declaration.namedGroups]
      refine List.flatMap_congr fun usage _ => ?_
      rw [List.map_map]
      cases hg : usage.groups? with
      | none => rfl
      | some groups => simp [Function.comp_def, dedupe_eq_self (Usage.groups?_nodup hg).1]
    rw [← List.length_map (f := (·.2)), ← hpairs]
    exact size_groupedEntries h
  needsEmptyMethod_iff := by
    rw [← size_groupedEntries_eq_zero_iff h, Bool.or_eq_true, beq_iff_eq]

end Declaration

/-- The parameters of a declaration are read exactly if nothing is wrong with them, and then the model holds all of them;
otherwise, and only then, there are errors. -/
theorem readParameters_exact (d : Declaration) (forceEmpty : Bool) :
    ((readParameters d forceEmpty).1.isSome = true ↔ d.HasUsableParameters) ∧
      ((readParameters d forceEmpty).2 = [] ↔ d.HasUsableParameters) ∧
      (∀ e ∈ (readParameters d forceEmpty).2, e.IsErrorOn d) ∧
      ∀ model ∈ (readParameters d forceEmpty).1, model.Represents d forceEmpty := by
  rcases hread : readParameters d forceEmpty with ⟨_ | model, errors⟩
  · obtain ⟨hne, herrors⟩ := readParameters_none hread
    have hunusable : ¬d.HasUsableParameters := by
      rw [hasUsableParameters_iff]
      rintro ⟨hmarkers, hclashes⟩
      simp [readParameters, hmarkers, hclashes] at hread
    simpa [hunusable, hne] using herrors
  · obtain ⟨hmarkers, hclashes, rfl, rfl⟩ := readParameters_fst_some hread
    simp [hasUsableParameters_iff.2 ⟨hmarkers, hclashes⟩, represents_groupedEntries hmarkers]

end NavFactory
