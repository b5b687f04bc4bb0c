import NavFactory.Processor
import NavFactory.Proofs.Emission

/-!
# Names of generated methods

A method is named after its class and its group, and nothing marks where the one ends and the other begins.  The
methods of one class have different names (`nodup_planned_names`), and so have the accessors of bundles; but the names
of two classes may fall together once the group of one is appended (`Processor.collides`).  The names of a container
are distinct exactly if that does not happen (`nodup_methodNames_iff`).
-/

namespace NavFactory

/-- What the name of a method has behind the name of its class. -/
def groupSuffix (group : Option String) : String :=
  match group with
  | none => ""
  | some group => if group = defaultGroup then "" else "For" ++ capitalizeGroup group

theorem targetMethodName_eq (declaration : String) (group : Option String) :
    targetMethodName declaration group = "show" ++ (declaration ++ groupSuffix group) := by
  unfold targetMethodName groupSuffix
  cases group with
  | none => simp
  | some group =>
    by_cases hg : group = defaultGroup
    · simp [hg]
    · simp [hg, String.append_assoc]

/-- Two methods of one class have the same name exactly if their groups have the same suffix. -/
theorem targetMethodName_inj {declaration : String} {g h : Option String} :
    targetMethodName declaration g = targetMethodName declaration h ↔ groupSuffix g = groupSuffix h := by
  rw [targetMethodName_eq, targetMethodName_eq, String.append_right_inj, String.append_right_inj]

/-! ### The methods of one class -/

theorem groupSuffix_other {group : String} (h : group ≠ defaultGroup) :
    groupSuffix (some group) = "For" ++ capitalizeGroup group := if_neg h

theorem groupSuffix_other_ne {group : String} (h : group ≠ defaultGroup) : groupSuffix (some group) ≠ "" := by
  rw [groupSuffix_other h]
  intro he
  have := congrArg String.length he
  rw [String.length_append] at this
  have hfor : "For".length = 3 := rfl
  have hempty : "".length = 0 := rfl
  omega

/-- The methods planned for an accepted class have different suffixes. -/
private theorem nodup_suffixes {t : TargetKind} {s : Selected} {model : ParameterGroups}
    (h : Accepted t s model) : (s.plan.map fun step => groupSuffix step.1).Nodup := by
  obtain ⟨⟨hnd, -⟩, -⟩ := groupClashes_eq_nil_iff.1 h.groupClashes_eq
  have hinj : ∀ g ∈ s.declaration.otherGroups, ∀ g' ∈ s.declaration.otherGroups,
      groupSuffix (some g) = groupSuffix (some g') → g = g' := by
    have bucket {g : String} (hg : g ∈ s.declaration.otherGroups) :
        (g, s.declaration.entriesIn g) ∈ (groupedEntries s.declaration).groups :=
      (mem_groups_groupedEntries h.parameterErrors_eq _).2 ⟨(mem_otherGroups.1 hg).2, rfl⟩
    intro g hg g' hg' he
    have := List.inj_on_of_nodup_map hnd (bucket hg) (bucket hg') (targetMethodName_inj.2 he)
    exact (Prod.mk.inj this).1
  have hothers : (s.declaration.otherGroups.map fun g => groupSuffix (some g)).Nodup :=
    sortedLT_otherGroups.nodup.map_on hinj
  have hbase : "" ∉ s.declaration.otherGroups.map fun g => groupSuffix (some g) := by
    intro hm
    obtain ⟨g, hg, he⟩ := List.mem_map.1 hm
    exact groupSuffix_other_ne (mem_otherGroups.1 hg).1 he
  have hdefault : groupSuffix (some defaultGroup) = "" := rfl
  have hnone : groupSuffix none = "" := rfl
  -- at most one method has the name of the class alone
  unfold Selected.plan
  by_cases he : s.declaration.entriesIn defaultGroup = []
  · by_cases hb : s.usage.forceEmpty? = some true ∨ s.declaration.usages parameterMarker = []
    · simpa [he, hb, hnone, Function.comp_def] using ⟨by simpa using hbase, hothers⟩
    · simpa [he, hb, Function.comp_def] using hothers
  · simpa [he, hdefault, Function.comp_def] using ⟨by simpa using hbase, hothers⟩

/-- The methods planned for an accepted class have different names. -/
theorem nodup_planned_names {t : TargetKind} {s : Selected} (h : t.accepts s) :
    (s.planned.map (·.name)).Nodup := by
  obtain ⟨model, hv⟩ := accepts_iff.1 h
  have hnd := nodup_suffixes (accepted_of_verdict hv)
  have hmap : s.planned.map (·.name) =
      (s.plan.map fun step => groupSuffix step.1).map fun suffix => "show" ++ (s.name ++ suffix) := by
    rw [Selected.planned, List.map_map, List.map_map]
    apply List.map_congr_left
    intro step _
    exact targetMethodName_eq _ _
  rw [hmap]
  exact hnd.map fun a b he => (String.append_right_inj _).1 ((String.append_right_inj _).1 he)

/-! ### The methods of a container -/

/-- The methods planned by a processor of targets; other processors plan none. -/
def Processor.planned (p : Processor) (declarations : List Declaration) : List PlannedMethod :=
  match p with
  | targets t => t.planned declarations
  | bundles => []
  | plugin _ => []

/-- Whether the names of two classes fall together once the suffixes of planned methods are appended. -/
def Processor.collides (p : Processor) (declarations : List Declaration) : Prop :=
  ∃ a ∈ p.planned declarations, ∃ b ∈ p.planned declarations,
    a.target.name ≠ b.target.name ∧ a.target.name ++ groupSuffix a.group = b.target.name ++ groupSuffix b.group

private theorem planned_name_eq_iff (a b : PlannedMethod) :
    a.name = b.name ↔ a.target.name ++ groupSuffix a.group = b.target.name ++ groupSuffix b.group := by
  unfold PlannedMethod.name
  rw [targetMethodName_eq, targetMethodName_eq, String.append_right_inj]

theorem target_of_mem_planned {s : Selected} {a : PlannedMethod} (h : a ∈ s.planned) : a.target = s := by
  obtain ⟨step, -, rfl⟩ := List.mem_map.1 h
  rfl

theorem mem_planned {t : TargetKind} {ds : List Declaration} {a : PlannedMethod} :
    a ∈ t.planned ds ↔ a.target ∈ t.accepted ds ∧ a ∈ a.target.planned := by
  rw [TargetKind.planned, List.mem_flatMap]
  constructor
  · rintro ⟨s, hs, ha⟩
    rw [target_of_mem_planned ha]
    exact ⟨hs, ha⟩
  · rintro ⟨hs, ha⟩
    exact ⟨_, hs, ha⟩

private theorem nodup_planned_iff (t : TargetKind) (ds : List Declaration) :
    ((t.planned ds).map (·.name)).Nodup ↔ ¬(Processor.targets t).collides ds := by
  have hnames : (t.accepted ds).Pairwise fun a b => a.name < b.name :=
    (pairwise_name_select ds t.marker).sublist List.filter_sublist
  rw [TargetKind.planned, List.map_flatMap, List.nodup_flatMap]
  constructor
  · rintro ⟨-, hdisjoint⟩ ⟨a, ha, b, hb, hne, he⟩
    obtain ⟨has, hap⟩ := mem_planned.1 ha
    obtain ⟨hbs, hbp⟩ := mem_planned.1 hb
    have hsymm : Std.Symm (Function.onFun List.Disjoint fun s : Selected => s.planned.map (·.name)) :=
      ⟨fun _ _ h => h.symm⟩
    have := hdisjoint.forall has hbs (fun h => hne (by rw [h]))
    exact this (List.mem_map_of_mem hap) ((planned_name_eq_iff a b).2 he ▸ List.mem_map_of_mem hbp)
  · intro hfree
    constructor
    · intro s hs
      exact nodup_planned_names (List.mem_filter.1 hs).2
    · refine List.Pairwise.imp_of_mem ?_ hnames
      intro s s' hs hs' hlt name hm hm'
      obtain ⟨a, ha, rfl⟩ := List.mem_map.1 hm
      obtain ⟨b, hb, he⟩ := List.mem_map.1 hm'
      obtain rfl := target_of_mem_planned ha
      obtain rfl := target_of_mem_planned hb
      exact hfree ⟨a, mem_planned.2 ⟨hs, ha⟩, b, mem_planned.2 ⟨hs', hb⟩, hlt.ne, (planned_name_eq_iff a b).1 he.symm⟩

private theorem names_accessors (mapping any : String) (table : ImportTable) (models : List Selected) :
    (accessors mapping any table models).1.map (·.name) = models.map fun s => accessorName s.name := by
  induction models generalizing table with
  | nil => rfl
  | cons s rest ih => simp [accessors, accessor, ih]

/-- The models have different names. -/
theorem nodup_name_bundleModels (ds : List Declaration) : ((bundleModels ds).1.map (·.name)).Nodup :=
  (nodup_name_select ds bundleMarker).sublist (List.filter_sublist.map _)

/-- The accessors of different models have different names. -/
theorem nodup_accessorName_bundleModels (ds : List Declaration) :
    ((bundleModels ds).1.map fun s => accessorName s.name).Nodup := by
  have hnames := (nodup_name_bundleModels ds).map (f := accessorName) fun a b he => (String.append_right_inj _).1 he
  rwa [List.map_map] at hnames

private theorem nodup_accessors (mapping any : String) (table : ImportTable) (ds : List Declaration) :
    ((accessors mapping any table (bundleModels ds).1).1.map (·.name)).Nodup := by
  rw [names_accessors]
  exact nodup_accessorName_bundleModels ds

/-- The methods of a container have different names exactly if no class names fall together. -/
theorem nodup_methodNames_iff {p : Processor} {declarations : List Declaration} {containerName : String}
    {c : Container} (h : (p.container declarations containerName).result = .ok c) :
    c.methodNames.Nodup ↔ ¬p.collides declarations := by
  cases p with
  | targets t =>
    have hnames : c.methodNames = (t.planned declarations).map (·.name) := by
      rw [Container.methodNames, ← List.forall₂_eq_eq_eq, List.forall₂_map_left_iff, List.forall₂_map_right_iff]
      exact (forall₂_methods h).flip.imp fun m a hm => hm.name_eq
    rw [hnames]
    exact nodup_planned_iff t declarations
  | bundles =>
    obtain rfl : _ = c := Except.ok.inj h
    refine iff_of_true (nodup_accessors _ _ _ _) ?_
    rintro ⟨a, ha, -⟩
    cases ha
  | plugin plug =>
    obtain rfl : _ = c := Except.ok.inj h
    refine iff_of_true List.nodup_nil ?_
    rintro ⟨a, ha, -⟩
    cases ha

/-- A screen with parameters for the group of cards. -/
def cardPayment : Declaration where
  name := "Pay"
  namespaceName := "app.screens"
  markers :=
    [⟨activityMarker, [], 3, []⟩,
      ⟨parameterMarker, [("key", .text "userId"), ("type", .typeRef ⟨"builtins", "str"⟩), ("group", .text "card")], 4, []⟩]
  path := some "app/screens.py"
  line := 3

/-- A screen whose name ends as the methods of `cardPayment` do. -/
def paymentForCard : Declaration where
  name := "PayForCard"
  namespaceName := "app.screens"
  markers := [⟨activityMarker, [], 9, []⟩]
  path := some "app/screens.py"
  line := 9

theorem nodup_methodNames_cardPayment :
    ∃ c, ((Processor.targets activityTargets).container [cardPayment] "ActivityTargets").result = .ok c ∧
      c.methodNames = ["showPayForCard"] ∧
      (c.methodNames.Nodup ↔ ¬(Processor.targets activityTargets).collides [cardPayment]) := by
  have hrun : (((Processor.targets activityTargets).container [cardPayment] "ActivityTargets").result.toOption.map
      (·.methodNames)) = some ["showPayForCard"] := by decide +kernel
  cases hc : ((Processor.targets activityTargets).container [cardPayment] "ActivityTargets").result with
  | error limit =>
    rw [hc] at hrun
    cases hrun
  | ok c =>
    rw [hc] at hrun
    exact ⟨c, rfl, Option.some.inj hrun, nodup_methodNames_iff hc⟩

/-- The names of a container need not be distinct. -/
theorem exists_equal_methodNames :
    ¬∀ p ∈ builtinProcessors.map (·.2), ∀ (declarations : List Declaration) (containerName : String) (c : Container),
      (p.container declarations containerName).result = .ok c → c.methodNames.Nodup := by
  intro hall
  have hrun : (((Processor.targets activityTargets).container [cardPayment, paymentForCard]
      "ActivityTargets").result.toOption.map (·.methodNames)) = some ["showPayForCard", "showPayForCard"] := by
    decide +kernel
  have hmem : Processor.targets activityTargets ∈ builtinProcessors.map (·.2) := by decide
  cases hc : ((Processor.targets activityTargets).container [cardPayment, paymentForCard] "ActivityTargets").result with
  | error limit =>
    rw [hc] at hrun
    cases hrun
  | ok c =>
    have hnd := hall _ hmem _ _ _ hc
    rw [hc] at hrun
    rw [show c.methodNames = _ from Option.some.inj hrun] at hnd
    exact absurd hnd (by decide)

end NavFactory
