import Mathlib.Algebra.Group.Int.Defs
import NavFactory.Processor
import NavFactory.Proofs.Emission
import NavFactory.Proofs.Reading

/-!
# No declaration is lost

Each marked declaration either contributes methods to the container of a processor or has an error reported against
it, never both and never neither (`Processor.AccountsFor`).  The only exception is a value with too many digits, which
ends the round instead: then the class that has it does neither (`accountsFor_iff`).  Declarations whose parameters
nothing takes are warned about when they are read, and no others (`warnings_readDeclarations`).
-/

namespace NavFactory

/-- Where a declaration stands. -/
def Declaration.place (d : Declaration) : Option String × Nat := (d.path, d.line)

/-- Whether a diagnostic is an error at the place of a declaration. -/
def Diagnostic.blames (e : Diagnostic) (d : Declaration) : Prop := e.isError ∧ e.path = d.path ∧ e.line = d.line

instance (e : Diagnostic) (d : Declaration) : Decidable (e.blames d) := inferInstanceAs (Decidable (_ ∧ _))

/-- The methods of several selected classes, each with the class that it is made for. -/
def TargetKind.contributions (t : TargetKind) (table : ImportTable) :
    List Selected → Except Value.DigitLimit (List (Declaration × Method))
  | [] => .ok []
  | s :: rest => do
    let (methods, table) ← (methodsFor t s table).result
    let others ← t.contributions table rest
    .ok (methods.map (s.declaration, ·) ++ others)

namespace Processor

/-- The methods of the container that a processor makes, each with the class that it is made for. -/
def contributions (p : Processor) (declarations : List Declaration) (containerName : String) :
    List (Declaration × Method) :=
  match p with
  | targets t =>
    (t.contributions (targetImports t containerName) (select declarations t.marker).1).toOption.getD []
  | bundles =>
    ((bundleModels declarations).1.map (·.declaration)).zip
      ((bundleContainer declarations containerName).result.toOption.elim [] (·.methods))
  | plugin _ => []

/-- Whether each declaration with the marker of a processor either contributes a method or has an error. -/
def AccountsFor (p : Processor) (declarations : List Declaration) (containerName : String) : Prop :=
  ∀ d ∈ declarations, d.carries p.marker →
    Xor (∃ m, (d, m) ∈ p.contributions declarations containerName)
      (∃ e ∈ (p.container declarations containerName).diagnostics, e.blames d)

/-- Whether a value with too many digits has to be written: that of an attribute of an accepted class, or one that its
attribute does not take. -/
def overflows (p : Processor) (declarations : List Declaration) : Prop :=
  match p with
  | targets t =>
    ∃ s ∈ (select declarations t.marker).1, ∃ a ∈ t.attributes,
      a.exceedsLimit s.usage ∧ (a.kind.accepts (a.valueIn s.usage) → t.accepts s)
  | _ => False

end Processor

/-! ### Contributions -/

private theorem snd_contributions (t : TargetKind) (table : ImportTable) (records : List Selected) :
    (t.contributions table records).map (·.map (·.2)) = (methodsForAll t table records).result.map (·.1) := by
  induction records generalizing table with
  | nil => rfl
  | cons s rest ih =>
    simp only [TargetKind.contributions, methodsForAll, Report.bind_eq]
    rcases methodsFor t s table with ⟨diagnostics, limit | ⟨methods, table⟩⟩
    · rfl
    · rw [Report.andThen_ok, Report.result_andThen_pure]
      have ih := ih table
      simp only [bind, Except.bind]
      rcases hc : t.contributions table rest with limit | others <;>
        rcases hr : (methodsForAll t table rest).result with limit' | ⟨others', table'⟩ <;>
        rw [hc, hr] at ih
      · cases ih
        rfl
      · cases ih
      · cases ih
      · cases ih
        simp [Except.map]

private theorem methodsFor_ne_nil_iff {t : TargetKind} {s : Selected} {table table' : ImportTable}
    {methods : List Method} (h : (methodsFor t s table).result = .ok (methods, table')) :
    methods ≠ [] ↔ t.accepts s := by
  rcases methodsFor_cases t s table with ⟨limit, hv, hf⟩ | ⟨errors, hv, hf⟩ | ⟨model, hv, hf⟩
  · rw [hf] at h
    cases h
  · rw [hf] at h
    cases h
    simp [TargetKind.accepts, hv]
  · rw [hf] at h
    have hlength : s.planned.length = methods.length := (forall₂_build h).length_eq
    have hplan : s.plan ≠ [] := (accepted_of_verdict hv).plan_ne_nil
    refine iff_of_true ?_ (accepts_iff.2 ⟨model, hv⟩)
    rw [Selected.planned, List.length_map] at hlength
    rw [← List.length_pos_iff] at hplan ⊢
    omega

private theorem exists_contribution_iff {t : TargetKind} {table : ImportTable} {records : List Selected}
    {contributions : List (Declaration × Method)} (h : t.contributions table records = .ok contributions)
    (d : Declaration) :
    (∃ m, (d, m) ∈ contributions) ↔ ∃ s ∈ records, s.declaration = d ∧ t.accepts s := by
  induction records generalizing table contributions with
  | nil =>
    cases h
    simp
  | cons s rest ih =>
    rw [TargetKind.contributions, bind_eq_ok_iff] at h
    obtain ⟨⟨methods, table'⟩, hm, h⟩ := h
    obtain ⟨others, ho, h⟩ := bind_eq_ok_iff.1 h
    cases h
    have hne := methodsFor_ne_nil_iff hm
    simp only [List.mem_append, exists_or, ih ho, List.exists_mem_cons_iff, List.mem_map, Prod.mk.injEq]
    refine or_congr_left ?_
    constructor
    · rintro ⟨m, m', hm', hd, -⟩
      exact ⟨hd, hne.1 (List.ne_nil_of_mem hm')⟩
    · rintro ⟨hd, ha⟩
      obtain ⟨m, hmem⟩ := List.exists_mem_of_ne_nil _ (hne.2 ha)
      exact ⟨m, m, hmem, hd, rfl⟩

/-! ### Errors against declarations -/

private theorem Diagnostic.IsErrorOn.blames_iff {e : Diagnostic} {d d' : Declaration} (h : e.IsErrorOn d) :
    e.blames d' ↔ d.place = d'.place := by
  obtain ⟨message, rfl⟩ := h
  have hpath : (Diagnostic.errorOn d message).path = d.path := rfl
  have hline : (Diagnostic.errorOn d message).line = d.line := rfl
  have herror : (Diagnostic.errorOn d message).isError = true := rfl
  unfold Diagnostic.blames Declaration.place
  rw [hpath, hline, herror, Prod.mk.injEq, Int.natCast_inj]
  simp

section Places

variable {ds : List Declaration} {marker : String}

/-- Where places are distinct, an error against a declaration blames this declaration and no other. -/
private theorem blames_iff_eq (hnd : (ds.map (·.place)).Nodup) {e : Diagnostic} {d d' : Declaration} (hd : d ∈ ds)
    (hd' : d' ∈ ds) (he : e.IsErrorOn d) : e.blames d' ↔ d = d' := by
  rw [he.blames_iff]
  exact ⟨fun h => List.inj_on_of_nodup_map hnd hd hd' h, fun h => by rw [h]⟩

private theorem isErrorOn_notAClass (marker : String) (d : Declaration) : (notAClass marker d).IsErrorOn d := ⟨_, rfl⟩

private theorem isErrorOn_nameClash (marker : String) (first second : Selected) :
    (nameClash marker first second).IsErrorOn second.declaration := ⟨_, rfl⟩

private theorem mem_of_select {s : Selected} (hs : s ∈ (select ds marker).1) : s.declaration ∈ ds :=
  (mem_candidates.1 (mem_candidates_of_select hs)).1

/-- The selected class of a declaration is determined by it. -/
private theorem eq_of_select {s s' : Selected} (hs : s ∈ (select ds marker).1) (hs' : s' ∈ (select ds marker).1)
    (h : s.declaration = s'.declaration) : s = s' := by
  have hu := (mem_candidates.1 (mem_candidates_of_select hs)).2.2
  have hu' := (mem_candidates.1 (mem_candidates_of_select hs')).2.2
  rw [h, hu'] at hu
  obtain ⟨d, usage⟩ := s
  obtain ⟨d', usage'⟩ := s'
  obtain rfl : d = d' := h
  obtain rfl : usage' = usage := Option.some.inj hu
  rfl

/-- Each declaration with the marker is selected or has an error from the selection, but not both. -/
private theorem select_accounts (hnd : (ds.map (·.place)).Nodup) {d : Declaration} (hd : d ∈ ds)
    (hc : d.carries marker) :
    Xor (∃ s ∈ (select ds marker).1, s.declaration = d) (∃ e ∈ (select ds marker).2, e.blames d) := by
  obtain ⟨clashes, hperm, hproblems⟩ := select_split ds marker
  obtain ⟨usage, hu⟩ := Option.isSome_iff_exists.1 hc
  have hcandidate : (∃ s ∈ (candidates marker ds).1, s.declaration = d) ↔ d.kind = .classDefinition := by
    constructor
    · rintro ⟨s, hs, rfl⟩
      exact (mem_candidates.1 hs).2.1
    · intro hk
      exact ⟨⟨d, usage⟩, mem_candidates.2 ⟨hd, hk, hu⟩, rfl⟩
  have hsplit : (∃ s ∈ (candidates marker ds).1, s.declaration = d) ↔
      (∃ s ∈ (select ds marker).1, s.declaration = d) ∨ ∃ c ∈ clashes, c.2.declaration = d := by
    simp only [← hperm.mem_iff, List.mem_append, List.mem_map, or_and_right, exists_or]
    refine or_congr_right ?_
    constructor
    · rintro ⟨s, ⟨c, hc, rfl⟩, h⟩
      exact ⟨c, hc, h⟩
    · rintro ⟨c, hc, h⟩
      exact ⟨c.2, ⟨c, hc, rfl⟩, h⟩
  -- no declaration is a candidate twice, so that none is both selected and part of a clash
  have hdisjoint : ¬((∃ s ∈ (select ds marker).1, s.declaration = d) ∧ ∃ c ∈ clashes, c.2.declaration = d) := by
    rintro ⟨⟨s, hs, rfl⟩, c, hc, h⟩
    have hnodup : ((candidates marker ds).1.map (·.declaration)).Nodup := hnd.of_map.sublist (sublist_candidates _ _)
    rw [← (hperm.map _).nodup_iff, List.map_append, List.nodup_append] at hnodup
    exact hnodup.2.2 _ (List.mem_map_of_mem hs) _ (List.mem_map_of_mem (List.mem_map_of_mem hc)) h.symm
  have hblames : (∃ e ∈ (select ds marker).2, e.blames d) ↔
      d.kind ≠ .classDefinition ∨ ∃ c ∈ clashes, c.2.declaration = d := by
    simp only [hproblems, List.mem_append, or_and_right, exists_or]
    refine or_congr ?_ ?_
    · constructor
      · rintro ⟨e, he, hb⟩
        obtain ⟨d', hd', -, hk, rfl⟩ := mem_candidates_problems.1 he
        rw [blames_iff_eq hnd hd' hd (isErrorOn_notAClass _ _)] at hb
        exact hb ▸ hk
      · intro hk
        exact ⟨_, mem_candidates_problems.2 ⟨d, hd, hc, hk, rfl⟩, (isErrorOn_notAClass _ _).blames_iff.2 rfl⟩
    · have mem {c : Selected × Selected} (hc : c ∈ clashes) : c.2.declaration ∈ ds :=
        (mem_candidates.1 (hperm.mem_iff.1 (List.mem_append_right _ (List.mem_map_of_mem hc)))).1
      constructor
      · rintro ⟨e, he, hb⟩
        obtain ⟨c, hclash, rfl⟩ := List.mem_map.1 he
        exact ⟨c, hclash, (blames_iff_eq hnd (mem hclash) hd (isErrorOn_nameClash _ _ _)).1 hb⟩
      · rintro ⟨c, hclash, rfl⟩
        exact ⟨_, List.mem_map_of_mem hclash, (isErrorOn_nameClash _ _ _).blames_iff.2 rfl⟩
  rw [hblames]
  rw [hcandidate] at hsplit
  by_cases hk : d.kind = .classDefinition
  · rcases hsplit.1 hk with hs | hclash
    · exact Or.inl ⟨hs, fun h => h.elim (· hk) fun hclash => hdisjoint ⟨hs, hclash⟩⟩
    · exact Or.inr ⟨Or.inr hclash, fun hs => hdisjoint ⟨hs, hclash⟩⟩
  · exact Or.inr ⟨Or.inl hk, fun hs => hk (hsplit.2 (Or.inl hs))⟩

/-- If the selected classes that fail are those with an error after the selection, and the others contribute, then
each declaration with the marker contributes or has an error, but not both. -/
private theorem accounts_of_select (fails : Selected → Prop) (hnd : (ds.map (·.place)).Nodup) {d : Declaration}
    (hd : d ∈ ds) (hc : d.carries marker) {later : List Diagnostic} {contributes : Prop}
    (hcontributes : contributes ↔ ∃ s ∈ (select ds marker).1, s.declaration = d ∧ ¬fails s)
    (hlater : (∃ e ∈ later, e.blames d) ↔ ∃ s ∈ (select ds marker).1, s.declaration = d ∧ fails s) :
    Xor contributes (∃ e ∈ (select ds marker).2 ++ later, e.blames d) := by
  simp only [List.mem_append, or_and_right, exists_or, hlater, hcontributes]
  rcases select_accounts hnd hd hc with ⟨⟨s, hs, rfl⟩, hnone⟩ | ⟨hblamed, hnone⟩
  · have unique {P : Selected → Prop} :
        (∃ s' ∈ (select ds marker).1, s'.declaration = s.declaration ∧ P s') ↔ P s := by
      constructor
      · rintro ⟨s', hs', h, hp⟩
        exact eq_of_select hs' hs h ▸ hp
      · exact fun hp => ⟨s, hs, rfl, hp⟩
    simp only [unique, hnone, false_or]
    unfold Xor
    tauto
  · refine Or.inr ⟨Or.inl hblamed, ?_⟩
    rintro ⟨s, hs, h, -⟩
    exact hnone ⟨s, hs, h⟩

/-- A selected class has an error after the selection exactly if it is not accepted. -/
private theorem blames_verdicts {t : TargetKind} (hnd : (ds.map (·.place)).Nodup) {d : Declaration} (hd : d ∈ ds)
    (hun : ∀ s ∈ (select ds marker).1, ¬t.isUnprintable s) :
    (∃ e ∈ (select ds marker).1.flatMap fun s => (verdict t s).diagnostics s, e.blames d) ↔
      ∃ s ∈ (select ds marker).1, s.declaration = d ∧ ¬t.accepts s := by
  have verdict_blames {s : Selected} (hs : s ∈ (select ds marker).1) :
      (∃ e ∈ (verdict t s).diagnostics s, e.blames d) ↔ s.declaration = d ∧ ¬t.accepts s := by
    cases hv : verdict t s with
    | unprintable limit => exact absurd ⟨limit, hv⟩ (hun s hs)
    | rejected errors =>
      obtain ⟨hne, herrors⟩ := verdict_rejected hv
      have hacc : ¬t.accepts s := by simp [TargetKind.accepts, hv]
      constructor
      · rintro ⟨e, he, hb⟩
        exact ⟨(blames_iff_eq hnd (mem_of_select hs) hd (herrors e he)).1 hb, hacc⟩
      · rintro ⟨rfl, -⟩
        obtain ⟨e, he⟩ := List.exists_mem_of_ne_nil _ hne
        exact ⟨e, he, (herrors e he).blames_iff.2 rfl⟩
    | accepted model =>
      refine iff_of_false ?_ fun h => h.2 (accepts_iff.2 ⟨model, hv⟩)
      rintro ⟨e, he, hb, -⟩
      change e ∈ forceEmptyWarnings s model at he
      unfold forceEmptyWarnings at he
      split at he
      · rw [List.mem_singleton] at he
        subst he
        cases hb
      · cases he
  simp only [List.mem_flatMap]
  constructor
  · rintro ⟨e, ⟨s, hs, he⟩, hb⟩
    exact ⟨s, hs, (verdict_blames hs).1 ⟨e, he, hb⟩⟩
  · rintro ⟨s, hs, h⟩
    obtain ⟨e, he, hb⟩ := (verdict_blames hs).2 h
    exact ⟨e, ⟨s, hs, he⟩, hb⟩

/-- If the methods of several classes cannot be made, then one of the classes has no error. -/
private theorem exists_unblamed {t : TargetKind} {table : ImportTable} {records : List Selected}
    (hnd : (records.map (·.declaration.place)).Nodup)
    (h : (methodsForAll t table records).result = .error .exceeded) :
    ∃ s ∈ records, ∀ e ∈ (methodsForAll t table records).diagnostics, ¬e.blames s.declaration := by
  induction records generalizing table with
  | nil => cases h
  | cons s rest ih =>
    rw [List.map_cons, List.nodup_cons] at hnd
    -- a class of the rest that has no error there has none at all, since those of the head are against another place
    have step {table' : ImportTable} {first : List Diagnostic} {methods : List Method}
        (hf : methodsFor t s table = ⟨first, .ok (methods, table')⟩)
        (hfirst : ∀ e ∈ first, e.isError → e.IsErrorOn s.declaration) :
        ∃ s' ∈ s :: rest, ∀ e ∈ (methodsForAll t table (s :: rest)).diagnostics, ¬e.blames s'.declaration := by
      simp only [methodsForAll, Report.bind_eq, hf, Report.andThen_ok, Report.result_andThen_pure,
        Report.diagnostics_andThen_pure] at h ⊢
      obtain ⟨s', hs', hfree⟩ := ih hnd.2 (map_error_iff.1 h)
      refine ⟨s', List.mem_cons_of_mem _ hs', fun e he hb => ?_⟩
      rcases List.mem_append.1 he with he | he
      · have hplace := (hfirst e he hb.1).blames_iff.1 hb
        exact hnd.1 (hplace ▸ List.mem_map_of_mem hs')
      · exact hfree e he hb
    have warnings {model : ParameterGroups} : ∀ e ∈ forceEmptyWarnings s model, ¬e.isError := by
      unfold forceEmptyWarnings
      split
      · simp [forceEmptyWarning, Diagnostic.against, Diagnostic.isError]
      · simp
    rcases methodsFor_cases t s table with ⟨limit', hv, hf⟩ | ⟨errors, hv, hf⟩ | ⟨model, hv, hf⟩
    · refine ⟨s, List.mem_cons_self, ?_⟩
      simp [methodsForAll, Report.bind_eq, hf]
    · exact step hf fun e he _ => (verdict_rejected hv).2 e he
    · rcases hb : t.build table s.planned with limit' | ⟨methods, table'⟩
      · refine ⟨s, List.mem_cons_self, ?_⟩
        simp only [methodsForAll, Report.bind_eq, hf, hb, Report.andThen_error]
        exact fun e he hblames => warnings e he hblames.1
      · rw [hb] at hf
        exact step hf fun e he herror => absurd herror (warnings e he)

private theorem nodup_place_select (hnd : (ds.map (·.place)).Nodup) :
    ((select ds marker).1.map (·.declaration.place)).Nodup := by
  obtain ⟨clashes, hperm, -⟩ := select_split ds marker
  have hcandidates : ((candidates marker ds).1.map (·.declaration.place)).Nodup := by
    have := hnd.sublist ((sublist_candidates marker ds).map (·.place))
    rwa [List.map_map] at this
  rw [← (hperm.map _).nodup_iff, List.map_append] at hcandidates
  exact hcandidates.of_append_left

end Places

/-! ### Processors -/

section Processors

variable {ds : List Declaration} {containerName : String}

/-- The classes that contribute methods to a container of targets are the accepted ones. -/
theorem exists_contribution_targets {t : TargetKind} {c : Container}
    (h : (targetContainer t ds containerName).result = .ok c) (d : Declaration) :
    (∃ m, (d, m) ∈ (Processor.targets t).contributions ds containerName) ↔
      ∃ s ∈ (select ds t.marker).1, s.declaration = d ∧ t.accepts s := by
  have hrun : (methodsForAll t (targetImports t containerName) (select ds t.marker).1).result =
      .ok (c.methods, c.imports) := by
    obtain ⟨hun, methods, table, hb, rfl⟩ := targetContainer_ok_iff.1 h
    exact methodsForAll_ok_iff.2 ⟨hun, hb⟩
  have hsnd := snd_contributions t (targetImports t containerName) (select ds t.marker).1
  rw [hrun] at hsnd
  obtain ⟨contributions, hcontributions, -⟩ := map_eq_ok_iff.1 hsnd
  have hlist : (Processor.targets t).contributions ds containerName = contributions := by
    simp only [Processor.contributions, hcontributions]
    rfl
  rw [hlist]
  exact exists_contribution_iff hcontributions d

private theorem accountsFor_targets {t : TargetKind} {c : Container} (hnd : (ds.map (·.place)).Nodup)
    (h : (targetContainer t ds containerName).result = .ok c) :
    (Processor.targets t).AccountsFor ds containerName := by
  intro d hd hc
  have hdiagnostics : ((Processor.targets t).container ds containerName).diagnostics = _ :=
    diagnostics_targetContainer h
  rw [hdiagnostics]
  refine accounts_of_select (fun s => ¬t.accepts s) hnd hd hc ?_
    (blames_verdicts hnd hd (targetContainer_ok_iff.1 h).1)
  rw [exists_contribution_targets h]
  simp only [not_not]
  rfl

private theorem not_accountsFor_targets {t : TargetKind} (hnd : (ds.map (·.place)).Nodup)
    (h : (targetContainer t ds containerName).result = .error .exceeded) :
    ¬(Processor.targets t).AccountsFor ds containerName := by
  intro haccounts
  rw [targetContainer_eq, map_error_iff] at h
  obtain ⟨s, hs, hfree⟩ := exists_unblamed (nodup_place_select hnd) h
  have hcarries : s.declaration.carries t.marker := by
    rw [Declaration.carries, (mem_candidates.1 (mem_candidates_of_select hs)).2.2]
    rfl
  have hselected : ¬∃ e ∈ (select ds t.marker).2, e.blames s.declaration := by
    rcases select_accounts hnd (mem_of_select hs) hcarries with ⟨-, hnone⟩ | ⟨-, hnone⟩
    · exact hnone
    · exact absurd ⟨s, hs, rfl⟩ hnone
  rcases haccounts s.declaration (mem_of_select hs) hcarries with ⟨⟨m, hm⟩, -⟩ | ⟨⟨e, he, hb⟩, -⟩
  · have hnil : (Processor.targets t).contributions ds containerName = [] := by
      have hsnd := snd_contributions t (targetImports t containerName) (select ds t.marker).1
      rw [h] at hsnd
      have hcontributions := map_error_iff.1 hsnd
      simp only [Processor.contributions, hcontributions]
      rfl
    rw [hnil] at hm
    cases hm
  · have hdiagnostics : e ∈ (targetContainer t ds containerName).diagnostics := he
    rw [targetContainer_eq, List.mem_append] at hdiagnostics
    rcases hdiagnostics with he | he
    · exact hselected ⟨e, he, hb⟩
    · exact hfree e he hb

private theorem map_snd_zip_bundles (models : List Selected) (mapping any : String) (table : ImportTable) :
    ((models.map (·.declaration)).zip (accessors mapping any table models).1).map (·.2) =
      (accessors mapping any table models).1 ∧
    ((models.map (·.declaration)).zip (accessors mapping any table models).1).map (·.1) =
      models.map (·.declaration) := by
  induction models generalizing table with
  | nil => exact ⟨rfl, rfl⟩
  | cons s rest ih =>
    obtain ⟨hsnd, hfst⟩ := ih (table.use s.typeRef).2
    constructor
    · simp [accessors, hsnd]
    · simp [accessors, hfst]

/-- The models that contribute accessors are those whose markers have no arguments. -/
theorem exists_contribution_bundles (ds : List Declaration) (containerName : String) (d : Declaration) :
    (∃ m, (d, m) ∈ Processor.bundles.contributions ds containerName) ↔
      ∃ s ∈ (select ds bundleMarker).1, s.declaration = d ∧ ¬hasArguments s := by
  have hfst : (Processor.bundles.contributions ds containerName).map (·.1) =
      (bundleModels ds).1.map (·.declaration) := (map_snd_zip_bundles _ _ _ _).2
  have hmem : (∃ m, (d, m) ∈ Processor.bundles.contributions ds containerName) ↔
      d ∈ (Processor.bundles.contributions ds containerName).map (·.1) := by
    simp
  rw [hmem, hfst]
  simp only [bundleModels, List.mem_map, List.mem_filter, Bool.not_eq_true', Bool.not_eq_true]
  exact exists_congr fun s => by rw [and_assoc, and_comm (a := hasArguments s = false)]

private theorem accountsFor_bundles (hnd : (ds.map (·.place)).Nodup) :
    Processor.bundles.AccountsFor ds containerName := by
  intro d hd hc
  refine accounts_of_select (fun s => hasArguments s) hnd hd hc (exists_contribution_bundles ds containerName d) ?_
  constructor
  · rintro ⟨e, he, hb⟩
    obtain ⟨s, hs, rfl⟩ := List.mem_map.1 he
    obtain ⟨hs, hargs⟩ := List.mem_filter.1 hs
    have herror : (bundleArgumentError s).IsErrorOn s.declaration := ⟨_, rfl⟩
    exact ⟨s, hs, (blames_iff_eq hnd (mem_of_select hs) hd herror).1 hb, hargs⟩
  · rintro ⟨s, hs, rfl, hargs⟩
    have herror : (bundleArgumentError s).IsErrorOn s.declaration := ⟨_, rfl⟩
    exact ⟨_, List.mem_map_of_mem (List.mem_filter.2 ⟨hs, hargs⟩), herror.blames_iff.2 rfl⟩

/-- The methods that are contributed are those of the container, and none if there is no container. -/
private theorem snd_processor_contributions (p : Processor) (ds : List Declaration) (containerName : String) :
    (p.contributions ds containerName).map (·.2) =
      (p.container ds containerName).result.toOption.elim [] (·.methods) := by
  cases p with
  | targets t =>
    have hsnd := snd_contributions t (targetImports t containerName) (select ds t.marker).1
    simp only [Processor.contributions, Processor.container, targetContainer_eq]
    rcases hr : (methodsForAll t (targetImports t containerName) (select ds t.marker).1).result with limit | r
    · rw [hr] at hsnd
      obtain rfl := eq_exceeded limit
      rw [map_error_iff.1 hsnd]
      rfl
    · rw [hr] at hsnd
      obtain ⟨contributions, hcontributions, hmethods⟩ := map_eq_ok_iff.1 hsnd
      rw [hcontributions]
      exact hmethods
  | bundles => exact (map_snd_zip_bundles _ _ _ _).1
  | plugin p => rfl

end Processors

private theorem accountsFor_iff_not_overflows {p : Processor} (hp : p ∈ builtinProcessors.map (·.2))
    {ds : List Declaration} (hnd : (ds.map (·.place)).Nodup) (containerName : String) :
    p.AccountsFor ds containerName ↔ ¬p.overflows ds := by
  cases p with
  | targets t =>
    have hoverflows : (Processor.targets t).overflows ds ↔
        (targetContainer t ds containerName).result = .error .exceeded := targetContainer_error_iff.symm
    rw [hoverflows]
    constructor
    · exact fun haccounts herror => not_accountsFor_targets hnd herror haccounts
    · intro hok
      obtain ⟨c, hc⟩ := ok_iff_not_error.2 hok
      exact accountsFor_targets hnd hc
  | bundles => exact iff_of_true (accountsFor_bundles hnd) not_false
  | plugin plug => simp [builtinProcessors] at hp

/-- A built-in processor accounts for all declarations exactly if no value with too many digits has to be written; the
methods that are contributed are those of the container.  When the declarations of a project are read, the warnings
are those about declarations whose parameters nothing takes. -/
theorem accountsFor_iff {p : Processor} (hp : p ∈ builtinProcessors.map (·.2)) {ds : List Declaration}
    (hnd : (ds.map (·.place)).Nodup) (containerName : String) :
    (p.AccountsFor ds containerName ↔ ¬p.overflows ds) ∧
      (p.contributions ds containerName).map (·.2) =
        (p.container ds containerName).result.toOption.elim [] (·.methods) ∧
      ∀ (tree : Entry) (current : List String) (settings : Settings),
        (diagnosticsOf (readDeclarations tree current settings).events).filter (·.isWarning) =
          match (readDeclarations tree current settings).result with
          | .ok found => (found.filter (·.isIdle)).map idleWarning
          | .error _ => [] :=
  ⟨accountsFor_iff_not_overflows hp hnd containerName, snd_processor_contributions p ds containerName,
    warnings_readDeclarations⟩

/-- A fragment whose tag is a number, with as many digits as are too many. -/
def numberedFragment : Declaration where
  name := "Inbox"
  namespaceName := "app.screens"
  markers := [⟨fragmentMarker, [("tag", .int (10 ^ Value.maxDigits))], 3, []⟩]
  path := some "app/screens.py"
  line := 3

/-- A fragment whose tag is a text. -/
def taggedFragment : Declaration where
  name := "Outbox"
  namespaceName := "app.screens"
  markers := [⟨fragmentMarker, [("tag", .text "outbox")], 8, []⟩]
  path := some "app/screens.py"
  line := 8

theorem accountsFor_iff_fragments :
    Processor.targets fragmentTargets ∈ builtinProcessors.map (·.2) ∧
      ([numberedFragment, taggedFragment].map (·.place)).Nodup ∧
      ((Processor.targets fragmentTargets).AccountsFor [numberedFragment, taggedFragment] "FragmentTargets" ↔
        ¬(Processor.targets fragmentTargets).overflows [numberedFragment, taggedFragment]) :=
  have hp : Processor.targets fragmentTargets ∈ builtinProcessors.map (·.2) := by decide
  have hnd : ([numberedFragment, taggedFragment].map (·.place)).Nodup := by decide
  ⟨hp, hnd, (accountsFor_iff hp hnd "FragmentTargets").1⟩

/-- A fragment may neither contribute a method nor have an error. -/
theorem exists_unaccounted :
    ¬∀ p ∈ builtinProcessors.map (·.2), ∀ ds : List Declaration, (ds.map (·.place)).Nodup →
      ∀ containerName, p.AccountsFor ds containerName := by
  intro hall
  have hmem : Processor.targets fragmentTargets ∈ builtinProcessors.map (·.2) := by decide
  have hd : numberedFragment ∈ [numberedFragment] := List.mem_singleton_self _
  have hcarries : numberedFragment.carries fragmentMarker := by decide
  have hcontributions :
      (Processor.targets fragmentTargets).contributions [numberedFragment] "FragmentTargets" = [] := by
    decide +kernel
  have hdiagnostics :
      ((Processor.targets fragmentTargets).container [numberedFragment] "FragmentTargets").diagnostics = [] := by
    decide +kernel
  have hnd : ([numberedFragment].map (·.place)).Nodup := List.nodup_singleton _
  rcases hall _ hmem _ hnd "FragmentTargets" _ hd hcarries with ⟨⟨m, hm⟩, -⟩ | ⟨⟨e, he, -⟩, -⟩
  · rw [hcontributions] at hm
    cases hm
  · rw [hdiagnostics] at he
    cases he

end NavFactory
