import Mathlib.Data.List.Forall2
import NavFactory.Proofs.Acceptance

/-!
# Emitted methods

The methods of a container are those planned for its accepted classes, built one after the other with one table of
imports (`targetContainer_ok`).  Making a container fails exactly if a value with too many digits has to be written:
for an attribute of an accepted class, or in the message about an attribute that does not take it
(`targetContainer_error_iff`).
-/

namespace NavFactory

/-- A method that is planned for a class: its group, if it has one, and its entries. -/
structure PlannedMethod where
  target : Selected
  group : Option String
  entries : List ParameterEntry
deriving DecidableEq

/-- The name of a planned method. -/
def PlannedMethod.name (p : PlannedMethod) : String := targetMethodName p.target.name p.group

/-- The methods planned for a class. -/
def Selected.planned (s : Selected) : List PlannedMethod := s.plan.map fun (group, entries) => ⟨s, group, entries⟩

namespace TargetKind

/-- The classes with which nothing is wrong, in increasing order of their names. -/
def accepted (t : TargetKind) (declarations : List Declaration) : List Selected :=
  (select declarations t.marker).1.filter t.accepts

/-- The methods planned for the accepted classes. -/
def planned (t : TargetKind) (declarations : List Declaration) : List PlannedMethod :=
  (t.accepted declarations).flatMap (·.planned)

/-- Builds planned methods one after the other. -/
def build (t : TargetKind) (table : ImportTable) :
    List PlannedMethod → Except Value.DigitLimit (List Method × ImportTable)
  | [] => .ok ([], table)
  | p :: rest => do
    let (method, table) ← buildMethod t p.target p.group p.entries table
    let (methods, table) ← t.build table rest
    .ok (method :: methods, table)

end TargetKind

/-! ### Runs over several methods -/

private theorem buildMethods_eq (t : TargetKind) (s : Selected) (table : ImportTable)
    (groups : List (Option String × List ParameterEntry)) :
    buildMethods t s table groups = t.build table (groups.map fun (group, entries) => ⟨s, group, entries⟩) := by
  induction groups generalizing table with
  | nil => rfl
  | cons step rest ih =>
    simp only [buildMethods, List.map_cons, TargetKind.build, ih]

/-- Building two lists of methods is building the first and then, with the table that it leaves, the second. -/
theorem TargetKind.build_append (t : TargetKind) (table : ImportTable) (first second : List PlannedMethod) :
    t.build table (first ++ second) =
      match t.build table first with
      | .error limit => .error limit
      | .ok (methods, table) => (t.build table second).map fun (others, table) => (methods ++ others, table) := by
  induction first generalizing table with
  | nil =>
    simp only [List.nil_append, build]
    cases t.build table second <;> rfl
  | cons p rest ih =>
    simp only [List.cons_append, build, ih]
    rcases buildMethod t p.target p.group p.entries table with limit | ⟨method, table⟩
    · rfl
    · simp only [bind, Except.bind]
      rcases t.build table rest with limit | ⟨methods, table⟩
      · rfl
      · dsimp only
        cases t.build table second <;> rfl

/-- Whether a value of the marker of a class has too many digits for the message about it. -/
def TargetKind.isUnprintable (t : TargetKind) (s : Selected) : Prop := ∃ limit, verdict t s = .unprintable limit

/-- The methods of a class and what is reported about it, for each verdict. -/
theorem methodsFor_cases (t : TargetKind) (s : Selected) (table : ImportTable) :
    (∃ limit, verdict t s = .unprintable limit ∧ methodsFor t s table = ⟨[], .error limit⟩) ∨
      (∃ errors, verdict t s = .rejected errors ∧ methodsFor t s table = ⟨errors, .ok ([], table)⟩) ∨
      ∃ model, verdict t s = .accepted model ∧
        methodsFor t s table = ⟨forceEmptyWarnings s model, t.build table s.planned⟩ := by
  rw [methodsFor_eq]
  cases hv : verdict t s with
  | unprintable limit => exact Or.inl ⟨limit, rfl, rfl⟩
  | rejected errors => exact Or.inr (Or.inl ⟨errors, rfl, rfl⟩)
  | accepted model =>
    refine Or.inr (Or.inr ⟨model, rfl, ?_⟩)
    have hplan : buildMethods t s table (methodGroups model) = t.build table s.planned := by
      rw [(accepted_of_verdict hv).methodGroups_eq, buildMethods_eq]
      rfl
    rw [← hplan]
    rfl

theorem bind_eq_ok_iff {ε α β : Type} {e : Except ε α} {f : α → Except ε β} {b : β} :
    (e >>= f) = .ok b ↔ ∃ a, e = .ok a ∧ f a = .ok b := by
  rcases e with fault | a <;> simp [bind, Except.bind]

theorem map_eq_ok_iff {ε α β : Type} {e : Except ε α} {f : α → β} {b : β} :
    e.map f = .ok b ↔ ∃ a, e = .ok a ∧ f a = b := by
  rcases e with fault | a <;> simp [Except.map]

theorem map_toOption_eq_some_iff {α β : Type} {e : Except Value.DigitLimit α} {f : α → β} {b : β} :
    e.toOption.map f = some b ↔ ∃ a, e = .ok a ∧ f a = b := by
  rcases e with limit | a <;> simp [Except.toOption]

/-- Methods of several classes can be made exactly if none of the classes is unprintable and the methods planned for
the accepted ones can be built. -/
theorem methodsForAll_ok_iff {t : TargetKind} {table : ImportTable} {records : List Selected}
    {r : List Method × ImportTable} :
    (methodsForAll t table records).result = .ok r ↔
      (∀ s ∈ records, ¬t.isUnprintable s) ∧
        t.build table ((records.filter t.accepts).flatMap (·.planned)) = .ok r := by
  induction records generalizing table r with
  | nil => simp [methodsForAll, TargetKind.build]
  | cons s rest ih =>
    simp only [methodsForAll, Report.bind_eq, List.forall_mem_cons]
    rcases methodsFor_cases t s table with ⟨limit, hv, h⟩ | ⟨errors, hv, h⟩ | ⟨model, hv, h⟩
    · have hun : t.isUnprintable s := ⟨limit, hv⟩
      simp [h, hun]
    · have hacc : t.accepts s = false := by simp [TargetKind.accepts, hv]
      have hun : ¬t.isUnprintable s := by simp [TargetKind.isUnprintable, hv]
      rw [h, List.filter_cons_of_neg (by simp [hacc])]
      simp only [Report.andThen_ok, Report.result_andThen_pure, List.nil_append, hun, not_false_iff, true_and, ← ih]
      rcases (methodsForAll t table rest).result with limit | r' <;> rfl
    · have hacc : t.accepts s = true := by simp [TargetKind.accepts, hv]
      have hun : ¬t.isUnprintable s := by simp [TargetKind.isUnprintable, hv]
      rw [h, List.filter_cons_of_pos hacc, List.flatMap_cons, TargetKind.build_append]
      rcases t.build table s.planned with limit | ⟨methods, table⟩
      · simp
      · simp only [Report.andThen_ok, Report.result_andThen_pure, hun, not_false_iff, true_and]
        simp only [map_eq_ok_iff, ih, and_assoc, exists_and_left]

/-- What is reported about several classes is what is reported about each. -/
theorem diagnostics_methodsForAll {t : TargetKind} {table : ImportTable} {records : List Selected}
    {r : List Method × ImportTable} (h : (methodsForAll t table records).result = .ok r) :
    (methodsForAll t table records).diagnostics = records.flatMap fun s => (verdict t s).diagnostics s := by
  induction records generalizing table r with
  | nil => rfl
  | cons s rest ih =>
    simp only [methodsForAll, Report.bind_eq, List.flatMap_cons] at h ⊢
    rcases methodsFor_cases t s table with ⟨limit, hv, hf⟩ | ⟨errors, hv, hf⟩ | ⟨model, hv, hf⟩
    · rw [hf] at h
      cases h
    · rw [hf, Report.andThen_ok, Report.result_andThen_pure, map_eq_ok_iff] at h
      obtain ⟨r', hr', -⟩ := h
      rw [hf, Report.andThen_ok, Report.diagnostics_andThen_pure, ih hr', hv]
      rfl
    · rw [hf] at h ⊢
      rcases hb : t.build table s.planned with limit | ⟨methods, table⟩
      · rw [hb] at h
        cases h
      · rw [hb, Report.andThen_ok, Report.result_andThen_pure, map_eq_ok_iff] at h
        obtain ⟨r', hr', -⟩ := h
        rw [Report.andThen_ok, Report.diagnostics_andThen_pure, ih hr', hv]
        rfl

/-! ### Values with too many digits -/

/-- Whether the value of an attribute has too many digits to be written. -/
def Attribute.exceedsLimit (a : Attribute) (usage : Usage) : Prop := (a.valueIn usage).shown = .error .exceeded

theorem eq_exceeded (limit : Value.DigitLimit) : limit = .exceeded := by cases limit; rfl

theorem ok_iff_not_error {α : Type} {e : Except Value.DigitLimit α} :
    (∃ a, e = .ok a) ↔ ¬e = .error .exceeded := by
  rcases e with limit | a
  · simp [eq_exceeded limit]
  · simp

theorem map_error_iff {ε α β : Type} {e : Except ε α} {f : α → β} {fault : ε} :
    e.map f = .error fault ↔ e = .error fault := by
  rcases e with other | a <;> simp [Except.map]

/-- If the second of two steps fails under a condition that the first has no part in, then both together fail if the
first fails or under that condition. -/
private theorem bind_error_iff {α β : Type} {e : Except Value.DigitLimit α} {f : α → Except Value.DigitLimit β}
    {Q : Prop} (hf : ∀ a, f a = .error .exceeded ↔ Q) :
    (e >>= f) = .error .exceeded ↔ e = .error .exceeded ∨ Q := by
  rcases e with limit | a
  · simp [bind, Except.bind, eq_exceeded limit]
  · simpa [bind, Except.bind] using hf a

private theorem bind_ok_error_iff {α β : Type} {e : Except Value.DigitLimit α} {f : α → β} :
    (e >>= fun a => .ok (f a)) = .error .exceeded ↔ e = .error .exceeded := by
  rw [bind_error_iff (Q := False) fun a => by simp, or_false]

private theorem attributeText_error_iff (table : ImportTable) {a : Attribute} {usage : Usage} :
    attributeText a usage table = .error .exceeded ↔ a.exceedsLimit usage := by
  unfold attributeText Attribute.exceedsLimit
  split
  · rename_i hv
    simp [hv, Value.shown]
  · exact map_error_iff

private theorem attributeTexts_error_iff {usage : Usage} {table : ImportTable} {attributes : List Attribute} :
    attributeTexts usage table attributes = .error .exceeded ↔ ∃ a ∈ attributes, a.exceedsLimit usage := by
  induction attributes generalizing table with
  | nil => simp [attributeTexts]
  | cons a rest ih =>
    rw [attributeTexts, List.exists_mem_cons_iff, ← attributeText_error_iff table]
    exact bind_error_iff fun first => bind_ok_error_iff.trans ih

private theorem attributeProblem_error_iff (marker : String) {usage : Usage} {a : Attribute} :
    attributeProblem marker usage a = .error .exceeded ↔
      a.kind.accepts (a.valueIn usage) = false ∧ a.exceedsLimit usage := by
  unfold attributeProblem Attribute.exceedsLimit
  dsimp only
  split
  · rename_i ha
    simp [ha]
  · rename_i ha
    rw [bind_ok_error_iff]
    simp [ha]

private theorem attributeProblems_error_iff (marker : String) {usage : Usage} {attributes : List Attribute} :
    attributeProblems marker usage attributes = .error .exceeded ↔
      ∃ a ∈ attributes, a.kind.accepts (a.valueIn usage) = false ∧ a.exceedsLimit usage := by
  induction attributes with
  | nil => simp [attributeProblems]
  | cons a rest ih =>
    rw [attributeProblems, List.exists_mem_cons_iff, ← attributeProblem_error_iff marker]
    exact bind_error_iff fun problems => bind_ok_error_iff.trans ih

/-- Attributes without problems have values that they take. -/
theorem attributeProblems_nil {marker : String} {usage : Usage} {attributes : List Attribute}
    (h : attributeProblems marker usage attributes = .ok []) :
    ∀ a ∈ attributes, a.kind.accepts (a.valueIn usage) = true := by
  induction attributes with
  | nil => simp
  | cons a rest ih =>
    rw [attributeProblems] at h
    obtain ⟨problems, hproblems, h⟩ := bind_eq_ok_iff.1 h
    obtain ⟨others, hothers, h⟩ := bind_eq_ok_iff.1 h
    rw [Except.ok.injEq, List.append_eq_nil_iff] at h
    obtain ⟨rfl, rfl⟩ := h
    refine List.forall_mem_cons.2 ⟨?_, ih hothers⟩
    rw [attributeProblem] at hproblems
    split_ifs at hproblems with haccepts
    · exact haccepts
    · obtain ⟨shown, -, hshown⟩ := bind_eq_ok_iff.1 hproblems
      cases hshown

/-- A class is unprintable exactly if an attribute that does not take its value has one with too many digits. -/
theorem isUnprintable_iff {t : TargetKind} {s : Selected} :
    t.isUnprintable s ↔ ∃ a ∈ t.attributes, a.kind.accepts (a.valueIn s.usage) = false ∧ a.exceedsLimit s.usage := by
  have hproblems : t.isUnprintable s ↔ targetProblems t s = .error .exceeded := by
    unfold TargetKind.isUnprintable verdict
    split
    · rename_i limit h
      exact ⟨fun _ => by rw [h, eq_exceeded limit], fun _ => ⟨limit, rfl⟩⟩
    · rename_i h
      rw [h]
      split <;> simp
    · rename_i h
      rw [h]
      simp
  rw [hproblems, ← attributeProblems_error_iff t.marker, targetProblems]
  exact bind_ok_error_iff

private theorem buildMethod_error_iff (table : ImportTable) {t : TargetKind} {s : Selected} (group : Option String)
    (entries : List ParameterEntry) :
    buildMethod t s group entries table = .error .exceeded ↔ ∃ a ∈ t.attributes, a.exceedsLimit s.usage := by
  unfold buildMethod
  exact bind_ok_error_iff.trans attributeTexts_error_iff

theorem build_error_iff {t : TargetKind} {table : ImportTable} {plan : List PlannedMethod} :
    t.build table plan = .error .exceeded ↔ ∃ p ∈ plan, ∃ a ∈ t.attributes, a.exceedsLimit p.target.usage := by
  induction plan generalizing table with
  | nil => simp [TargetKind.build]
  | cons p rest ih =>
    rw [TargetKind.build, List.exists_mem_cons_iff,
      ← buildMethod_error_iff table p.group p.entries]
    exact bind_error_iff fun first => bind_ok_error_iff.trans ih

/-! ### Containers of targets -/

/-- The method that is made for a plan: its name, and an argument and a statement for each of its entries. -/
structure TargetKind.Emits (t : TargetKind) (p : PlannedMethod) (m : Method) : Prop where
  name_eq : m.name = p.name
  docstring_eq : m.docstring = some (methodDocstring p.target.name p.group)
  body : ∃ (names : BodyNames) (optionalName : String) (attributes : List (String × String))
    (assigned : List (ParameterEntry × String × String)),
    assigned.map (·.1) = p.entries ∧
      attributes.map (·.1) = t.attributes.map (·.keyword) ∧
      m.returns = names.descriptor ∧
      m.parameters =
        ((assigned.filter (!·.1.optional)).map fun (_, typeName, argument) => requiredParameter typeName argument) ++
          ((assigned.filter (·.1.optional)).map fun (_, typeName, argument) =>
            optionalParameter optionalName typeName argument) ∧
      m.statements =
        allocateStatement names ::
          (assigned.map fun (e, typeName, argument) => appendStatement names e typeName argument) ++
          [returnStatement names attributes]

theorem length_useAll (table : ImportTable) (types : List TypeRef) :
    (table.useAll types).1.length = types.length := by
  induction types generalizing table with
  | nil => rfl
  | cons type rest ih => simp [ImportTable.useAll, ih]

theorem map_fst_assignArguments (taken : List String) (es : List (ParameterEntry × String)) :
    (assignArguments taken es).map (·.1) = es.map (·.1) := by
  induction es generalizing taken with
  | nil => rfl
  | cons e rest ih =>
    obtain ⟨entry, typeName⟩ := e
    simp [assignArguments, ih]

private theorem keywords_attributeTexts {usage : Usage} {table : ImportTable} {attributes : List Attribute}
    {texts : List (String × String)} {table' : ImportTable}
    (h : attributeTexts usage table attributes = .ok (texts, table')) :
    texts.map (·.1) = attributes.map (·.keyword) := by
  induction attributes generalizing table texts table' with
  | nil =>
    cases h
    rfl
  | cons a rest ih =>
    rw [attributeTexts, bind_eq_ok_iff] at h
    obtain ⟨first, -, h⟩ := h
    obtain ⟨others, hr, h⟩ := bind_eq_ok_iff.1 h
    cases h
    rw [List.map_cons, List.map_cons, ih hr]

private theorem emits_buildMethod {t : TargetKind} {p : PlannedMethod} {table table' : ImportTable} {m : Method}
    (h : buildMethod t p.target p.group p.entries table = .ok (m, table')) : t.Emits p m := by
  obtain ⟨attributes, ha, h⟩ := bind_eq_ok_iff.1 h
  simp only [Except.ok.injEq, Prod.mk.injEq] at h
  obtain ⟨rfl, -⟩ := h
  refine ⟨rfl, rfl, _, _, _, _, ?_, keywords_attributeTexts ha, rfl, rfl, rfl⟩
  rw [map_fst_assignArguments, List.map_fst_zip]
  rw [length_useAll, List.length_map]

/-- The methods built for a list of plans are those that the plans call for, one each and in their order. -/
theorem forall₂_build {t : TargetKind} {table table' : ImportTable} {plan : List PlannedMethod}
    {methods : List Method} (h : t.build table plan = .ok (methods, table')) :
    List.Forall₂ t.Emits plan methods := by
  induction plan generalizing table methods with
  | nil =>
    cases h
    exact List.Forall₂.nil
  | cons p rest ih =>
    rw [TargetKind.build, bind_eq_ok_iff] at h
    obtain ⟨first, hp, h⟩ := h
    obtain ⟨others, hr, h⟩ := bind_eq_ok_iff.1 h
    cases h
    exact List.Forall₂.cons (emits_buildMethod hp) (ih hr)

/-- Each accepted class has a planned method, and each planned method is one of an accepted class. -/
theorem exists_planned_iff {t : TargetKind} {ds : List Declaration} {Q : Selected → Prop} :
    (∃ p ∈ t.planned ds, Q p.target) ↔ ∃ s ∈ t.accepted ds, Q s := by
  simp only [TargetKind.planned, List.mem_flatMap, Selected.planned, List.mem_map]
  constructor
  · rintro ⟨p, ⟨s, hs, step, -, rfl⟩, hq⟩
    exact ⟨s, hs, hq⟩
  · rintro ⟨s, hs, hq⟩
    obtain ⟨model, hv⟩ := accepts_iff.1 (List.mem_filter.1 hs).2
    obtain ⟨step, hstep⟩ := List.exists_mem_of_ne_nil _ (accepted_of_verdict hv).plan_ne_nil
    exact ⟨_, ⟨s, hs, step, hstep, rfl⟩, hq⟩

section Container

variable {t : TargetKind} {ds : List Declaration} {containerName : String} {c : Container}

/-- What is made and reported for the selected classes decides about a container. -/
theorem targetContainer_eq (t : TargetKind) (ds : List Declaration) (containerName : String) :
    targetContainer t ds containerName =
      let r := methodsForAll t (targetImports t containerName) (select ds t.marker).1
      ⟨(select ds t.marker).2 ++ r.diagnostics, r.result.map fun (methods, table) =>
        ⟨t.kind, containerName, t.module, t.docstring, table, methods⟩⟩ := by
  simp only [targetContainer, Report.bind_eq, Report.tell, Report.andThen_ok, Report.result_andThen_pure,
    Report.diagnostics_andThen_pure]

/-- A container is made exactly if no selected class is unprintable and the planned methods can be built; it then has
these methods, and the imports that they leave. -/
theorem targetContainer_ok_iff :
    (targetContainer t ds containerName).result = .ok c ↔
      (∀ s ∈ (select ds t.marker).1, ¬t.isUnprintable s) ∧
        ∃ methods table, t.build (targetImports t containerName) (t.planned ds) = .ok (methods, table) ∧
          c = ⟨t.kind, containerName, t.module, t.docstring, table, methods⟩ := by
  simp only [targetContainer_eq, map_eq_ok_iff, methodsForAll_ok_iff, Prod.exists, and_assoc, exists_and_left,
    TargetKind.planned, TargetKind.accepted, @eq_comm _ c]

/-- What is reported for a container is what is reported about the selection and about each selected class. -/
theorem diagnostics_targetContainer (h : (targetContainer t ds containerName).result = .ok c) :
    (targetContainer t ds containerName).diagnostics =
      (select ds t.marker).2 ++ (select ds t.marker).1.flatMap fun s => (verdict t s).diagnostics s := by
  simp only [targetContainer_eq, map_eq_ok_iff] at h ⊢
  obtain ⟨r, hr, -⟩ := h
  rw [diagnostics_methodsForAll hr]

/-- The methods of a container are those that are planned, in their order. -/
theorem forall₂_methods (h : (targetContainer t ds containerName).result = .ok c) :
    List.Forall₂ t.Emits (t.planned ds) c.methods := by
  obtain ⟨-, methods, table, hb, rfl⟩ := targetContainer_ok_iff.1 h
  exact forall₂_build hb

/-- No container is made exactly if some value has too many digits: that of an attribute of an accepted class, or one
that its attribute does not take. -/
theorem targetContainer_error_iff :
    (targetContainer t ds containerName).result = .error .exceeded ↔
      ∃ s ∈ (select ds t.marker).1, ∃ a ∈ t.attributes,
        a.exceedsLimit s.usage ∧ (a.kind.accepts (a.valueIn s.usage) → t.accepts s) := by
  have herror : (targetContainer t ds containerName).result = .error .exceeded ↔
      (∃ s ∈ (select ds t.marker).1, t.isUnprintable s) ∨
        t.build (targetImports t containerName) (t.planned ds) = .error .exceeded := by
    rw [← not_iff_not, ← ok_iff_not_error]
    simp only [targetContainer_ok_iff]
    rw [not_or, ← ok_iff_not_error]
    push Not
    constructor
    · rintro ⟨c, hun, methods, table, hb, -⟩
      exact ⟨hun, (methods, table), hb⟩
    · rintro ⟨hun, r, hb⟩
      exact ⟨_, hun, r.1, r.2, hb, rfl⟩
  rw [herror, build_error_iff, exists_planned_iff (Q := fun s => ∃ a ∈ t.attributes, a.exceedsLimit s.usage)]
  simp only [isUnprintable_iff]
  constructor
  · rintro (⟨s, hs, a, ha, hk, hx⟩ | ⟨s, hs, a, ha, hx⟩)
    · refine ⟨s, hs, a, ha, hx, fun hk' => ?_⟩
      rw [hk] at hk'
      cases hk'
    · rw [TargetKind.accepted, List.mem_filter] at hs
      exact ⟨s, hs.1, a, ha, hx, fun _ => hs.2⟩
  · rintro ⟨s, hs, a, ha, hx, hacc⟩
    cases hk : a.kind.accepts (a.valueIn s.usage) with
    | false => exact Or.inl ⟨s, hs, a, ha, hk, hx⟩
    | true => exact Or.inr ⟨s, List.mem_filter.2 ⟨hs, hacc hk⟩, a, ha, hx⟩

end Container

end NavFactory
