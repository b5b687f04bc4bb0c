import NavFactory.Factory
import NavFactory.Proofs.Grouping
import NavFactory.Proofs.Selection

/-!
# Accepted classes

What becomes of a selected class does not depend on the imports: it is accepted with its parameters, it is rejected
with errors, or a value of its marker has too many digits for the error that would show it (`Verdict`).  All that
`methodsFor` does follows from the verdict (`methodsFor_eq`).  An accepted class has a method for each step of its
plan (`Selected.plan`, `methodGroups_eq_plan`), and a plan has at least one step (`plan_ne_nil`).
-/

namespace NavFactory

/-! ### Verdicts -/

/-- What becomes of a selected class. -/
inductive Verdict
  | unprintable (limit : Value.DigitLimit)
  | rejected (errors : List Diagnostic)
  | accepted (model : ParameterGroups)
deriving DecidableEq

/-- What becomes of a class that is selected for a kind of target. -/
def verdict (t : TargetKind) (s : Selected) : Verdict :=
  match targetProblems t s with
  | .error limit => .unprintable limit
  | .ok [] =>
    match readParameters s.declaration (s.usage.forceEmpty?.getD false) with
    | (none, errors) => .rejected errors
    | (some model, _) => .accepted model
  | .ok problems => .rejected (errorsOn s.declaration problems)

/-- Whether nothing is wrong with a class that is selected for a kind of target. -/
def TargetKind.accepts (t : TargetKind) (s : Selected) : Bool :=
  match verdict t s with
  | .accepted _ => true
  | _ => false

/-- The warning for an accepted class that asks in vain for a method without parameters. -/
def forceEmptyWarnings (s : Selected) (model : ParameterGroups) : List Diagnostic :=
  if model.needsEmptyMethod && !(model.entries defaultGroup).isEmpty then [forceEmptyWarning s] else []

/-- What is reported about a selected class. -/
def Verdict.diagnostics (s : Selected) : Verdict → List Diagnostic
  | unprintable _ => []
  | rejected errors => errors
  | accepted model => forceEmptyWarnings s model

theorem readParameters_fst_some {d : Declaration} {forceEmpty : Bool} {model : ParameterGroups}
    {errors : List Diagnostic} (h : readParameters d forceEmpty = (some model, errors)) :
    parameterErrors d = [] ∧ groupClashes d [] (groupedEntries d).groups = [] ∧ errors = [] ∧
      model = { groupedEntries d with needsEmptyMethod := forceEmpty || (groupedEntries d).size == 0 } := by
  unfold readParameters at h
  split at h
  · rename_i herr
    dsimp only at h
    split at h
    · rename_i hclash
      simp only [Prod.mk.injEq, Option.some.injEq] at h
      exact ⟨herr, hclash, h.2.symm, h.1.symm⟩
    · simp at h
  · simp at h

/-- The verdict on a class decides what is reported about it and which methods it has. -/
theorem methodsFor_eq (t : TargetKind) (s : Selected) (table : ImportTable) :
    methodsFor t s table = ⟨(verdict t s).diagnostics s, match verdict t s with
      | .unprintable limit => .error limit
      | .rejected _ => .ok ([], table)
      | .accepted model => buildMethods t s table (methodGroups model)⟩ := by
  unfold methodsFor verdict
  rcases targetProblems t s with limit | problems
  · rfl
  · rcases problems with _ | ⟨problem, rest⟩
    · rcases hr : readParameters s.declaration (s.usage.forceEmpty?.getD false) with ⟨_ | model, errors⟩
      · simp [Report.bind_eq, Report.lift, Report.tell, Verdict.diagnostics]
      · obtain ⟨-, -, rfl, -⟩ := readParameters_fst_some hr
        by_cases hw : (model.needsEmptyMethod && !(model.entries defaultGroup).isEmpty) = true
        · simp [Report.bind_eq, Report.lift, Report.tell, Verdict.diagnostics, forceEmptyWarnings, hw]
        · simp [Report.bind_eq, Report.lift, Report.tell, Verdict.diagnostics, forceEmptyWarnings, hw]
    · simp [Report.bind_eq, Report.lift, Report.tell, Verdict.diagnostics]

/-! ### Rejected classes -/

/-- An error against a declaration. -/
def Diagnostic.IsErrorOn (e : Diagnostic) (d : Declaration) : Prop := ∃ message, e = .errorOn d message

private theorem isErrorOn_errorsOn {d : Declaration} {problems : List String} :
    ∀ e ∈ errorsOn d problems, e.IsErrorOn d := by
  intro e he
  obtain ⟨problem, -, rfl⟩ := List.mem_map.1 he
  exact ⟨_, rfl⟩

private theorem isErrorOn_parameterErrors {d : Declaration} : ∀ e ∈ parameterErrors d, e.IsErrorOn d := by
  intro e he
  obtain ⟨usage, -, he⟩ := List.mem_flatMap.1 he
  exact isErrorOn_errorsOn e he

private theorem isErrorOn_argumentClashes {d : Declaration} {group : String} {seen : List (String × String)}
    {entries : List ParameterEntry} : ∀ e ∈ argumentClashes d group seen entries, e.IsErrorOn d := by
  induction entries generalizing seen with
  | nil => intro e he; cases he
  | cons entry rest ih =>
    intro e he
    rcases List.mem_append.1 he with he | he
    · split at he
      · cases he
      · rw [List.mem_singleton] at he
        exact ⟨_, he⟩
    · exact ih e he

private theorem isErrorOn_groupClashes {d : Declaration} {owners : List (String × String)}
    {groups : List (String × List ParameterEntry)} : ∀ e ∈ groupClashes d owners groups, e.IsErrorOn d := by
  induction groups generalizing owners with
  | nil => intro e he; cases he
  | cons bucket rest ih =>
    intro e he
    rcases List.mem_append.1 he with he | he
    · rcases List.mem_append.1 he with he | he
      · split at he
        · cases he
        · rw [List.mem_singleton] at he
          exact ⟨_, he⟩
      · exact isErrorOn_argumentClashes e he
    · exact ih e he

theorem readParameters_none {d : Declaration} {forceEmpty : Bool} {errors : List Diagnostic}
    (h : readParameters d forceEmpty = (none, errors)) : errors ≠ [] ∧ ∀ e ∈ errors, e.IsErrorOn d := by
  unfold readParameters at h
  split at h
  · dsimp only at h
    split at h
    · simp at h
    · rename_i hne
      obtain ⟨-, rfl⟩ := Prod.mk.inj h
      exact ⟨hne, isErrorOn_groupClashes⟩
  · rename_i hne
    obtain ⟨-, rfl⟩ := Prod.mk.inj h
    exact ⟨hne, isErrorOn_parameterErrors⟩

/-- A rejected class has an error, and all its errors are against it. -/
theorem verdict_rejected {t : TargetKind} {s : Selected} {errors : List Diagnostic}
    (h : verdict t s = .rejected errors) : errors ≠ [] ∧ ∀ e ∈ errors, e.IsErrorOn s.declaration := by
  unfold verdict at h
  split at h
  · cases h
  · split at h
    · rename_i hr
      cases h
      exact readParameters_none hr
    · cases h
  · rename_i problems hne _
    cases h
    refine ⟨fun he => ?_, isErrorOn_errorsOn⟩
    rw [errorsOn, List.map_eq_nil_iff] at he
    exact hne he

/-! ### Accepted classes -/

/-- The methods of an accepted class, each with its entries.  One without parameters comes first if it is asked for
or if there are no parameter markers, unless the default group has entries; then come the method of the default
group, if that has entries, and those of the other groups. -/
def Selected.plan (s : Selected) : List (Option String × List ParameterEntry) :=
  let d := s.declaration
  let bare := s.usage.forceEmpty? = some true ∨ d.usages parameterMarker = []
  (if bare ∧ d.entriesIn defaultGroup = [] then [(none, [])] else []) ++
    (if d.entriesIn defaultGroup = [] then [] else [(some defaultGroup, d.entriesIn defaultGroup)]) ++
    d.otherGroups.map fun group => (some group, d.entriesIn group)

/-- Whether an accepted class asks for a method without parameters that it cannot have. -/
def Selected.forcesInVain (s : Selected) : Prop :=
  s.usage.forceEmpty? = some true ∧ s.declaration.entriesIn defaultGroup ≠ []

instance (s : Selected) : Decidable s.forcesInVain := inferInstanceAs (Decidable (_ ∧ _))

/-- Nothing is wrong with the markers of an accepted class, and its model holds the entries of its markers. -/
structure Accepted (t : TargetKind) (s : Selected) (model : ParameterGroups) : Prop where
  targetProblems_eq : targetProblems t s = .ok []
  parameterErrors_eq : parameterErrors s.declaration = []
  groupClashes_eq : groupClashes s.declaration [] (groupedEntries s.declaration).groups = []
  model_eq : model = { groupedEntries s.declaration with
    needsEmptyMethod := s.usage.forceEmpty?.getD false || (groupedEntries s.declaration).size == 0 }

theorem accepted_of_verdict {t : TargetKind} {s : Selected} {model : ParameterGroups}
    (h : verdict t s = .accepted model) : Accepted t s model := by
  unfold verdict at h
  split at h
  · cases h
  · rename_i ht
    split at h
    · cases h
    · rename_i hr
      cases h
      obtain ⟨herr, hclash, -, hmodel⟩ := readParameters_fst_some hr
      exact ⟨ht, herr, hclash, hmodel⟩
  · cases h

theorem accepts_iff {t : TargetKind} {s : Selected} : t.accepts s ↔ ∃ model, verdict t s = .accepted model := by
  unfold TargetKind.accepts
  cases verdict t s <;> simp

namespace Accepted

variable {t : TargetKind} {s : Selected} {model : ParameterGroups}

theorem entries_eq (h : Accepted t s model) (group : String) :
    model.entries group = s.declaration.entriesIn group := by
  rw [h.model_eq, ← entries_groupedEntries h.parameterErrors_eq]
  rfl

theorem needsEmptyMethod_iff (h : Accepted t s model) :
    model.needsEmptyMethod = true ↔
      s.usage.forceEmpty? = some true ∨ s.declaration.usages parameterMarker = [] := by
  rw [h.model_eq, ← size_groupedEntries_eq_zero_iff h.parameterErrors_eq]
  simp only [Bool.or_eq_true, beq_iff_eq]
  cases s.usage.forceEmpty? <;> simp

/-- The methods of an accepted class follow its plan. -/
theorem methodGroups_eq (h : Accepted t s model) : methodGroups model = s.plan := by
  have hordered : model.ordered = (groupedEntries s.declaration).ordered := by
    rw [h.model_eq]
    rfl
  unfold methodGroups Selected.plan
  simp only [hordered, ordered_groupedEntries h.parameterErrors_eq, Bool.and_eq_true, h.needsEmptyMethod_iff,
    List.isEmpty_iff, h.entries_eq, List.map_append, List.map_map, List.append_assoc]
  congr 2
  split <;> rfl

/-- Whether the warning about a method without parameters is due. -/
theorem forceEmptyWarnings_eq (h : Accepted t s model) :
    forceEmptyWarnings s model =
      if s.forcesInVain then [forceEmptyWarning s] else [] := by
  unfold forceEmptyWarnings Selected.forcesInVain
  simp only [Bool.and_eq_true, h.needsEmptyMethod_iff, h.entries_eq, Bool.not_eq_true', List.isEmpty_eq_false_iff]
  congr 1
  rw [eq_iff_iff]
  constructor
  · rintro ⟨hforce | hnone, hne⟩
    · exact ⟨hforce, hne⟩
    · rw [Declaration.entriesIn, hnone] at hne
      exact absurd rfl hne
  · rintro ⟨hforce, hne⟩
    exact ⟨Or.inl hforce, hne⟩

/-- An accepted class has a method. -/
theorem plan_ne_nil (h : Accepted t s model) : s.plan ≠ [] := by
  intro hnil
  unfold Selected.plan at hnil
  simp only [List.append_eq_nil_iff, List.map_eq_nil_iff] at hnil
  obtain ⟨⟨hbare, hdefault⟩, hothers⟩ := hnil
  have hentries : s.declaration.entriesIn defaultGroup = [] := by
    by_contra hne
    rw [if_neg hne] at hdefault
    cases hdefault
  have hmarkers : s.declaration.usages parameterMarker ≠ [] := by
    intro hnone
    rw [if_pos ⟨Or.inr hnone, hentries⟩] at hbare
    cases hbare
  rw [ne_eq, ← size_groupedEntries_eq_zero_iff h.parameterErrors_eq] at hmarkers
  apply hmarkers
  -- no group is named, so that there are no buckets
  have hnames : ∀ group, group ∉ s.declaration.namedGroups := by
    intro group hg
    by_cases hd : group = defaultGroup
    · subst hd
      exact (mem_namedGroups_iff h.parameterErrors_eq _).1 hg hentries
    · have := mem_otherGroups.2 ⟨hd, hg⟩
      rw [hothers] at this
      cases this
  have hgroups : (groupedEntries s.declaration).groups = [] := by
    apply List.eq_nil_iff_forall_not_mem.2
    intro bucket hb
    exact hnames bucket.1 ((mem_groups_groupedEntries h.parameterErrors_eq bucket).1 hb).1
  simp [ParameterGroups.size, hgroups]

end Accepted

end NavFactory
