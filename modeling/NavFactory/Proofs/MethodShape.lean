import NavFactory.Proofs.ArgumentNames
import NavFactory.Proofs.TypeNames

/-!
# The shape of a generated method

All methods of a class are put together from the same names of types and the same attributes, whatever the imports were
before (`methodsFor_assembled`).  A method takes an argument for each of its entries, those that must be given before
those that may be left out, and collects them in the order of the entries in a list, which goes to the descriptor that it
returns (`methodsFor_collects`).  The arguments differ from each other and from all that the body refers to
(`methodsFor_separates`).
-/

namespace NavFactory

/-! ### Signatures -/

private theorem signatureParts_of_positional {parameters : List Parameter} (starred : Bool) (rest : List Parameter)
    (h : ∀ q ∈ parameters, q.keywordOnly = false) :
    signatureParts starred (parameters ++ rest) = parameters.map (·.text) ++ signatureParts starred rest := by
  induction parameters with
  | nil => rfl
  | cons q others ih =>
    obtain ⟨hq, hothers⟩ := List.forall_mem_cons.1 h
    simp [signatureParts, hq, ih hothers]

private theorem signatureParts_starred (parameters : List Parameter) :
    signatureParts true parameters = parameters.map (·.text) := by
  induction parameters with
  | nil => rfl
  | cons q others ih => simp [signatureParts, ih]

/-- In a signature the star stands between the arguments that are passed by position and those that are not, if there are
any of these. -/
theorem signatureParts_append {positional keyword : List Parameter}
    (hpositional : ∀ q ∈ positional, q.keywordOnly = false) (hkeyword : ∀ q ∈ keyword, q.keywordOnly = true) :
    signatureParts false (positional ++ keyword) =
      positional.map (·.text) ++ if keyword = [] then [] else "*" :: keyword.map (·.text) := by
  rw [signatureParts_of_positional false keyword hpositional]
  cases keyword with
  | nil => rfl
  | cons q others =>
    rw [if_neg (List.cons_ne_nil q others), signatureParts, hkeyword q List.mem_cons_self]
    simp [signatureParts_starred]

/-! ### Methods of one class -/

namespace TargetKind

/-- The names by which the methods of a class refer to the types that all of them use. -/
def bodyNames (t : TargetKind) (nameOf : TypeRef → String) (s : Selected) : BodyNames :=
  ⟨nameOf s.typeRef, nameOf providerType, nameOf listType, nameOf t.descriptor⟩

end TargetKind

namespace PlannedMethod

variable (p : PlannedMethod) (nameOf : TypeRef → String) (arguments : List String)

/-- The arguments that must be given, in the order of their entries. -/
def required : List Parameter :=
  ((p.entries.zip arguments).filter (!·.1.optional)).map fun (e, argument) =>
    requiredParameter (nameOf e.type) argument

/-- The arguments that may be left out, in the order of their entries. -/
def optional : List Parameter :=
  ((p.entries.zip arguments).filter (·.1.optional)).map fun (e, argument) =>
    optionalParameter (nameOf optionalType) (nameOf e.type) argument

theorem positional_of_mem_required {q : Parameter} (h : q ∈ p.required nameOf arguments) :
    q.keywordOnly = false ∧ q.default = none := by
  obtain ⟨x, -, rfl⟩ := List.mem_map.1 h
  exact ⟨rfl, rfl⟩

theorem keyword_of_mem_optional {q : Parameter} (h : q ∈ p.optional nameOf arguments) :
    q.keywordOnly = true ∧ q.default = some "None" := by
  obtain ⟨x, -, rfl⟩ := List.mem_map.1 h
  exact ⟨rfl, rfl⟩

/-- A method that collects an argument for each entry: those that may be left out come last and are passed by keyword,
and the list of all of them, in the order of the entries, is made before anything is returned. -/
structure Collects (names : BodyNames) (returned : String) (m : Method) : Prop where
  length_arguments : arguments.length = p.entries.length
  parameters_eq : m.parameters = p.required nameOf arguments ++ p.optional nameOf arguments
  required_positional : ∀ q ∈ p.required nameOf arguments, q.keywordOnly = false ∧ q.default = none
  optional_keyword : ∀ q ∈ p.optional nameOf arguments, q.keywordOnly = true ∧ q.default = some "None"
  signature_eq : m.signature = ", ".intercalate ((p.required nameOf arguments).map (·.text) ++
    if p.optional nameOf arguments = [] then [] else "*" :: (p.optional nameOf arguments).map (·.text))
  statements_eq : m.statements = allocateStatement names ::
    ((p.entries.zip arguments).map fun (e, argument) => appendStatement names e (nameOf e.type) argument) ++ [returned]
  length_statements : m.statements.length = p.entries.length + 2

/-- The names that an argument must not have, because the body of a method refers to them. -/
def referredNames (names : BodyNames) (attributes : List (String × String)) : List String :=
  [names.target, names.provider, names.list, names.descriptor] ++ (p.entries.map fun e => nameOf e.type) ++
    attributes.map fun a => headName a.2

/-- The arguments of a planned method, one for each entry. -/
def argumentNames (names : BodyNames) (attributes : List (String × String)) : List String :=
  argumentsFor (p.referredNames nameOf names attributes) (p.entries.map (·.key))

/-- A planned method with the names that a function gives to types. -/
def assembleUnder (names : BodyNames) (attributes : List (String × String)) : Method :=
  p.assemble names (p.entries.map fun e => nameOf e.type) (nameOf optionalType) attributes

variable (names : BodyNames) (attributes : List (String × String))

theorem parameters_assembleUnder :
    (p.assembleUnder nameOf names attributes).parameters =
      p.required nameOf (p.argumentNames nameOf names attributes) ++
        p.optional nameOf (p.argumentNames nameOf names attributes) := by
  simp only [assembleUnder, assemble, assignArguments_eq, List.filter_map, List.map_map]
  rfl

/-- A planned method collects an argument for each of its entries. -/
theorem collects_assembleUnder :
    p.Collects nameOf (p.argumentNames nameOf names attributes) names (returnStatement names attributes)
      (p.assembleUnder nameOf names attributes) := by
  have hlength : (p.argumentNames nameOf names attributes).length = p.entries.length := by
    rw [argumentNames, length_argumentsFor, List.length_map]
  have hstatements : (p.assembleUnder nameOf names attributes).statements = allocateStatement names ::
      ((p.entries.zip (p.argumentNames nameOf names attributes)).map fun (e, argument) =>
        appendStatement names e (nameOf e.type) argument) ++ [returnStatement names attributes] := by
    simp only [assembleUnder, assemble, assignArguments_eq, List.map_map]
    rfl
  refine ⟨hlength, p.parameters_assembleUnder nameOf names attributes, fun q => p.positional_of_mem_required nameOf _,
    fun q => p.keyword_of_mem_optional nameOf _, ?_, hstatements, ?_⟩
  · rw [Method.signature, parameters_assembleUnder, signatureParts_append
      (fun q hq => (p.positional_of_mem_required nameOf _ hq).1) fun q hq => (p.keyword_of_mem_optional nameOf _ hq).1]
  · rw [hstatements]
    simp [hlength]

end PlannedMethod

theorem methodUnder_eq (t : TargetKind) (nameOf : TypeRef → String) (p : PlannedMethod) :
    t.methodUnder nameOf p = (attributeTextsUnder nameOf p.target.usage t.attributes).map
      (p.assembleUnder nameOf (t.bodyNames nameOf p.target)) := rfl

section Methods

variable {t : TargetKind} {s : Selected}

/-- The methods of an accepted class are put together with the names of the table that they leave, or they cannot be made
because some attribute has too many digits. -/
theorem methodsFor_assembled (h : t.accepts s) (table : ImportTable) :
    (∃ after attributes, attributeTextsUnder after.nameOf s.usage t.attributes = .ok attributes ∧
      (methodsFor t s table).result =
        .ok (s.planned.map fun p => p.assembleUnder after.nameOf (t.bodyNames after.nameOf s) attributes, after)) ∨
    ((methodsFor t s table).result = .error .exceeded ∧ ∃ a ∈ t.attributes, a.exceedsLimit s.usage) := by
  obtain ⟨model, hv⟩ := accepts_iff.1 h
  have hresult : (methodsFor t s table).result = t.build table s.planned := by
    rcases methodsFor_cases t s table with ⟨limit, hv', -⟩ | ⟨errors, hv', -⟩ | ⟨model', -, hm⟩
    · rw [hv] at hv'
      cases hv'
    · rw [hv] at hv'
      cases hv'
    · rw [hm]
  rw [hresult]
  rcases hb : t.build table s.planned with limit | ⟨methods, after⟩
  · cases limit
    obtain ⟨p, hp, a, ha, hx⟩ := build_error_iff.1 hb
    obtain ⟨step, -, rfl⟩ := List.mem_map.1 hp
    exact Or.inr ⟨rfl, a, ha, hx⟩
  · have hmethods := (build_names hb).2 after (.refl after)
    rw [Selected.planned, List.forall₂_map_left_iff] at hmethods
    cases hattributes : attributeTextsUnder after.nameOf s.usage t.attributes with
    | error limit =>
      -- an accepted class has a method, so that its attributes have texts
      obtain ⟨step, rest, hplan⟩ := List.exists_cons_of_ne_nil (accepted_of_verdict hv).plan_ne_nil
      rw [hplan] at hmethods
      obtain ⟨m, -, hm, -, -⟩ := List.forall₂_cons_left_iff.1 hmethods
      simp [methodUnder_eq, hattributes, Except.map] at hm
    | ok attributes =>
      refine Or.inl ⟨after, attributes, hattributes, ?_⟩
      rw [Except.ok.injEq, Prod.mk.injEq, Selected.planned, List.map_map, ← List.forall₂_eq_eq_eq,
        List.forall₂_map_right_iff]
      refine ⟨hmethods.flip.imp fun m step hm => ?_, rfl⟩
      change t.methodUnder after.nameOf ⟨s, step.1, step.2⟩ = .ok m at hm
      rw [methodUnder_eq, hattributes] at hm
      exact (Except.ok.inj hm).symm

/-- Each method of an accepted class collects an argument for each of its entries, and all of them return the same
descriptor; they cannot be made only if some attribute has too many digits. -/
theorem methodsFor_collects (h : t.accepts s) (table : ImportTable) :
    match (methodsFor t s table).result with
    | .ok (methods, after) => ∃ attributes, attributeTextsUnder after.nameOf s.usage t.attributes = .ok attributes ∧
        List.Forall₂ (fun p m => ∃ arguments, p.Collects after.nameOf arguments (t.bodyNames after.nameOf s)
          (returnStatement (t.bodyNames after.nameOf s) attributes) m) s.planned methods
    | .error _ => ∃ a ∈ t.attributes, a.exceedsLimit s.usage := by
  rcases methodsFor_assembled h table with ⟨after, attributes, hattributes, hr⟩ | ⟨hr, hexceeds⟩
  · rw [hr]
    refine ⟨attributes, hattributes, ?_⟩
    rw [List.forall₂_map_right_iff, List.forall₂_same]
    exact fun p _ => ⟨_, p.collects_assembleUnder _ _ attributes⟩
  · rw [hr]
    exact hexceeds

/-- A screen whose arguments are declared in another order than they are passed. -/
def transfer : Selected where
  declaration :=
    { name := "Transfer"
      namespaceName := "app.screens"
      markers :=
        [⟨activityMarker, [], 3, []⟩,
          ⟨parameterMarker, [("key", .text "note"), ("type", .typeRef ⟨builtinModule, "str"⟩), ("optional", .bool true),
            ("group", .tuple [.text defaultGroup, .text "iban"])], 4, []⟩,
          ⟨parameterMarker, [("key", .text "amount"), ("type", .typeRef ⟨"app.money", "Amount"⟩)], 5, []⟩] }
  usage := ⟨activityMarker, [], 3, []⟩

theorem methodsFor_collects_transfer :
    ∃ methods after attributes, (methodsFor activityTargets transfer {}).result = .ok (methods, after) ∧
      methods.map (·.signature) = ["amount: Amount, *, note: Optional[str] = None", "*, note: Optional[str] = None"] ∧
      List.Forall₂ (fun p m => ∃ arguments, p.Collects after.nameOf arguments
        (activityTargets.bodyNames after.nameOf transfer)
        (returnStatement (activityTargets.bodyNames after.nameOf transfer) attributes) m) transfer.planned methods := by
  have hrun : (methodsFor activityTargets transfer {}).result.toOption.map (fun r => r.1.map (·.signature)) =
      some ["amount: Amount, *, note: Optional[str] = None", "*, note: Optional[str] = None"] := by
    decide +kernel
  obtain ⟨⟨methods, after⟩, hr, hsignatures⟩ := map_toOption_eq_some_iff.1 hrun
  -- the class has a name, so that its methods are not computed here
  obtain ⟨s, hs⟩ : ∃ s, s = transfer := ⟨_, rfl⟩
  have hcollects := methodsFor_collects (t := activityTargets) (s := s) (by rw [hs]; decide +kernel) {}
  rw [hs, hr] at hcollects
  obtain ⟨attributes, -, hcollects⟩ := hcollects
  exact ⟨methods, after, attributes, hr, hsignatures, hcollects⟩

end Methods

/-! ### Arguments and the names around them -/

namespace PlannedMethod

variable {p : PlannedMethod} {nameOf : TypeRef → String} {arguments : List String}

/-- The arguments of a method in the order of its signature are a rearrangement of them. -/
theorem perm_names (h : arguments.length = p.entries.length) :
    ((p.required nameOf arguments ++ p.optional nameOf arguments).map (·.name)).Perm arguments := by
  have hrequired : (p.required nameOf arguments).map (·.name) =
      ((p.entries.zip arguments).filter (!·.1.optional)).map (·.2) := by
    rw [required, List.map_map]
    rfl
  have hoptional : (p.optional nameOf arguments).map (·.name) =
      ((p.entries.zip arguments).filter (·.1.optional)).map (·.2) := by
    rw [optional, List.map_map]
    rfl
  calc (p.required nameOf arguments ++ p.optional nameOf arguments).map (·.name)
    _ = ((p.entries.zip arguments).filter (!·.1.optional) ++ (p.entries.zip arguments).filter (·.1.optional)).map
        (·.2) := by rw [List.map_append, List.map_append, hrequired, hoptional]
    List.Perm _ ((p.entries.zip arguments).map (·.2)) :=
      (List.perm_append_comm.trans (List.filter_append_perm _ _)).map _
    _ = arguments := List.map_snd_zip h.le

/-- Arguments for entries that stand for nothing else in the body of a method: they are different, no reserved words and
none of the names that the body refers to; only underscores are added to the names that keys have alone. -/
structure Separates (p : PlannedMethod) (nameOf : TypeRef → String) (names : BodyNames)
    (attributes : List (String × String)) (arguments : List String) : Prop where
  nodup : arguments.Nodup
  free : ∀ x ∈ arguments, ¬Text.isReserved x ∧ x ≠ parameterList ∧ x ∉ p.referredNames nameOf names attributes
  forall₂_entries : List.Forall₂ (fun e argument => ∃ n, argument = underscored (argumentName e.key []) n) p.entries
    arguments

theorem separates_argumentNames (p : PlannedMethod) (nameOf : TypeRef → String) (names : BodyNames)
    (attributes : List (String × String)) :
    p.Separates nameOf names attributes (p.argumentNames nameOf names attributes) where
  nodup := nodup_argumentsFor
  free _ hx := isBlockedArgument_eq_false_iff.1 (free_of_mem_argumentsFor hx)
  forall₂_entries := List.forall₂_map_left_iff.1 forall₂_argumentsFor

end PlannedMethod

section Methods

variable {t : TargetKind} {s : Selected}

/-- In the methods of an accepted class no argument stands for anything else. -/
theorem methodsFor_separates (h : t.accepts s) (table : ImportTable) :
    match (methodsFor t s table).result with
    | .ok (methods, after) => ∃ attributes, attributeTextsUnder after.nameOf s.usage t.attributes = .ok attributes ∧
        List.Forall₂ (fun p m => ∃ arguments,
          p.Collects after.nameOf arguments (t.bodyNames after.nameOf s)
            (returnStatement (t.bodyNames after.nameOf s) attributes) m ∧
          (m.parameters.map (·.name)).Perm arguments ∧
          p.Separates after.nameOf (t.bodyNames after.nameOf s) attributes arguments) s.planned methods
    | .error _ => ∃ a ∈ t.attributes, a.exceedsLimit s.usage := by
  rcases methodsFor_assembled h table with ⟨after, attributes, hattributes, hr⟩ | ⟨hr, hexceeds⟩
  · rw [hr]
    refine ⟨attributes, hattributes, ?_⟩
    rw [List.forall₂_map_right_iff, List.forall₂_same]
    intro p _
    have hcollects := p.collects_assembleUnder after.nameOf (t.bodyNames after.nameOf s) attributes
    refine ⟨_, hcollects, ?_, p.separates_argumentNames _ _ attributes⟩
    rw [hcollects.parameters_eq]
    exact PlannedMethod.perm_names hcollects.length_arguments
  · rw [hr]
    exact hexceeds

/-- A part whose keys are the names of two types, a reserved word and the list of the providers. -/
def crowdedPart : Selected where
  declaration :=
    { name := "Crowded"
      namespaceName := "app.parts"
      markers :=
        [⟨fragmentMarker, [], 3, []⟩] ++
          ["str", "str_", "FragmentState", "class", parameterList].map fun key =>
            ⟨parameterMarker, [("key", .text key), ("type", .typeRef ⟨builtinModule, "str"⟩)], 4, []⟩ }
  usage := ⟨fragmentMarker, [], 3, []⟩

theorem methodsFor_separates_crowdedPart :
    ∃ methods after attributes, (methodsFor fragmentTargets crowdedPart {}).result = .ok (methods, after) ∧
      methods.map (·.parameters.map (·.name)) = [["str_", "str__", "FragmentState_", "class_", "parameter_list_"]] ∧
      List.Forall₂ (fun p m => ∃ arguments, (m.parameters.map (·.name)).Perm arguments ∧
        p.Separates after.nameOf (fragmentTargets.bodyNames after.nameOf crowdedPart) attributes arguments)
        crowdedPart.planned methods := by
  have hrun : (methodsFor fragmentTargets crowdedPart {}).result.toOption.map
      (fun r => r.1.map (·.parameters.map (·.name))) =
        some [["str_", "str__", "FragmentState_", "class_", "parameter_list_"]] := by
    decide +kernel
  obtain ⟨⟨methods, after⟩, hr, hnames⟩ := map_toOption_eq_some_iff.1 hrun
  obtain ⟨s, hs⟩ : ∃ s, s = crowdedPart := ⟨_, rfl⟩
  have hseparates := methodsFor_separates (t := fragmentTargets) (s := s) (by rw [hs]; decide +kernel) {}
  rw [hs, hr] at hseparates
  obtain ⟨attributes, -, hseparates⟩ := hseparates
  exact ⟨methods, after, attributes, hr, hnames, hseparates.imp fun _ _ ⟨arguments, _, h⟩ => ⟨arguments, h⟩⟩

end Methods

end NavFactory
