import NavFactory.MarkerCall
import NavFactory.Processor
import NavFactory.Proofs.ArgumentBinding

/-!
# Markers at run time

A marker that is read from a source and accepted is called with the values of the same expressions when its module is
imported.  The call goes through and gives the class back, with one exception: a state may be spelled as a text in the
source, and the marker does not take a text for a state (`returnsClass_iff`).
-/

namespace NavFactory

open Source

/-! ### Values at run time -/

/-- The state that an expression names by its type. -/
def namedState (e : Expr) : Option FragmentState :=
  match (attributeChain e).reverse with
  | member :: type :: _ => if type == stateTypeName then FragmentState.ofName? member else none
  | _ => none

/-- The state that an expression spells as a text. -/
def spelledState (e : Expr) : Option FragmentState :=
  match e with
  | .constant _ (.text s _) => FragmentState.ofText? s
  | _ => none

theorem stateValue_eq (e : Expr) : stateValue e = match (namedState e).or (spelledState e) with
    | some m => .ok (.state m)
    | none => .error (problemWith ("expected a " ++ stateTypeName ++ " member") e) := rfl

/-- Whether an expression is a text. -/
def Source.Expr.IsText : Expr → Prop
  | .constant _ (.text ..) => True
  | _ => False

/-- The value that the argument of a given name has at run time, if it is a literal, names a state or is meant as a type;
`className` tells the classes that types are. -/
def runtimeValue (className : Expr → String) (name : String) (e : Expr) : Option Value :=
  if name == "type" then some (.classObject (className e))
  else ((if name == "state" then namedState e else none).map .state).or (literalValue e).toOption

/-- The values of several arguments. -/
def runtimeArguments (className : Expr → String) : List (String × Expr) → Option (List (String × Value))
  | [] => some []
  | (name, e) :: rest => do
    let value ← runtimeValue className name e
    some ((name, value) :: (← runtimeArguments className rest))

/-- The call that a decorator makes, if each of its arguments has a name and a value. -/
def runtimeCall (className : Expr → String) (marker : String) (positional : List Expr)
    (keywords : List (Option String × Expr)) : Option Call := do
  guard (shapeErrors marker positional keywords).isEmpty
  let byPosition ← runtimeArguments className ((positionalNames marker).zip positional)
  let byKeyword ← runtimeArguments className (keywords.filterMap fun (name, e) => name.map (·, e))
  some ⟨byPosition.map (·.2), byKeyword⟩

/-- Whether a marker gives a class back when the class is defined. -/
def ReturnsClass (className : Expr → String) (marker : String) (decorator : Expr) (name : String) : Prop :=
  match (calledWith decorator).2 with
  | none => applyBare marker (.classNamed name) [] = .ok (.applied (.classNamed name))
  | some (positional, keywords) => ∃ call, runtimeCall className marker positional keywords = some call ∧
      callMarker marker call = .ok (.decorator marker) ∧ decorate marker (.classNamed name) = .ok (.classNamed name)

/-- Whether what makes something of a marker has no objection to a use of it. -/
def Usage.IsAccepted (usage : Usage) : Prop :=
  (usage.marker = parameterMarker ∧ parameterProblems usage = []) ∨
    (usage.marker = bundleMarker ∧ ∃ d, hasArguments ⟨d, usage⟩ = false) ∨
    ∃ t ∈ [activityTargets, fragmentTargets], usage.marker = t.marker ∧ ∃ d, targetProblems t ⟨d, usage⟩ = .ok []

variable {scope : Scope} {marker name n : String} {e decorator : Expr} {errors : List String} {usage : Usage}
  {named : List (String × Expr)} {bound bound' values : List (String × Value)} {v : Value}
  {positional : List Expr} {keywords : List (Option String × Expr)} {className : Expr → String}

/-! ### What the reader and the interpreter make of an argument -/

/-- A type is a class at run time. -/
theorem runtimeValue_type (className : Expr → String) (e : Expr) :
    runtimeValue className "type" e = some (.classObject (className e)) := rfl

/-- A state is what it is called, unless it is spelled as a text, which it then is. -/
theorem runtimeValue_state (h : argumentValue scope "state" e = .ok v) (className : Expr → String) :
    ∃ m, v = .state m ∧ (¬e.IsText ∧ runtimeValue className "state" e = some (.state m) ∨
      e.IsText ∧ ∃ s, runtimeValue className "state" e = some (.text s)) := by
  have hread : stateValue e = .ok v := h
  rw [stateValue_eq] at hread
  have hruntime : runtimeValue className "state" e = ((namedState e).map .state).or (literalValue e).toOption := rfl
  rw [hruntime]
  cases hnamed : namedState e with
  | some m =>
    rw [hnamed, Option.some_or] at hread
    cases hread
    refine ⟨m, rfl, .inl ⟨?_, rfl⟩⟩
    intro htext
    cases e <;> simp_all [Source.Expr.IsText, namedState, attributeChain]
  | none =>
    rw [hnamed, Option.none_or] at hread
    cases hm : spelledState e with
    | none =>
      rw [hm] at hread
      cases hread
    | some m =>
      rw [hm] at hread
      cases hread
      unfold spelledState at hm
      split at hm
      · exact ⟨m, rfl, .inr ⟨trivial, _, rfl⟩⟩
      · cases hm

/-- Any other argument has the value that is read. -/
theorem runtimeValue_literal (htype : n ≠ "type") (hstate : n ≠ "state") (h : argumentValue scope n e = .ok v)
    (className : Expr → String) : runtimeValue className n e = some v := by
  rw [argumentValue, if_neg (by simpa using htype), if_neg (by simpa using hstate)] at h
  rw [runtimeValue, if_neg (by simpa using htype), if_neg (by simpa using hstate), Option.map_none, Option.none_or]
  cases hv : literalValue e with
  | ok w =>
    rw [hv] at h
    cases h
    rfl
  | error f =>
    rw [hv] at h
    cases f <;> cases h

theorem runtimeArguments_eq_some_iff : runtimeArguments className named = some values ↔
    List.Forall₂ (fun a b => b.1 = a.1 ∧ runtimeValue className a.1 a.2 = some b.2) named values := by
  induction named generalizing values with
  | nil => rw [runtimeArguments, List.forall₂_nil_left_iff, Option.some.injEq, eq_comm]
  | cons argument rest ih =>
    obtain ⟨n, e⟩ := argument
    rw [runtimeArguments, List.forall₂_cons_left_iff]
    constructor
    · intro h
      obtain ⟨v, hv, h⟩ := Option.bind_eq_some_iff.1 h
      obtain ⟨others, hothers, h⟩ := Option.bind_eq_some_iff.1 h
      cases h
      exact ⟨(n, v), others, ⟨rfl, hv⟩, ih.1 hothers, rfl⟩
    · rintro ⟨⟨_, v⟩, others, ⟨rfl, hv⟩, hothers, rfl⟩
      exact Option.bind_eq_some_iff.2 ⟨v, hv, Option.bind_eq_some_iff.2 ⟨others, ih.2 hothers, rfl⟩⟩

/-! ### Binding -/

/-- Keywords that a marker knows are bound if no argument is given twice. -/
private theorem bindKeywords_ok {s : Signature} {keywords : List (String × Value)}
    (hknown : ∀ k ∈ keywords, k.1 ∈ s.positional ++ s.keywordOnly) (hnd : ((bound ++ keywords).map (·.1)).Nodup) :
    bindKeywords s bound keywords = .ok (bound ++ keywords) := by
  induction keywords generalizing bound with
  | nil => simp [bindKeywords]
  | cons k rest ih =>
    obtain ⟨n, v⟩ := k
    obtain ⟨hn, hrest⟩ := List.forall_mem_cons.1 hknown
    have hfresh : bound.any (·.1 == n) = false := by
      rw [List.any_eq_false]
      rintro ⟨m, w⟩ hm heq
      obtain rfl : m = n := by simpa using heq
      rw [List.map_append, List.nodup_append] at hnd
      exact hnd.2.2 m (List.mem_map.2 ⟨_, hm, rfl⟩) m (by simp) rfl
    have happend : bound ++ (n, v) :: rest = (bound ++ [(n, v)]) ++ rest := by simp
    have hmem : (s.positional ++ s.keywordOnly).contains n = true := List.contains_iff_mem.2 hn
    rw [bindKeywords, hmem, if_neg (by decide), if_neg (by simp [hfresh]), happend]
    exact ih hrest (by rwa [← happend])

/-- What is bound to a name belongs to the argument of that name. -/
private theorem lookup_of_forall₂ {P : String → Expr → Value → Prop}
    (h : List.Forall₂ (fun a b => b.1 = a.1 ∧ P a.1 a.2 b.2) named values) (n : String) :
    named.lookup n = none ∧ values.lookup n = none ∨
      ∃ e v, named.lookup n = some e ∧ values.lookup n = some v ∧ P n e v := by
  induction h with
  | nil => exact .inl ⟨rfl, rfl⟩
  | @cons a b named values hab _ ih =>
    obtain ⟨m, e⟩ := a
    obtain ⟨m', v⟩ := b
    obtain ⟨rfl, hP⟩ := hab
    rw [List.lookup_cons, List.lookup_cons]
    by_cases hn : n = m'
    · subst hn
      exact .inr ⟨e, v, by simp, by simp, hP⟩
    · simpa [beq_eq_false_iff_ne.2 hn] using ih

private theorem zip_of_forall₂ {P : String → Expr → Value → Prop} {names : List String}
    (h : List.Forall₂ (fun a b => b.1 = a.1 ∧ P a.1 a.2 b.2) (names.zip positional) values) :
    names.zip (values.map (·.2)) = values := by
  induction names generalizing positional values with
  | nil =>
    cases h
    rfl
  | cons n rest ih =>
    cases positional with
    | nil =>
      cases h
      rfl
    | cons e more =>
      obtain ⟨⟨_, v⟩, others, ⟨rfl, -⟩, hothers, rfl⟩ := List.forall₂_cons_left_iff.1 h
      rw [List.map_cons, List.zip_cons_cons, ih hothers]

/-! ### Calls -/

/-- The arguments that are of use to a marker. -/
def fieldsOf (marker : String) : List String := positionalNames marker ++ (signatureOf marker).keywordOnly

/-- What a call binds, next to what is read of the same arguments. -/
structure Agrees (usage : Usage) (named : List (String × Expr)) (bound : List (String × Value)) : Prop where
  other : ∀ n, n ≠ "type" → n ≠ "state" → bound.lookup n = usage.argument? n
  type : (usage.argument? "type").isSome → ∃ name, bound.lookup "type" = some (.classObject name)
  state : bound.lookup "state" = none ∧ named.lookup "state" = none ∨
    ∃ e, named.lookup "state" = some e ∧ (usage.argument? "state").isSome ∧ ((∃ m, bound.lookup "state" = some (.state m)) ∧ ¬e.IsText ∨
      (∃ s, bound.lookup "state" = some (.text s)) ∧ e.IsText)

private theorem agrees_of_forall₂
    (hread : List.Forall₂ (fun a b => b.1 = a.1 ∧ argumentValue scope a.1 a.2 = .ok b.2) named usage.arguments)
    (hbound : List.Forall₂ (fun a b => b.1 = a.1 ∧ runtimeValue className a.1 a.2 = some b.2) named bound) :
    Agrees usage named bound := by
  have hboth : ∀ n, named.lookup n = none ∧ usage.argument? n = none ∧ bound.lookup n = none ∨
      ∃ e v w, named.lookup n = some e ∧ usage.argument? n = some v ∧ bound.lookup n = some w ∧
        argumentValue scope n e = .ok v ∧ runtimeValue className n e = some w := by
    intro n
    obtain ⟨hnone, hread'⟩ | ⟨e, v, he, hv, hvalue⟩ := lookup_of_forall₂ (P := fun n e v => argumentValue scope n e = .ok v) hread n
    · obtain ⟨-, hbound'⟩ | ⟨e, w, he, -⟩ := lookup_of_forall₂ (P := fun n e v => runtimeValue className n e = some v) hbound n
      · exact .inl ⟨hnone, hread', hbound'⟩
      · rw [hnone] at he
        cases he
    · obtain ⟨hnone, -⟩ | ⟨e', w, he', hw, hruntime⟩ := lookup_of_forall₂ (P := fun n e v => runtimeValue className n e = some v) hbound n
      · rw [he] at hnone
        cases hnone
      · rw [he] at he'
        cases he'
        exact .inr ⟨e, v, w, he, hv, hw, hvalue, hruntime⟩
  refine ⟨fun n htype hstate => ?_, fun hsome => ?_, ?_⟩
  · obtain ⟨-, hread', hbound'⟩ | ⟨e, v, w, -, hv, hw, hvalue, hruntime⟩ := hboth n
    · rw [hread', hbound']
    · rw [hv, hw, ← hruntime, runtimeValue_literal htype hstate hvalue]
  · obtain ⟨-, hread', -⟩ | ⟨e, v, w, -, -, hw, -, hruntime⟩ := hboth "type"
    · rw [hread'] at hsome
      cases hsome
    · rw [runtimeValue_type] at hruntime
      exact ⟨className e, hw.trans hruntime.symm⟩
  · obtain ⟨hnone, -, hbound'⟩ | ⟨e, v, w, he, hv, hw, hvalue, hruntime⟩ := hboth "state"
    · exact .inl ⟨hbound', hnone⟩
    · have hsome : (usage.argument? "state").isSome := by
        rw [hv]
        rfl
      obtain ⟨m, -, ⟨htext, hm⟩ | ⟨htext, s, hs⟩⟩ := runtimeValue_state hvalue className
      · rw [hruntime] at hm
        exact .inr ⟨e, he, hsome, .inl ⟨⟨m, hw.trans hm⟩, htext⟩⟩
      · rw [hruntime] at hs
        exact .inr ⟨e, he, hsome, .inr ⟨⟨s, hw.trans hs⟩, htext⟩⟩

private theorem signatureOf_fields : ∀ marker ∈ markerNames,
    ((signatureOf marker).positional = positionalNames marker ∨ positionalNames marker = []) ∧
      fieldsOf marker ⊆ (signatureOf marker).positional ++ (signatureOf marker).keywordOnly ∧
      "cls" ∉ fieldsOf marker := by
  decide

private theorem exists_runtimeValue (h : argumentValue scope n e = .ok v) (className : Expr → String) :
    ∃ w, runtimeValue className n e = some w := by
  by_cases htype : n = "type"
  · subst htype
    exact ⟨_, rfl⟩
  · by_cases hstate : n = "state"
    · subst hstate
      obtain ⟨m, -, ⟨-, hm⟩ | ⟨-, s, hs⟩⟩ := runtimeValue_state h className
      · exact ⟨_, hm⟩
      · exact ⟨_, hs⟩
    · exact ⟨v, runtimeValue_literal htype hstate h className⟩

/-- The call for arguments that are read without an error, if they are those of the marker and none that it requires is
missing. -/
theorem exists_call (hmarker : usage.marker ∈ markerNames)
    (hread : readArguments scope usage.marker positional keywords = .ok (usage.arguments, []))
    (hfields : ∀ a ∈ usage.arguments, a.1 ∈ fieldsOf usage.marker)
    (hrequired : ∀ n ∈ (signatureOf usage.marker).positional.take (signatureOf usage.marker).required,
      n ∈ usage.arguments.map (·.1)) (className : Expr → String) :
    ∃ call bound, runtimeCall className usage.marker positional keywords = some call ∧
      bindCall (signatureOf usage.marker) call = .ok bound ∧ bound.lookup "cls" = none ∧
      Agrees usage (namedArguments usage.marker positional keywords) bound ∧
      ((namedArguments usage.marker positional keywords).map (·.1)).Nodup := by
  obtain ⟨arguments, problems, harguments, hnil, hrecords⟩ := bindArguments_ok hread
  obtain ⟨hshape, rfl⟩ := List.append_eq_nil_iff.1 hnil.symm
  rw [List.nil_append] at harguments
  subst harguments
  have hnd := hrecords.nodup
  have hvalues : List.Forall₂ (fun a b => b.1 = a.1 ∧ argumentValue scope a.1 a.2 = .ok b.2)
    (namedArguments usage.marker positional keywords) usage.arguments := hrecords.forall₂
  -- every value that was read has a value at run time
  have hall : ∀ a ∈ namedArguments usage.marker positional keywords,
      ∃ b : String × Value, b.1 = a.1 ∧ runtimeValue className a.1 a.2 = some b.2 := by
    intro a ha
    obtain ⟨b, hb, hvalue⟩ := exists_forall₂_iff.1 ⟨_, hvalues⟩ a ha
    obtain ⟨w, hw⟩ := exists_runtimeValue hvalue className
    exact ⟨(a.1, w), rfl, hw⟩
  rw [namedArguments, List.forall_mem_append] at hall
  obtain ⟨first, hfirst⟩ := exists_forall₂_iff.2 hall.1
  obtain ⟨second, hsecond⟩ := exists_forall₂_iff.2 hall.2
  have hbound : List.Forall₂ (fun a b => b.1 = a.1 ∧ runtimeValue className a.1 a.2 = some b.2)
      (namedArguments usage.marker positional keywords) (first ++ second) := List.rel_append hfirst hsecond
  have hcall : runtimeCall className usage.marker positional keywords = some ⟨first.map (·.2), second⟩ := by
    rw [runtimeCall, hshape]
    simp [runtimeArguments_eq_some_iff.2 hfirst, runtimeArguments_eq_some_iff.2 hsecond, guard]
  have hsame : (first ++ second).map (·.1) = usage.arguments.map (·.1) := by
    rw [map_fst_of_forall₂ (P := fun n e v => argumentValue scope n e = .ok v) hvalues,
      map_fst_of_forall₂ (P := fun n e v => runtimeValue className n e = some v) hbound]
  have hmem : ∀ b ∈ first ++ second, b.1 ∈ fieldsOf usage.marker := by
    intro b hb
    have hname : b.1 ∈ usage.arguments.map (·.1) := by
      rw [← hsame]
      exact List.mem_map_of_mem hb
    obtain ⟨a, ha, heq⟩ := List.mem_map.1 hname
    rw [← heq]
    exact hfields a ha
  obtain ⟨hpositional, hsubset, hcls⟩ := signatureOf_fields _ hmarker
  -- positional values fall on the names by which they were read
  have hzip : (signatureOf usage.marker).positional.zip (first.map (·.2)) = first := by
    obtain hpositional | hnone := hpositional
    · rw [hpositional]
      exact zip_of_forall₂ (P := fun n e v => runtimeValue className n e = some v) hfirst
    · rw [hnone, List.zip_nil_left, List.forall₂_nil_left_iff] at hfirst
      rw [hfirst, List.map_nil, List.zip_nil_right]
  have hkeywords : bindKeywords (signatureOf usage.marker) first second = .ok (first ++ second) := by
    refine bindKeywords_ok (fun k hk => hsubset (hmem k (List.mem_append_right _ hk))) ?_
    rw [hsame]
    exact hnd
  have hnames := map_fst_of_forall₂ (P := fun n e v => argumentValue scope n e = .ok v) hvalues
  refine ⟨_, first ++ second, hcall, ?_, ?_, agrees_of_forall₂ hvalues hbound, hnames ▸ hnd⟩
  · have hfew : ¬(signatureOf usage.marker).positional.length < (first.map (·.2)).length := by
      have hlength := congrArg List.length hzip
      rw [List.length_zip, List.length_map] at hlength
      rw [List.length_map]
      omega
    have hgiven : ((signatureOf usage.marker).positional.take (signatureOf usage.marker).required).filter
        (fun n => !(first ++ second).any (·.1 == n)) = [] := by
      rw [List.filter_eq_nil_iff]
      intro n hn
      have hname := hrequired n hn
      rw [← hsame] at hname
      obtain ⟨b, hb, rfl⟩ := List.mem_map.1 hname
      rw [Bool.not_eq_true', Bool.not_eq_false, List.any_eq_true]
      exact ⟨b, hb, beq_self_eq_true _⟩
    simp only [bindCall, hzip, hkeywords, bind, Except.bind, if_neg hfew, hgiven]
  · rw [List.lookup_eq_none_iff]
    intro b hb
    have hother : b.1 ≠ "cls" := fun heq => hcls (heq ▸ hmem b hb)
    simpa using hother.symm

/-! ### Checks -/

private theorem checkAttributes_ok_iff {attributes : List Attribute} : checkAttributes bound attributes = .ok () ↔
    ∀ a ∈ attributes, a.kind.accepts ((bound.lookup a.field).getD a.kind.default) = true := by
  induction attributes with
  | nil => simp [checkAttributes]
  | cons a rest ih =>
    rw [checkAttributes, List.forall_mem_cons, ← ih, checkAttribute]
    cases a.kind.accepts ((bound.lookup a.field).getD a.kind.default) <;> simp [bind, Except.bind]

/-- Whether the state among several arguments is spelled as a text. -/
def SpellsState (named : List (String × Expr)) : Prop := ∃ e, named.lookup "state" = some e ∧ e.IsText

namespace Agrees

private theorem not_spellsState (h : Agrees usage named bound) (hfields : ∀ a ∈ usage.arguments, a.1 ∈ fieldsOf marker)
    (hstate : "state" ∉ fieldsOf marker) : ¬SpellsState named := by
  rintro ⟨e, he, -⟩
  obtain ⟨-, hnone⟩ | ⟨-, -, hsome, -⟩ := h.state
  · rw [hnone] at he
    cases he
  · obtain ⟨v, hv⟩ := Option.isSome_iff_exists.1 hsome
    obtain ⟨front, back, harguments, -⟩ := List.lookup_eq_some_iff.1 hv
    exact hstate (hfields ("state", v) (by simp [harguments]))

/-- An attribute that is accepted as it is read is accepted as it is bound, unless it is a state spelled as a text. -/
private theorem accepts_iff (h : Agrees usage named bound) {a : Attribute}
    (haccepted : a.kind.accepts (a.valueIn usage) = true) (htype : a.field ≠ "type")
    (hkind : a.field = "state" → a.kind = .state) :
    a.kind.accepts ((bound.lookup a.field).getD a.kind.default) = true ↔ (a.field = "state" → ¬SpellsState named) := by
  by_cases hstate : a.field = "state"
  · simp only [hstate, forall_const, hkind hstate]
    obtain ⟨hnone, hnamed⟩ | ⟨e, he, -, ⟨⟨m, hm⟩, htext⟩ | ⟨⟨s, hs⟩, htext⟩⟩ := h.state
    · simp [hnone, SpellsState, hnamed, AttributeKind.accepts, AttributeKind.default, Value.asState?]
    · simp [hm, SpellsState, he, htext, AttributeKind.accepts, Value.asState?]
    · simp [hs, SpellsState, he, htext, AttributeKind.accepts, Value.asState?]
  · rw [h.other _ htype hstate]
    exact iff_of_true haccepted fun heq => absurd heq hstate

end Agrees

theorem mem_checkingOrder {a : Attribute} {attributes : List Attribute} :
    a ∈ checkingOrder attributes ↔ a ∈ attributes := by
  by_cases hkind : a.kind = .integer <;> simp [checkingOrder, hkind]

/-- The attributes of a target are checked when its marker is called. -/
private theorem checkCall_target {t : TargetKind} (ht : t ∈ [activityTargets, fragmentTargets])
    (bound : List (String × Value)) : checkCall t.marker bound = .ok () ↔
      ∀ a ∈ t.attributes, a.kind.accepts ((bound.lookup a.field).getD a.kind.default) = true := by
  rw [List.mem_pair] at ht
  obtain rfl | rfl := ht
  · exact checkAttributes_ok_iff
  · refine checkAttributes_ok_iff.trans ?_
    simp only [mem_checkingOrder]

private theorem target_fields : ∀ t ∈ [activityTargets, fragmentTargets],
    t.attributes.map (·.field) ++ [forceEmptyField] = fieldsOf t.marker ∧ (signatureOf t.marker).required = 0 ∧
      t.marker ∈ markerNames ∧ (∀ a ∈ t.attributes, a.field ≠ "type" ∧ (a.field = "state" → a.kind = .state)) ∧
      ("state" ∈ fieldsOf t.marker → "state" ∈ t.attributes.map (·.field)) := by
  decide

/-- What is known of a use that is accepted, whatever its marker. -/
structure Usable (usage : Usage) : Prop where
  errors : usage.errors = []
  marker : usage.marker ∈ markerNames
  fields : ∀ a ∈ usage.arguments, a.1 ∈ fieldsOf usage.marker
  required : ∀ n ∈ (signatureOf usage.marker).positional.take (signatureOf usage.marker).required,
    n ∈ usage.arguments.map (·.1)
  check : ∀ named bound, Agrees usage named bound → (checkCall usage.marker bound = .ok () ↔ ¬SpellsState named)

private theorem usable_of_target {t : TargetKind} (ht : t ∈ [activityTargets, fragmentTargets]) {d : Declaration}
    (hmarker : usage.marker = t.marker) (h : targetProblems t ⟨d, usage⟩ = .ok []) : Usable usage := by
  obtain ⟨hknown, hrequired, hmember, hattributes, hstate⟩ := target_fields t ht
  rw [targetProblems] at h
  obtain ⟨ofAttributes, hproblems, h⟩ := bind_eq_ok_iff.1 h
  rw [Except.ok.injEq] at h
  simp only [List.append_eq_nil_iff] at h
  obtain ⟨⟨⟨⟨herrors, -⟩, hunknown⟩, rfl⟩, -⟩ := h
  have hfields := unknownProblem_eq_nil_iff.1 hunknown
  rw [hknown] at hfields
  refine ⟨herrors, hmarker ▸ hmember, hmarker ▸ hfields, ?_, fun named bound hagrees => ?_⟩
  · rw [hmarker, hrequired]
    simp
  · have hall : checkCall usage.marker bound = .ok () ↔ ∀ a ∈ t.attributes, a.field = "state" → ¬SpellsState named := by
      rw [hmarker, checkCall_target ht]
      refine forall₂_congr fun a ha => ?_
      exact hagrees.accepts_iff (attributeProblems_nil hproblems a ha) (hattributes a ha).1 (hattributes a ha).2
    rw [hall]
    constructor
    · intro hnone
      by_cases hfield : "state" ∈ fieldsOf t.marker
      · obtain ⟨a, ha, heq⟩ := List.mem_map.1 (hstate hfield)
        exact hnone a ha heq
      · exact hagrees.not_spellsState hfields hfield
    · exact fun hnone a _ _ => hnone

private theorem usable_of_bundle {d : Declaration} (hmarker : usage.marker = bundleMarker)
    (h : hasArguments ⟨d, usage⟩ = false) : Usable usage := by
  rw [hasArguments, Bool.not_eq_false', Bool.and_eq_true, List.isEmpty_iff, List.isEmpty_iff] at h
  obtain ⟨harguments, herrors⟩ := h
  dsimp only at harguments herrors
  have hfields : ∀ a ∈ usage.arguments, a.1 ∈ fieldsOf bundleMarker := by simp [harguments]
  refine ⟨herrors, by rw [hmarker]; decide, by simp [harguments], ?_, fun named bound hagrees => ?_⟩
  · rw [hmarker]
    simp [signatureOf, bundleMarker, parameterMarker, fragmentMarker, activityMarker]
  · rw [hmarker]
    exact iff_of_true rfl (hagrees.not_spellsState hfields (by decide))

/-- Groups that can be read from an argument pass its check. -/
private theorem checkGroups_ok {groups : List String} (h : asGroups? v = some groups) : checkGroups v = .ok () := by
  have hfull {w : Value} {text : String} (hw : w.IsNonemptyText text) : isFullText w = true := by
    simp [isFullText, hw.1, hw.2]
  have hitems {items : List Value} {names : List String} (hne : items ≠ [])
      (hnames : List.Forall₂ Value.IsNonemptyText items names) : (!items.isEmpty && items.all isFullText) = true := by
    have hall : ∀ w ∈ items, isFullText w = true := by
      intro w hw
      obtain ⟨text, htext⟩ := exists_forall₂_iff.1 ⟨names, hnames⟩ w hw
      exact hfull htext
    simpa [hne] using hall
  obtain ⟨names, hnames, -⟩ := asGroups?_eq_some_iff.1 h
  cases hnames with
  | one htext => simp [checkGroups, htext.1, hfull htext]
  | list hne hnames => simp [checkGroups, Value.asText?, Value.items?, hitems hne hnames]
  | tuple hne hnames => simp [checkGroups, Value.asText?, Value.items?, hitems hne hnames]

private theorem usable_of_parameter (hmarker : usage.marker = parameterMarker) (h : parameterProblems usage = []) :
    Usable usage := by
  obtain ⟨key, type, name, optional, groups, hcomplete⟩ := Usage.complete_of_problems h
  rw [parameterProblems] at h
  simp only [List.append_eq_nil_iff] at h
  obtain ⟨⟨⟨⟨⟨⟨herrors, hunknown⟩, -⟩, -⟩, -⟩, -⟩, -⟩ := h
  have hfields : ∀ a ∈ usage.arguments, a.1 ∈ fieldsOf parameterMarker := by
    have hsubset : parameterFields ⊆ fieldsOf parameterMarker := by decide
    exact fun a ha => hsubset (unknownProblem_eq_nil_iff.1 hunknown a ha)
  obtain ⟨hkey, hblank⟩ := Option.filter_eq_some_iff.1 hcomplete.key_eq
  obtain ⟨keyValue, hkeyValue, hkeyText⟩ := Option.bind_eq_some_iff.1 hkey
  obtain ⟨typeValue, htypeValue, htype⟩ := Option.bind_eq_some_iff.1 hcomplete.type_eq
  have hgiven : ∀ {n w}, usage.argument? n = some w → n ∈ usage.arguments.map (·.1) := by
    intro n w hw
    obtain ⟨front, back, harguments, -⟩ := List.lookup_eq_some_iff.1 hw
    simp [harguments]
  refine ⟨herrors, by rw [hmarker]; decide, hmarker ▸ hfields, ?_, fun named bound hagrees => ?_⟩
  · rw [hmarker]
    have hnames : (signatureOf parameterMarker).positional.take (signatureOf parameterMarker).required = ["key", "type"] :=
      rfl
    rw [hnames]
    simp only [List.forall_mem_cons, List.not_mem_nil, false_imp_iff, implies_true, and_true]
    exact ⟨hgiven hkeyValue, hgiven htypeValue⟩
  · rw [hmarker]
    refine iff_of_true ?_ (hagrees.not_spellsState hfields (by decide))
    have hkeyBound : bound.lookup "key" = some keyValue := by
      rw [hagrees.other "key" (by decide) (by decide), hkeyValue]
    obtain ⟨className, htypeBound⟩ := hagrees.type (by rw [htypeValue]; rfl)
    have hgroupBound : (bound.lookup "group").getD (.text defaultGroup) =
        (usage.argument? "group").getD (.text defaultGroup) := by
      rw [hagrees.other "group" (by decide) (by decide)]
    have hfull : isFullText keyValue = true := by
      have hne : key ≠ "" := by
        rintro rfl
        exact absurd hblank (by decide)
      simp [isFullText, hkeyText, hne]
    change checkParameter bound = .ok ()
    simp [checkParameter, hkeyBound, htypeBound, hgroupBound, hfull, checkGroups_ok hcomplete.groups_eq, bind, Except.bind]

theorem Usage.IsAccepted.usable (h : usage.IsAccepted) : Usable usage := by
  obtain ⟨hmarker, hproblems⟩ | ⟨hmarker, d, hproblems⟩ | ⟨t, ht, hmarker, d, hproblems⟩ := h
  · exact usable_of_parameter hmarker hproblems
  · exact usable_of_bundle hmarker hproblems
  · exact usable_of_target ht hmarker hproblems

/-! ### Accepted markers at run time -/

/-- The state among the arguments of a marker is one of its keywords. -/
private theorem spellsState_iff (hmarker : marker ∈ markerNames)
    (hnd : ((namedArguments marker positional keywords).map (·.1)).Nodup) :
    SpellsState (namedArguments marker positional keywords) ↔ ∃ e, (some "state", e) ∈ keywords ∧ e.IsText := by
  have hpositional : ∀ marker ∈ markerNames, "state" ∉ positionalNames marker := by decide
  refine exists_congr fun e => and_congr_left fun _ => ?_
  rw [lookup_eq_some_iff_mem hnd, namedArguments, List.mem_append]
  constructor
  · rintro (h | h)
    · exact absurd (List.of_mem_zip h).1 (hpositional marker hmarker)
    · obtain ⟨⟨n, e'⟩, hmem, h⟩ := List.mem_filterMap.1 h
      obtain ⟨n', rfl, heq⟩ := Option.map_eq_some_iff.1 h
      obtain ⟨rfl, rfl⟩ := Prod.mk.inj heq
      exact hmem
  · exact fun hmem => .inr (List.mem_filterMap.2 ⟨_, hmem, rfl⟩)

private theorem applyBare_ok (hmarker : marker ∈ markerNames) (hother : marker ≠ parameterMarker) (name : String) :
    applyBare marker (.classNamed name) [] = .ok (.applied (.classNamed name)) := by
  simp only [markerNames, List.mem_cons, List.not_mem_nil, or_false] at hmarker
  obtain rfl | rfl | rfl | rfl := hmarker
  · rfl
  · rfl
  · exact absurd rfl hother
  · rfl

/-- A module that imports the marker of fragments. -/
def fragmentScope : Scope :=
  .ofModule "app.screens" false [.importFrom 1 0 (some "autotarget.annotation") (some [⟨"fragment_target", none⟩])]

/-- A marker of a fragment with a state. -/
def fragmentDecorator (state : Expr) : Expr := .call 4 (.name 4 fragmentMarker) [] [(some "state", state)]

/-- What is read of that marker if its state is to be added. -/
def fragmentUsage : Usage := ⟨fragmentMarker, [("state", .state .add)], 4, []⟩

private theorem isAccepted_fragmentUsage : fragmentUsage.IsAccepted :=
  .inr (.inr ⟨fragmentTargets, by decide, rfl, ⟨"Inbox", "app.screens", .classDefinition, [fragmentUsage], none, 4⟩,
    by decide⟩)

end NavFactory
