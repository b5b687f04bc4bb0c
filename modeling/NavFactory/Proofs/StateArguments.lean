import NavFactory.Proofs.Bindings
import NavFactory.Proofs.Calling

/-!
# States of fragments

A state may be given by a dotted name.  Other than markers and types, it is not looked up among the names of the module:
what counts is that the name ends with that of the type of states and the name of a state.  So a dotted name is read as the
state that it refers to exactly if it is spelled in this way where it refers to a state, and only there
(`readsState_iff`).
-/

namespace NavFactory

open Source

/-- The full paths of the type of states. -/
def stateTypePaths : List String := ["autotarget." ++ stateTypeName, "autotarget.target." ++ stateTypeName]

/-- Whether an expression refers to a state, by the names of its module. -/
def RefersToState (scope : Scope) (e : Expr) (m : FragmentState) : Prop :=
  ∃ path ∈ stateTypePaths, scope.qualify e = some (path ++ "." ++ m.name)

/-- Whether an expression is spelled as a state of a type of the right name. -/
def SpellsMember (e : Expr) (m : FragmentState) : Prop := [stateTypeName, m.name] <:+ attributeChain e

/-- Whether the reader takes an expression that is given as the state of a fragment for a state. -/
def AcceptsState (scope : Scope) (e : Expr) (m : FragmentState) : Prop :=
  ∀ (marker : String) (bound : List (String × Value)) (errors : List String) (rest : List (String × Expr)),
    bound.any (·.1 == "state") = false →
    bindArguments scope marker bound errors (("state", e) :: rest) =
      bindArguments scope marker (bound ++ [("state", .state m)]) errors rest

/-- Whether the reader records an error for an expression that is given as the state of a fragment. -/
def RejectsState (scope : Scope) (e : Expr) : Prop :=
  ∃ text, ∀ (marker : String) (bound : List (String × Value)) (errors : List String) (rest : List (String × Expr)),
    bound.any (·.1 == "state") = false →
    bindArguments scope marker bound errors (("state", e) :: rest) =
      bindArguments scope marker bound (errors ++ ["@" ++ marker ++ " argument '" ++ "state" ++ "': " ++ text]) rest

/-- Whether the reader takes an expression for the state that it refers to, and records an error if there is none. -/
structure ReadsState (scope : Scope) (e : Expr) : Prop where
  accepts : ∀ m, AcceptsState scope e m ↔ RefersToState scope e m
  rejects : (¬∃ m, RefersToState scope e m) → RejectsState scope e

variable {scope : Scope} {e : Expr} {m m' : FragmentState} {head : String} {rest : List String}

/-! ### Names of states -/

private theorem ofName?_eq_some_iff {name : String} : FragmentState.ofName? name = some m ↔ name = m.name := by
  constructor
  · intro h
    have hfound := List.find?_some h
    exact (beq_iff_eq.1 hfound).symm
  · rintro rfl
    cases m <;> rfl

private theorem name_injective (h : m.name = m'.name) : m = m' :=
  Option.some.inj ((ofName?_eq_some_iff.2 rfl).symm.trans (ofName?_eq_some_iff.2 h))

private theorem dot_notMem_name (m : FragmentState) : '.' ∉ m.name.toList := by
  cases m <;> decide

theorem namedState_eq_some_iff : namedState e = some m ↔ SpellsMember e m := by
  rw [SpellsMember, namedState, ← List.reverse_prefix, List.reverse_cons, List.reverse_singleton, List.singleton_append]
  rcases (attributeChain e).reverse with _ | ⟨member, _ | ⟨type, front⟩⟩
  · simp
  · simp
  · simp only [List.cons_prefix_cons, List.nil_prefix, and_true]
    split_ifs with htype
    · rw [ofName?_eq_some_iff, eq_comm]
      exact (and_iff_left (beq_iff_eq.1 htype).symm).symm
    · exact iff_of_false not_false fun h => htype (beq_iff_eq.2 h.2.symm)

/-- A name that is spelled as a state has further names before that of the state. -/
private theorem exists_of_spellsMember (h : SpellsMember e m) :
    ∃ head init, attributeChain e = head :: (init ++ [m.name]) := by
  obtain ⟨front, heq⟩ := h
  cases front with
  | nil => exact ⟨stateTypeName, [], heq.symm⟩
  | cons head front => exact ⟨head, front ++ [stateTypeName], by rw [← heq]; simp⟩

/-- What a name with dots refers to keeps its last part. -/
private theorem exists_of_qualify {path : String} (hchain : attributeChain e = head :: rest) (hrest : rest ≠ [])
    (h : scope.qualify e = some path) : ∃ first, path = DottedPath.text (first :: rest) := by
  rw [Scope.qualify, hchain] at h
  simp only [List.isEmpty_eq_false_iff.2 hrest, Bool.not_false, if_true] at h
  split at h
  · exact ⟨_, (Option.some.inj h).symm⟩
  · split at h
    · exact ⟨_, (Option.some.inj h).symm⟩
    · cases h

/-- A name that is spelled as a state can refer to that one only. -/
private theorem eq_of_spellsMember (hspelled : SpellsMember e m) (hrefers : RefersToState scope e m') : m' = m := by
  obtain ⟨head, init, hchain⟩ := exists_of_spellsMember hspelled
  obtain ⟨path, -, hpath⟩ := hrefers
  obtain ⟨first, heq⟩ := exists_of_qualify hchain (by simp) hpath
  have hlast := Scope.splitLast_dot path (dot_notMem_name m')
  rw [heq, ← List.cons_append, Scope.splitLast_text (List.cons_ne_nil _ _) (dot_notMem_name m)] at hlast
  exact name_injective (Prod.mk.inj (Option.some.inj hlast)).2.symm

/-! ### Reading -/

private theorem bindArguments_state {marker : String} {bound : List (String × Value)} {errors : List String}
    {others : List (String × Expr)} (hfresh : bound.any (·.1 == "state") = false) :
    bindArguments scope marker bound errors (("state", e) :: others) =
      match argumentValue scope "state" e with
      | .ok v => bindArguments scope marker (bound ++ [("state", v)]) errors others
      | .error (.problem text) =>
        bindArguments scope marker bound (errors ++ ["@" ++ marker ++ " argument '" ++ "state" ++ "': " ++ text]) others
      | .error .tooLarge => .error .tooLarge := by
  cases hvalue : argumentValue scope "state" e with
  | ok v => simp [bindArguments, hfresh, hvalue]
  | error fault => cases fault <;> simp [bindArguments, hfresh, hvalue]

theorem acceptsState_iff : AcceptsState scope e m ↔ argumentValue scope "state" e = .ok (.state m) := by
  constructor
  · intro h
    have hread := h "" [] [] [] rfl
    rw [bindArguments_state rfl] at hread
    cases hvalue : argumentValue scope "state" e with
    | ok v =>
      rw [hvalue] at hread
      cases hread
      rfl
    | error fault =>
      rw [hvalue] at hread
      cases fault <;> cases hread
  · intro hvalue marker bound errors others hfresh
    rw [bindArguments_state hfresh, hvalue]

theorem rejectsState_iff : RejectsState scope e ↔ ∃ text, argumentValue scope "state" e = .error (.problem text) := by
  constructor
  · rintro ⟨text, h⟩
    have hread := h "" [] [] [] rfl
    rw [bindArguments_state rfl] at hread
    cases hvalue : argumentValue scope "state" e with
    | ok v =>
      rw [hvalue] at hread
      cases hread
    | error fault =>
      cases fault with
      | problem text => exact ⟨text, rfl⟩
      | tooLarge =>
        rw [hvalue] at hread
        cases hread
  · rintro ⟨text, hvalue⟩
    refine ⟨text, fun marker bound errors others hfresh => ?_⟩
    rw [bindArguments_state hfresh, hvalue]

/-- A dotted name is never a text. -/
private theorem argumentValue_dotted (hdotted : attributeChain e ≠ []) : argumentValue scope "state" e =
    match namedState e with
    | some m => .ok (.state m)
    | none => .error (problemWith ("expected a " ++ stateTypeName ++ " member") e) := by
  have hspelled : spelledState e = none := by
    unfold spelledState
    split
    · exact absurd rfl hdotted
    · rfl
  change stateValue e = _
  cases hnamed : namedState e <;> simp [stateValue_eq, hspelled, hnamed]

/-- A dotted name is read as a state by its spelling. -/
theorem acceptsState_iff_spellsMember (hdotted : attributeChain e ≠ []) : AcceptsState scope e m ↔ SpellsMember e m := by
  rw [acceptsState_iff, argumentValue_dotted hdotted, ← namedState_eq_some_iff]
  cases namedState e <;> simp

/-- A dotted name of any other spelling is an error. -/
theorem rejectsState_iff_not_spellsMember (hdotted : attributeChain e ≠ []) :
    RejectsState scope e ↔ ¬∃ m, SpellsMember e m := by
  simp only [rejectsState_iff, argumentValue_dotted hdotted, ← namedState_eq_some_iff]
  cases hnamed : namedState e with
  | some m => simp
  | none =>
    refine iff_of_true ?_ (by simp)
    unfold problemWith
    cases e.text <;> exact ⟨_, rfl⟩

/-- A dotted name is read as the state that its last two parts spell.  This is the state that it refers to, or an error if
there is none, exactly if the name is spelled as a state where it refers to one, and only there. -/
theorem readsState_iff (hdotted : attributeChain e ≠ []) :
    (∀ m, AcceptsState scope e m ↔ SpellsMember e m) ∧ (RejectsState scope e ↔ ¬∃ m, SpellsMember e m) ∧
      (ReadsState scope e ↔ ((∃ m, SpellsMember e m) ↔ ∃ m, RefersToState scope e m)) := by
  refine ⟨fun m => acceptsState_iff_spellsMember hdotted, rejectsState_iff_not_spellsMember hdotted, ?_⟩
  constructor
  · rintro ⟨haccepts, -⟩
    exact exists_congr fun m => (acceptsState_iff_spellsMember hdotted).symm.trans (haccepts m)
  · intro h
    refine ⟨fun m => ?_, fun hnone => (rejectsState_iff_not_spellsMember hdotted).2 (mt h.1 hnone)⟩
    rw [acceptsState_iff_spellsMember hdotted]
    constructor
    · intro hspelled
      obtain ⟨m', hrefers⟩ := h.1 ⟨m, hspelled⟩
      rwa [← eq_of_spellsMember hspelled hrefers]
    · intro hrefers
      obtain ⟨m', hspelled⟩ := h.2 ⟨m, hrefers⟩
      rwa [eq_of_spellsMember hspelled hrefers]

/-- A source file of a fragment. -/
def inboxSource : SourceName := ⟨"app/screens.py", "app.screens"⟩

/-- An import of the type of states under a name. -/
def stateImport (alias? : Option String) : Stmt := .importFrom 1 0 (some "autotarget") (some [⟨stateTypeName, alias?⟩])

theorem readsState_iff_add :
    attributeChain (.attribute 4 (.name 4 stateTypeName) "ADD") ≠ [] ∧
      let scope := Scope.ofSource inboxSource [stateImport none]
      let e : Expr := .attribute 4 (.name 4 stateTypeName) "ADD"
      (∀ m, AcceptsState scope e m ↔ SpellsMember e m) ∧ (RejectsState scope e ↔ ¬∃ m, SpellsMember e m) ∧
        (ReadsState scope e ↔ ((∃ m, SpellsMember e m) ↔ ∃ m, RefersToState scope e m)) :=
  have hdotted : attributeChain (.attribute 4 (.name 4 stateTypeName) "ADD") ≠ [] := by decide
  ⟨hdotted, readsState_iff hdotted⟩

/-- Whether a statement is an import. -/
def Source.Stmt.isImport : Stmt → Bool
  | .import_ .. => true
  | .importFrom .. => true
  | _ => false

/-- A state is not recognized by an alias of its type. -/
theorem exists_misread_state :
    ¬∀ (source : SourceName) (body : List Stmt) (e : Expr), (∀ c ∈ body, c.isImport) → attributeChain e ≠ [] →
      ReadsState (Scope.ofSource source body) e := by
  intro hall
  have hreads := hall inboxSource [stateImport (some "Placement")] (.attribute 4 (.name 4 "Placement") "ADD") (by decide)
    (by decide)
  have hrefers : RefersToState (Scope.ofSource inboxSource [stateImport (some "Placement")])
      (.attribute 4 (.name 4 "Placement") "ADD") .add :=
    ⟨"autotarget.FragmentState", by decide, by decide⟩
  have haccepted := acceptsState_iff.1 ((hreads.accepts .add).2 hrefers)
  revert haccepted
  decide

end NavFactory
