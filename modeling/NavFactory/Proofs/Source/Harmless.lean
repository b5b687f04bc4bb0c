import NavFactory.Source.Check

/-!
# Expressions without violations

`Harmless e` says that an expression violates no rule wherever it stands as a value.  The expressions of generated
text are harmless by their shape; only a call with a repeated or forbidden keyword would not be.
-/

namespace NavFactory.Source

/-- Whether an expression violates no rule wherever it stands as a value. -/
def Harmless (e : Expr) : Prop := ∀ (s : Surroundings) (role : Role), role.isTarget = false → exprLine s role e = none

-- the rules of one expression, unfolded at each constructor below
attribute [local simp] exprLine exprsLine keywordsLine

theorem harmless_name (line : Nat) (id : String) : Harmless (.name line id) := by
  intro s role hrole
  simp [hrole, violation]

theorem harmless_constant (line : Nat) (c : Constant) : Harmless (.constant line c) := by
  intro s role _
  rw [exprLine]

theorem exprsLine_of_harmless {items : List Expr} (h : ∀ e ∈ items, Harmless e) (s : Surroundings) {role : Role}
    (hrole : role.isTarget = false) : exprsLine s role items = none := by
  induction items with
  | nil => rw [exprsLine]
  | cons e rest ih =>
    rw [exprsLine, h e List.mem_cons_self s role hrole, ih fun e he => h e (List.mem_cons_of_mem _ he)]
    rfl

theorem harmless_tuple (line : Nat) {items : List Expr} (h : ∀ e ∈ items, Harmless e) : Harmless (.tuple line items) := by
  intro s role hrole
  rw [exprLine, if_neg (by simp [hrole])]
  exact exprsLine_of_harmless h s rfl

theorem harmless_attribute (line : Nat) {e : Expr} (he : Harmless e) (id : String) : Harmless (.attribute line e id) := by
  intro s role hrole
  rw [exprLine, he s .value rfl, hrole]
  rfl

theorem harmless_subscript (line : Nat) {e index : Expr} (he : Harmless e) (hindex : Harmless index) :
    Harmless (.subscript line e index) := by
  intro s role _
  rw [exprLine, he s .value rfl, hindex s .value rfl]
  rfl

theorem harmless_unary (line : Nat) (op : UnaryOperator) {e : Expr} (he : Harmless e) :
    Harmless (.unary line op e) := by
  intro s role _
  rw [exprLine]
  exact he s .value rfl

theorem harmless_list (line : Nat) {items : List Expr} (h : ∀ e ∈ items, Harmless e) : Harmless (.list line items) := by
  intro s role hrole
  rw [exprLine, if_neg (by simp [hrole])]
  exact exprsLine_of_harmless h s rfl

@[simp] theorem violation_eq_none_iff {violated : Bool} {line : Nat} : violation violated line = none ↔ violated = false := by
  cases violated <;> simp [violation]

/-- No name occurs a second time exactly if the names are distinct and none of them has been seen before. -/
theorem repeatedName_eq_none_iff {seen : List String} {names : List (Nat × String)} :
    repeatedName seen names = none ↔ (names.map (·.2)).Nodup ∧ ∀ n ∈ names, n.2 ∉ seen := by
  induction names generalizing seen with
  | nil => simp [repeatedName]
  | cons n rest ih =>
    obtain ⟨line, name⟩ := n
    rw [repeatedName]
    by_cases hname : name ∈ seen
    · simp [hname]
    · have hseen : seen.contains name = false := by simpa using hname
      rw [hseen, if_neg Bool.false_ne_true, ih, List.map_cons, List.nodup_cons, List.forall_mem_cons]
      constructor
      · rintro ⟨hnodup, hrest⟩
        refine ⟨⟨fun hmem => ?_, hnodup⟩, hname, fun n hn => fun h => hrest n hn (List.mem_cons_of_mem _ h)⟩
        obtain ⟨n, hn, rfl⟩ := List.mem_map.1 hmem
        exact hrest n hn List.mem_cons_self
      · rintro ⟨⟨hnew, hnodup⟩, -, hrest⟩
        refine ⟨hnodup, fun n hn h => ?_⟩
        rcases List.mem_cons.1 h with heq | h
        · exact hnew (List.mem_map.2 ⟨n, hn, heq⟩)
        · exact hrest n hn h

private theorem keywordsLine_of_harmless {keywords : List (Option String × Expr)} (h : ∀ k ∈ keywords, Harmless k.2)
    (s : Surroundings) : keywordsLine s keywords = none := by
  induction keywords with
  | nil => rw [keywordsLine]
  | cons k rest ih =>
    obtain ⟨id, e⟩ := k
    rw [keywordsLine, h _ List.mem_cons_self s .value rfl, ih fun k hk => h k (List.mem_cons_of_mem _ hk)]
    rfl

/-- Keywords that are different are not repeated. -/
private theorem repeatedName_keywords {keywords : List (Option String × Expr)}
    (hnodup : (keywords.filterMap (·.1)).Nodup) :
    repeatedName [] (keywords.filterMap fun (id, e) => id.map (e.line, ·)) = none := by
  rw [repeatedName_eq_none_iff]
  refine ⟨?_, by simp⟩
  have hnames : (fun k : Option String × Expr => (k.1.map (k.2.line, ·)).map (·.2)) = (·.1) := by
    funext k
    cases k.1 <;> rfl
  rw [List.map_filterMap]
  change (keywords.filterMap fun k => (k.1.map (k.2.line, ·)).map (·.2)).Nodup
  rw [hnames]
  exact hnodup

/-- Keywords that may be bound violate nothing. -/
private theorem violation_keywords (line : Nat) {keywords : List (Option String × Expr)}
    (hallowed : ∀ k ∈ keywords, ∀ id, k.1 = some id → isForbidden id = false) :
    violation (keywords.any fun (id, _) => id.any isForbidden) line = none := by
  rw [violation_eq_none_iff, List.any_eq_false]
  intro k hk
  obtain ⟨id, e⟩ := k
  cases id with
  | none => simp
  | some id => simp [hallowed _ hk id rfl]

theorem harmless_call (line : Nat) {function : Expr} {arguments : List Expr} {keywords : List (Option String × Expr)}
    (hfunction : Harmless function) (harguments : ∀ e ∈ arguments, Harmless e) (hvalues : ∀ k ∈ keywords, Harmless k.2)
    (hnodup : (keywords.filterMap (·.1)).Nodup) (hallowed : ∀ k ∈ keywords, ∀ id, k.1 = some id → isForbidden id = false) :
    Harmless (.call line function arguments keywords) := by
  intro s role _
  rw [exprLine, hfunction s .value rfl, repeatedName_keywords hnodup, violation_keywords line hallowed,
    exprsLine_of_harmless harguments s rfl, keywordsLine_of_harmless hvalues s]
  rfl

end NavFactory.Source
