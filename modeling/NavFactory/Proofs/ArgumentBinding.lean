import NavFactory.Proofs.Isolation

/-!
# Binding the arguments of a marker

The arguments of a marker are read one after the other, those given by position first.  Each of them is recorded with its
value or leaves an error (`bindArguments_ok`): a value is recorded for the first argument of a name that has one, and the
other arguments of the name are errors.  So there is no error exactly if every argument is one of the marker, no two have
the same name and all have values (`readArguments_records`).
-/

namespace NavFactory

open Source

/-- Whether something recorded is an argument with its value. -/
def IsRead (scope : Scope) (argument : String × Expr) (recorded : String × Value) : Prop :=
  recorded.1 = argument.1 ∧ argumentValue scope argument.1 argument.2 = .ok recorded.2

/-- What is recorded of several arguments, next to the errors of the others. -/
structure Records (scope : Scope) (taken : List String) (named : List (String × Expr)) (values : List (String × Value))
    (problems : List String) : Prop where
  /-- Each argument is recorded or leaves an error. -/
  length_eq : values.length + problems.length = named.length
  in_order : ∃ used, used.Sublist named ∧ List.Forall₂ (IsRead scope) used values
  nodup : (values.map (·.1)).Nodup
  mem_iff : ∀ name v, (name, v) ∈ values ↔ Yields scope taken named name (.ok v)

variable {scope : Scope} {marker name : String} {e : Expr} {named rest : List (String × Expr)}
  {bound bound' values : List (String × Value)} {errors errors' taken problems : List String}
  {positional : List Expr} {keywords : List (Option String × Expr)} {v : Value}

/-! ### One argument after the other -/

/-- The first of several arguments is recorded, or it leaves an error because its name is bound or it has no value. -/
theorem bindArguments_cons {r : List (String × Value) × List String}
    (h : bindArguments scope marker bound errors ((name, e) :: rest) = .ok r) :
    (∃ v, name ∉ bound.map (·.1) ∧ argumentValue scope name e = .ok v ∧
        bindArguments scope marker (bound ++ [(name, v)]) errors rest = .ok r) ∨
      ∃ problem, (name ∈ bound.map (·.1) ∨ ∀ v, argumentValue scope name e ≠ .ok v) ∧
        bindArguments scope marker bound (errors ++ [problem]) rest = .ok r := by
  have hbound : bound.any (·.1 == name) = true ↔ name ∈ bound.map (·.1) := by simp
  rw [bindArguments] at h
  split_ifs at h with hany
  · exact .inr ⟨_, .inl (hbound.1 hany), h⟩
  · rw [hbound] at hany
    cases hvalue : argumentValue scope name e with
    | ok v =>
      rw [hvalue] at h
      exact .inl ⟨v, hany, rfl, h⟩
    | error fault =>
      rw [hvalue] at h
      cases fault with
      | problem text => exact .inr ⟨_, .inr (by simp), h⟩
      | tooLarge => cases h

theorem Records.nil : Records scope taken [] [] [] where
  length_eq := rfl
  in_order := ⟨[], .refl _, .nil⟩
  nodup := List.nodup_nil
  mem_iff _ _ := iff_of_false List.not_mem_nil not_yields_nil

/-- An argument with a value is recorded in front of what is recorded of the others. -/
theorem Records.cons_value (h : Records scope (taken ++ [name]) rest values problems) (hfree : name ∉ taken)
    (hvalue : argumentValue scope name e = .ok v) :
    Records scope taken ((name, e) :: rest) ((name, v) :: values) problems where
  length_eq := by
    have := h.length_eq
    simp only [List.length_cons]
    omega
  in_order := by
    obtain ⟨used, hused, hread⟩ := h.in_order
    exact ⟨(name, e) :: used, hused.cons_cons _, .cons ⟨rfl, hvalue⟩ hread⟩
  nodup := by
    rw [List.map_cons, List.nodup_cons]
    refine ⟨fun hm => ?_, h.nodup⟩
    obtain ⟨⟨n, w⟩, hw, rfl⟩ := List.mem_map.1 hm
    obtain ⟨_, _, _, _, hnew, _⟩ := (h.mem_iff n w).1 hw
    exact hnew (List.mem_append_right _ List.mem_cons_self)
  mem_iff n w := by
    rw [List.mem_cons, h.mem_iff, yields_cons_iff (taken ++ [name]) (by simp [hvalue]), hvalue, Prod.mk.injEq]
    refine or_congr_left (and_congr_right fun hn => ?_)
    simp [hfree, eq_comm]

/-- An argument whose name is taken or that has no value leaves an error in front of those of the others. -/
theorem Records.cons_problem (h : Records scope taken rest values problems)
    (hskip : name ∈ taken ∨ ∀ v, argumentValue scope name e ≠ .ok v) (problem : String) :
    Records scope taken ((name, e) :: rest) values (problem :: problems) where
  length_eq := by
    have := h.length_eq
    simp only [List.length_cons]
    omega
  in_order := by
    obtain ⟨used, hused, hread⟩ := h.in_order
    exact ⟨used, hused.cons _, hread⟩
  nodup := h.nodup
  mem_iff n w := by
    -- a name that gets a value here was taken before
    have htaken : ∀ n, n ∈ taken ↔ n ∈ taken ∨ n = name ∧ ∃ v, argumentValue scope name e = .ok v := by
      refine fun n => (or_iff_left_of_imp ?_).symm
      rintro ⟨rfl, v, hv⟩
      exact hskip.resolve_right fun hnone => hnone v hv
    rw [h.mem_iff, yields_cons_iff taken htaken]
    refine (or_iff_right ?_).symm
    rintro ⟨rfl, hfree, hvalue⟩
    exact hskip.elim hfree fun hnone => hnone w hvalue

/-- What a run over several arguments adds to what is bound and to the errors. -/
theorem bindArguments_ok (h : bindArguments scope marker bound errors named = .ok (bound', errors')) :
    ∃ values problems, bound' = bound ++ values ∧ errors' = errors ++ problems ∧
      Records scope (bound.map (·.1)) named values problems := by
  induction named generalizing bound errors with
  | nil =>
    cases h
    exact ⟨[], [], by simp, by simp, .nil⟩
  | cons argument rest ih =>
    obtain ⟨name, e⟩ := argument
    obtain ⟨v, hfree, hvalue, h⟩ | ⟨problem, hskip, h⟩ := bindArguments_cons h
    · obtain ⟨values, problems, rfl, rfl, hrest⟩ := ih h
      rw [List.map_append] at hrest
      exact ⟨(name, v) :: values, problems, by simp, rfl, hrest.cons_value hfree hvalue⟩
    · obtain ⟨values, problems, rfl, rfl, hrest⟩ := ih h
      exact ⟨values, problem :: problems, rfl, by simp, hrest.cons_problem hskip problem⟩

/-! ### Arguments without errors -/

/-- If there are no errors, all arguments are recorded. -/
theorem Records.forall₂ (h : Records scope taken named values []) : List.Forall₂ (IsRead scope) named values := by
  obtain ⟨used, hused, hread⟩ := h.in_order
  have hlength : used.length = named.length := hread.length_eq.trans h.length_eq
  rwa [hused.eq_of_length hlength] at hread

/-- Partners of arguments that keep their names have the names of the arguments. -/
theorem map_fst_of_forall₂ {P : String → Expr → Value → Prop}
    (h : List.Forall₂ (fun a b => b.1 = a.1 ∧ P a.1 a.2 b.2) named values) : values.map (·.1) = named.map (·.1) := by
  induction h with
  | nil => rfl
  | cons hab _ ih => rw [List.map_cons, List.map_cons, hab.1, ih]

theorem map_fst_of_isRead (h : List.Forall₂ (IsRead scope) named values) : values.map (·.1) = named.map (·.1) :=
  map_fst_of_forall₂ (P := fun name e v => argumentValue scope name e = .ok v) h

/-- Arguments with values and with names of their own leave no error. -/
theorem bindArguments_of_isRead (h : List.Forall₂ (IsRead scope) named values)
    (hnd : ((bound ++ values).map (·.1)).Nodup) :
    bindArguments scope marker bound errors named = .ok (bound ++ values, errors) := by
  induction h generalizing bound with
  | nil => simp [bindArguments]
  | @cons argument recorded named values hread _ ih =>
    obtain ⟨_, e⟩ := argument
    obtain ⟨name, v⟩ := recorded
    obtain ⟨rfl, hvalue⟩ := hread
    have hfree : bound.any (·.1 == name) = false := by
      rw [List.map_append, List.nodup_append] at hnd
      rw [List.any_eq_false]
      rintro ⟨m, w⟩ hm heq
      obtain rfl : m = name := by simpa using heq
      exact hnd.2.2 m (List.mem_map_of_mem hm) m (by simp) rfl
    have happend : bound ++ (name, v) :: values = bound ++ [(name, v)] ++ values := by simp
    rw [happend] at hnd ⊢
    rw [bindArguments, if_neg (by simp [hfree]), hvalue]
    exact ih hnd

/-- A run over several arguments leaves no error exactly if they have values and names of their own. -/
theorem bindArguments_nil_iff :
    (∃ values, bindArguments scope marker [] errors named = .ok (values, [])) ↔
      errors = [] ∧ (named.map (·.1)).Nodup ∧ ∀ argument ∈ named, ∃ v, argumentValue scope argument.1 argument.2 = .ok v := by
  constructor
  · rintro ⟨bound, h⟩
    obtain ⟨values, problems, -, hnil, hrecords⟩ := bindArguments_ok h
    obtain ⟨rfl, rfl⟩ := List.append_eq_nil_iff.1 hnil.symm
    have hread := hrecords.forall₂
    refine ⟨rfl, map_fst_of_isRead hread ▸ hrecords.nodup, fun argument ha => ?_⟩
    obtain ⟨recorded, -, hvalue⟩ := exists_forall₂_iff.1 ⟨values, hread⟩ argument ha
    exact ⟨recorded.2, hvalue⟩
  · rintro ⟨rfl, hnd, hall⟩
    have hread : ∀ argument ∈ named, ∃ recorded, IsRead scope argument recorded := fun argument ha =>
      (hall argument ha).elim fun v hv => ⟨(argument.1, v), rfl, hv⟩
    obtain ⟨values, hread⟩ := exists_forall₂_iff.2 hread
    exact ⟨values, bindArguments_of_isRead hread (map_fst_of_isRead hread ▸ hnd)⟩

/-! ### The arguments of a marker -/

/-- No argument is one that no marker takes exactly if there are not too many by position and each of the others has a
name. -/
theorem shapeErrors_eq_nil_iff : shapeErrors marker positional keywords = [] ↔
    positional.length ≤ (positionalNames marker).length ∧ ∀ keyword ∈ keywords, keyword.1.isSome := by
  rw [shapeErrors, List.append_eq_nil_iff, List.filterMap_eq_nil_iff]
  refine and_congr (by simp) (forall₂_congr fun keyword _ => ?_)
  obtain ⟨name, e⟩ := keyword
  cases name <;> simp

/-- The names of the arguments are those that go with the positions, then the keywords. -/
theorem map_fst_namedArguments (h : positional.length ≤ (positionalNames marker).length) :
    (namedArguments marker positional keywords).map (·.1) =
      (positionalNames marker).take positional.length ++ keywords.filterMap (·.1) := by
  rw [namedArguments, List.map_append, List.map_filterMap, List.zip_eq_zip_take_min, List.map_fst_zip (by simp),
    Nat.min_eq_right h]
  congr 1
  refine List.filterMap_congr fun keyword _ => ?_
  obtain ⟨name, e⟩ := keyword
  cases name <;> rfl

/-- The arguments of a marker are read without an error exactly if there are not more by position than the marker names,
none is a dictionary of arguments, no name comes twice and all have values; they are then these names with their values, in
their order.  Otherwise the value that is recorded for a name is that of the first argument of the name that has one, and
nothing is recorded at all only if reading a value that is wanted overflows. -/
theorem readArguments_records (scope : Scope) (marker : String) (positional : List Expr)
    (keywords : List (Option String × Expr)) :
    ((∃ bound, readArguments scope marker positional keywords = .ok (bound, [])) ↔
      positional.length ≤ (positionalNames marker).length ∧ (∀ keyword ∈ keywords, keyword.1.isSome) ∧
        ((positionalNames marker).take positional.length ++ keywords.filterMap (·.1)).Nodup ∧
        ∀ argument ∈ namedArguments marker positional keywords,
          ∃ v, argumentValue scope argument.1 argument.2 = .ok v) ∧
      match readArguments scope marker positional keywords with
      | .ok (bound, []) =>
        bound.map (·.1) = (positionalNames marker).take positional.length ++ keywords.filterMap (·.1) ∧
          List.Forall₂ (IsRead scope) (namedArguments marker positional keywords) bound
      | .ok (bound, errors) =>
        ∃ problems, errors = shapeErrors marker positional keywords ++ problems ∧
          Records scope [] (namedArguments marker positional keywords) bound problems
      | .error fault => fault = .tooLarge ∧ Overflows scope [] (namedArguments marker positional keywords) := by
  have hread : readArguments scope marker positional keywords = bindArguments scope marker []
      (shapeErrors marker positional keywords) (namedArguments marker positional keywords) := rfl
  rw [hread]
  constructor
  · rw [bindArguments_nil_iff, shapeErrors_eq_nil_iff, and_assoc]
    refine and_congr_right fun hcount => ?_
    rw [map_fst_namedArguments hcount]
  · split
    · rename_i bound h
      obtain ⟨values, problems, rfl, hnil, hrecords⟩ := bindArguments_ok h
      obtain ⟨hshape, rfl⟩ := List.append_eq_nil_iff.1 hnil.symm
      have hvalues := hrecords.forall₂
      rw [← map_fst_namedArguments (shapeErrors_eq_nil_iff.1 hshape).1]
      exact ⟨map_fst_of_isRead hvalues, hvalues⟩
    · rename_i bound errors _ h
      obtain ⟨values, problems, rfl, rfl, hrecords⟩ := bindArguments_ok h
      exact ⟨problems, rfl, hrecords⟩
    · rename_i fault h
      exact bindArguments_error_iff.1 h

end NavFactory
