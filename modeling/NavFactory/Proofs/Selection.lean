import Mathlib.Data.List.Sort
import Mathlib.Data.Prod.Lex
import Mathlib.Data.String.Basic
import NavFactory.Selection
import NavFactory.Proofs.Sorting

/-!
# Selected classes

The classes with a marker fall into those that are selected and those whose name clashes with a selected one
(`select_split`); each marked declaration that is no class and each class that clashes has an error.  The names of
the selected classes increase strictly (`pairwise_name_select`).
-/

namespace NavFactory

/-- Whether a declaration carries a marker. -/
def Declaration.carries (d : Declaration) (marker : String) : Prop := (d.firstUsage? marker).isSome

instance (d : Declaration) (marker : String) : Decidable (d.carries marker) :=
  inferInstanceAs (Decidable ((d.firstUsage? marker).isSome = true))

/-! ### Candidates -/

/-- The candidate for a marker that a declaration is, if it carries the marker and is a class. -/
def Declaration.candidate? (marker : String) (d : Declaration) : Option Selected :=
  (d.firstUsage? marker).bind fun usage => if d.kind = .classDefinition then some ⟨d, usage⟩ else none

/-- The error for a marker on a declaration, if it carries the marker and is no class. -/
def Declaration.misuse? (marker : String) (d : Declaration) : Option Diagnostic :=
  if d.carries marker ∧ d.kind ≠ .classDefinition then some (notAClass marker d) else none

/-- Each declaration is a candidate, an error or neither, whatever the others are. -/
theorem candidates_eq (marker : String) (ds : List Declaration) :
    candidates marker ds = (ds.filterMap (·.candidate? marker), ds.filterMap (·.misuse? marker)) := by
  induction ds with
  | nil => rfl
  | cons d rest ih =>
    unfold candidates
    rw [ih, List.filterMap_cons, List.filterMap_cons]
    cases hu : d.firstUsage? marker with
    | none => simp [Declaration.candidate?, Declaration.misuse?, Declaration.carries, hu]
    | some usage =>
      by_cases hk : d.kind = .classDefinition <;>
        simp [Declaration.candidate?, Declaration.misuse?, Declaration.carries, hu, hk]

theorem candidate?_eq_some_iff {marker : String} {d : Declaration} {s : Selected} :
    d.candidate? marker = some s ↔
      s.declaration = d ∧ d.kind = .classDefinition ∧ d.firstUsage? marker = some s.usage := by
  unfold Declaration.candidate?
  cases d.firstUsage? marker with
  | none => simp
  | some usage =>
    by_cases hk : d.kind = .classDefinition
    · obtain ⟨d', usage'⟩ := s
      simp [hk, eq_comm]
    · simp [hk]

/-- The candidates are the classes that carry the marker, each with its first use. -/
theorem mem_candidates {marker : String} {ds : List Declaration} {s : Selected} :
    s ∈ (candidates marker ds).1 ↔
      s.declaration ∈ ds ∧ s.declaration.kind = .classDefinition ∧
        s.declaration.firstUsage? marker = some s.usage := by
  simp only [candidates_eq, List.mem_filterMap, candidate?_eq_some_iff]
  constructor
  · rintro ⟨d, hd, rfl, hs⟩
    exact ⟨hd, hs⟩
  · rintro ⟨hd, hs⟩
    exact ⟨_, hd, rfl, hs⟩

/-- The candidates come from different places of the list of declarations. -/
theorem sublist_candidates (marker : String) (ds : List Declaration) :
    ((candidates marker ds).1.map (·.declaration)).Sublist ds := by
  rw [candidates_eq]
  induction ds with
  | nil => exact List.Sublist.slnil
  | cons d rest ih =>
    cases hd : d.candidate? marker with
    | none => exact (List.filterMap_cons_none hd ▸ ih).cons d
    | some s =>
      dsimp only
      rw [List.filterMap_cons_some hd, List.map_cons, (candidate?_eq_some_iff.1 hd).1]
      exact ih.cons_cons d

/-- The errors of the candidates are those of the marked declarations that are no classes. -/
theorem mem_candidates_problems {marker : String} {ds : List Declaration} {e : Diagnostic} :
    e ∈ (candidates marker ds).2 ↔
      ∃ d ∈ ds, d.carries marker ∧ d.kind ≠ .classDefinition ∧ e = notAClass marker d := by
  have hmisuse : ∀ d : Declaration,
      d.misuse? marker = some e ↔ d.carries marker ∧ d.kind ≠ .classDefinition ∧ e = notAClass marker d := by
    intro d
    unfold Declaration.misuse?
    split
    · rename_i hd
      simp [hd, eq_comm]
    · rename_i hd
      simp only [reduceCtorEq, false_iff]
      exact fun h => hd ⟨h.1, h.2.1⟩
  simp only [candidates_eq, List.mem_filterMap, hmisuse]

/-! ### The first class of each name -/

/-- The list falls into the classes that are kept and those that clash with an earlier one of their name, each with its
error. -/
private theorem firstOfEachName_split (marker : String) (kept l : List Selected) :
    ∃ clashes : List (Selected × Selected),
      ((firstOfEachName marker kept l).1 ++ clashes.map (·.2)).Perm l ∧
        ((firstOfEachName marker kept l).2 = clashes.map fun c => nameClash marker c.1 c.2) ∧
        ∀ c ∈ clashes, (c.1 ∈ kept ∨ c.1 ∈ (firstOfEachName marker kept l).1) ∧ c.1.name = c.2.name := by
  induction l generalizing kept with
  | nil => exact ⟨[], List.Perm.refl _, rfl, nofun⟩
  | cons s rest ih =>
    unfold firstOfEachName
    cases hf : kept.find? (·.name == s.name) with
    | some first =>
      obtain ⟨clashes, hperm, hproblems, hnames⟩ := ih kept
      refine ⟨(first, s) :: clashes, ?_, by simp [hproblems], List.forall_mem_cons.2 ⟨?_, hnames⟩⟩
      · exact List.perm_middle.trans (hperm.cons s)
      · exact ⟨Or.inl (List.mem_of_find?_eq_some hf), by simpa using List.find?_some hf⟩
    | none =>
      obtain ⟨clashes, hperm, hproblems, hnames⟩ := ih (s :: kept)
      refine ⟨clashes, hperm.cons s, hproblems, fun c hc => ⟨?_, (hnames c hc).2⟩⟩
      rcases (hnames c hc).1 with hkept | hrecords
      · rcases List.mem_cons.1 hkept with rfl | hkept
        · exact Or.inr List.mem_cons_self
        · exact Or.inl hkept
      · exact Or.inr (List.mem_cons_of_mem s hrecords)

private theorem sublist_firstOfEachName (marker : String) (kept l : List Selected) :
    (firstOfEachName marker kept l).1.Sublist l := by
  induction l generalizing kept with
  | nil => exact List.Sublist.slnil
  | cons s rest ih =>
    unfold firstOfEachName
    cases kept.find? (·.name == s.name) with
    | some first => exact (ih kept).cons s
    | none => exact (ih (s :: kept)).cons_cons s

/-- No two of the classes that are kept have the same name, and none has the name of one kept before. -/
private theorem name_firstOfEachName (marker : String) (kept l : List Selected) :
    ((firstOfEachName marker kept l).1.map (·.name)).Nodup ∧
      ∀ s ∈ (firstOfEachName marker kept l).1, ∀ k ∈ kept, k.name ≠ s.name := by
  induction l generalizing kept with
  | nil => simp [firstOfEachName]
  | cons s rest ih =>
    unfold firstOfEachName
    cases hf : kept.find? (·.name == s.name) with
    | some first => exact ih kept
    | none =>
      obtain ⟨hnd, hne⟩ := ih (s :: kept)
      have hs : ∀ k ∈ kept, k.name ≠ s.name := by
        simpa using List.find?_eq_none.1 hf
      constructor
      · rw [List.map_cons, List.nodup_cons]
        refine ⟨fun hm => ?_, hnd⟩
        obtain ⟨r, hr, hrs⟩ := List.mem_map.1 hm
        exact hne r hr s List.mem_cons_self hrs.symm
      · intro r hr k hk
        rcases List.mem_cons.1 hr with rfl | hr
        · exact hs k hk
        · exact hne r hr k (List.mem_cons_of_mem s hk)

/-- What is kept does not depend on the classes kept before, except that none of their names comes again. -/
private theorem firstOfEachName_eq_filter (marker : String) (kept l : List Selected) :
    (firstOfEachName marker kept l).1 =
      (firstOfEachName marker [] l).1.filter fun s => ∀ k ∈ kept, k.name ≠ s.name := by
  induction l generalizing kept with
  | nil => rfl
  | cons s rest ih =>
    have hcons : (firstOfEachName marker [] (s :: rest)).1 = s :: (firstOfEachName marker [s] rest).1 := rfl
    rw [hcons, ih [s], firstOfEachName]
    cases hf : kept.find? (·.name == s.name) with
    | some first =>
      have hname : first.name = s.name := by simpa using List.find?_some hf
      have hs : ¬∀ k ∈ kept, k.name ≠ s.name := fun h => h first (List.mem_of_find?_eq_some hf) hname
      rw [List.filter_cons_of_neg (by simpa using hs), List.filter_filter]
      refine (ih kept).trans (List.filter_congr fun r _ => ?_)
      rw [← Bool.decide_and, decide_eq_decide]
      refine ⟨fun h => ⟨h, fun k hk => ?_⟩, And.left⟩
      rw [List.mem_singleton] at hk
      exact fun he => h first (List.mem_of_find?_eq_some hf) (hname.trans (hk ▸ he))
    | none =>
      have hs : ∀ k ∈ kept, k.name ≠ s.name := by
        simpa using List.find?_eq_none.1 hf
      rw [List.filter_cons_of_pos (by simpa using hs), List.filter_filter]
      refine congrArg (s :: ·) ((ih (s :: kept)).trans (List.filter_congr fun r _ => ?_))
      rw [← Bool.decide_and, decide_eq_decide]
      simp [and_comm]

theorem firstOfEachName_cons (marker : String) (s : Selected) (l : List Selected) :
    (firstOfEachName marker [] (s :: l)).1 = s :: (firstOfEachName marker [] l).1.filter (s.name ≠ ·.name) := by
  have hcons : (firstOfEachName marker [] (s :: l)).1 = s :: (firstOfEachName marker [s] l).1 := rfl
  rw [hcons, firstOfEachName_eq_filter]
  simp

/-- A class is kept exactly if it is the first of its name. -/
theorem mem_firstOfEachName_iff {marker : String} {l : List Selected} {s : Selected} :
    s ∈ (firstOfEachName marker [] l).1 ↔ l.find? (·.name = s.name) = some s := by
  induction l with
  | nil => simp [firstOfEachName]
  | cons a l ih =>
    rw [firstOfEachName_cons, List.mem_cons, List.mem_filter, ih]
    by_cases ha : a.name = s.name
    · rw [List.find?_cons_of_pos (by simpa using ha), Option.some.injEq, @eq_comm _ a]
      exact or_iff_left fun h => of_decide_eq_true h.2 ha
    · rw [List.find?_cons_of_neg (by simpa using ha)]
      simp only [ne_eq, ha, not_false_iff, decide_true, and_true]
      exact or_iff_right fun he => ha (he ▸ rfl)

/-- What is kept of two lists is what is kept of the first and what is kept of the second under new names. -/
theorem firstOfEachName_append (marker : String) (l l' : List Selected) :
    (firstOfEachName marker [] (l ++ l')).1 = (firstOfEachName marker [] l).1 ++
      (firstOfEachName marker [] l').1.filter fun s => ∀ k ∈ l, k.name ≠ s.name := by
  induction l with
  | nil => simp [firstOfEachName]
  | cons s l ih =>
    rw [List.cons_append, firstOfEachName_cons, firstOfEachName_cons, ih, List.filter_append, List.filter_filter,
      List.cons_append]
    refine congrArg (fun rest => s :: (_ ++ rest)) (List.filter_congr fun r _ => ?_)
    rw [← Bool.decide_and, decide_eq_decide, List.forall_mem_cons]

/-! ### Selection -/

theorem before_iff (a b : Selected) :
    Selected.before a b = true ↔ toLex (a.name, a.namespaceName) < toLex (b.name, b.namespaceName) := by
  rw [Prod.Lex.toLex_lt_toLex]
  simp only [Selected.before, Bool.or_eq_true, decide_eq_true_eq, Bool.and_eq_true, beq_iff_eq]

/-- The candidates fall into the selected classes and those whose name clashes with that of a selected one. -/
theorem exists_clashes (ds : List Declaration) (marker : String) :
    ∃ clashes : List (Selected × Selected),
      ((select ds marker).1 ++ clashes.map (·.2)).Perm (candidates marker ds).1 ∧
        ((select ds marker).2 = (candidates marker ds).2 ++ clashes.map fun c => nameClash marker c.1 c.2) ∧
        ∀ c ∈ clashes, c.1 ∈ (select ds marker).1 ∧ c.1.name = c.2.name := by
  obtain ⟨clashes, hperm, hproblems, hnames⟩ :=
    firstOfEachName_split marker [] (sortBy Selected.before (candidates marker ds).1)
  refine ⟨clashes, hperm.trans (perm_sortBy _ _), ?_, fun c hc => ?_⟩
  · simp only [select, hproblems]
  · exact ⟨(hnames c hc).1.resolve_left List.not_mem_nil, (hnames c hc).2⟩

/-- The candidates fall into the selected classes and those whose name clashes with that of an earlier one. -/
theorem select_split (ds : List Declaration) (marker : String) :
    ∃ clashes : List (Selected × Selected),
      ((select ds marker).1 ++ clashes.map (·.2)).Perm (candidates marker ds).1 ∧
        (select ds marker).2 = (candidates marker ds).2 ++ clashes.map fun c => nameClash marker c.1 c.2 := by
  obtain ⟨clashes, hperm, hproblems, -⟩ := exists_clashes ds marker
  exact ⟨clashes, hperm, hproblems⟩

/-- The names of the selected classes increase strictly. -/
theorem pairwise_name_select (ds : List Declaration) (marker : String) :
    (select ds marker).1.Pairwise fun a b => a.name < b.name := by
  have hle : (sortBy Selected.before (candidates marker ds).1).Pairwise fun a b => a.name ≤ b.name := by
    refine (pairwise_sortBy before_iff _).imp fun {a b} hab => ?_
    rcases Prod.Lex.toLex_le_toLex.1 hab with hlt | heq
    · exact hlt.le
    · exact heq.1.le
  have hne := (name_firstOfEachName marker [] (sortBy Selected.before (candidates marker ds).1)).1
  rw [List.Nodup, List.pairwise_map] at hne
  have := (hle.sublist (sublist_firstOfEachName marker [] _)).and hne
  exact this.imp fun ⟨hle, hne⟩ => lt_of_le_of_ne hle hne

theorem nodup_name_select (ds : List Declaration) (marker : String) :
    ((select ds marker).1.map (·.name)).Nodup := by
  rw [List.Nodup, List.pairwise_map]
  exact (pairwise_name_select ds marker).imp fun hlt => hlt.ne

/-- A selected class is a class among the declarations, with its first use of the marker. -/
theorem mem_candidates_of_select {ds : List Declaration} {marker : String} {s : Selected}
    (hs : s ∈ (select ds marker).1) : s ∈ (candidates marker ds).1 := by
  obtain ⟨clashes, hperm, -⟩ := select_split ds marker
  exact hperm.mem_iff.1 (List.mem_append_left _ hs)

end NavFactory
