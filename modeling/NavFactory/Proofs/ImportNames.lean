import Mathlib.Data.List.Sort
import Mathlib.Data.List.Perm.Subperm
import Mathlib.Data.String.Basic
import NavFactory.ImportTable
import NavFactory.Proofs.Sorting

/-!
# Names of imported types

An import table gives each type a name of its own, which is not reserved, and keeps it (`ImportTable.Sound`).  The names
tried for a type are all different (`TypeRef.candidateName_injective`), so that a free one is found
(`ImportTable.localName_spec`).  The import lines bind exactly the names that were handed out
(`ImportTable.useAll_reserving`).
-/

namespace NavFactory

/-! ### Candidates for a name -/

/-- Of more names than are taken one is free. -/
theorem exists_free {candidate : Nat → String} (hinj : Function.Injective candidate) (taken : List String) :
    ∃ n ≤ taken.length, candidate n ∉ taken := by
  by_contra hall
  push Not at hall
  have hsub : ((List.range (taken.length + 1)).map candidate).Subperm taken := by
    apply List.Nodup.subperm (List.nodup_range.map hinj)
    intro x hx
    obtain ⟨n, hn, rfl⟩ := List.mem_map.1 hx
    exact hall n (Nat.lt_succ_iff.1 (List.mem_range.1 hn))
  have hlength := hsub.length_le
  rw [List.length_map, List.length_range] at hlength
  omega

/-- The name of a type with that of its module in front. -/
def TypeRef.flatName (t : TypeRef) : String := ImportTable.flatModule t.module ++ "_" ++ t.name

/-- The names that are tried for a type, in order: its own, that with the module in front, and numbered ones. -/
def TypeRef.candidateName (t : TypeRef) : Nat → String
  | 0 => t.name
  | 1 => t.flatName
  | n + 2 => t.flatName ++ toString (n + 2)

private theorem length_lt_flatName (t : TypeRef) : t.name.length < t.flatName.length := by
  have hunderscore : "_".length = 1 := rfl
  rw [TypeRef.flatName, String.length_append, String.length_append]
  omega

private theorem length_toString_pos (n : Nat) : 0 < (toString n).length := by
  have hne : n.repr ≠ "" := Nat.repr_ne_empty
  rw [Nat.pos_iff_ne_zero, ne_eq, String.length_eq_zero_iff]
  exact hne

private theorem toString_inj {m n : Nat} (h : toString m = toString n) : m = n := by
  have hdigits : Nat.toDigits 10 m = Nat.toDigits 10 n := by
    have := congrArg String.toList (show m.repr = n.repr from h)
    simpa [Nat.repr_eq_ofList_toDigits] using this
  rw [← Nat.ofDigitChars_ten_toDigits (n := m), hdigits, Nat.ofDigitChars_ten_toDigits]

/-- No name is tried twice. -/
theorem TypeRef.candidateName_injective (t : TypeRef) : Function.Injective t.candidateName := by
  have hflat := length_lt_flatName t
  have hnumbered : ∀ n, t.flatName.length < (t.candidateName (n + 2)).length := by
    intro n
    have := length_toString_pos (n + 2)
    rw [candidateName, String.length_append]
    omega
  intro m n h
  have hlength := congrArg String.length h
  match m, n with
  | 0, 0 => rfl
  | 1, 1 => rfl
  | 0, 1 => exact absurd hlength hflat.ne
  | 1, 0 => exact absurd hlength hflat.ne'
  | 0, n + 2 => exact absurd hlength (hflat.trans (hnumbered n)).ne
  | m + 2, 0 => exact absurd hlength (hflat.trans (hnumbered m)).ne'
  | 1, n + 2 => exact absurd hlength (hnumbered n).ne
  | m + 2, 1 => exact absurd hlength (hnumbered m).ne'
  | m + 2, n + 2 => exact toString_inj ((String.append_right_inj _).1 h)

namespace ImportTable

/-- The search through the numbered names stops at the first that is free, or when it is out of tries. -/
private theorem numberedAlias_spec (taken : List String) (t : TypeRef) (fuel counter : Nat) :
    ∃ k ≤ fuel, numberedAlias taken t.flatName fuel (counter + 2) = t.candidateName (counter + k + 2) ∧
      (∀ j < k, t.candidateName (counter + j + 2) ∈ taken) ∧
      (k < fuel → t.candidateName (counter + k + 2) ∉ taken) := by
  induction fuel generalizing counter with
  | zero => exact ⟨0, le_rfl, rfl, fun _ h => absurd h (Nat.not_lt_zero _), fun h => absurd h (Nat.lt_irrefl _)⟩
  | succ fuel ih =>
    have hname : t.flatName ++ toString (counter + 2) = t.candidateName (counter + 2) := rfl
    unfold numberedAlias
    simp only [hname, List.contains_iff_mem]
    split
    · rename_i htaken
      obtain ⟨k, hk, hresult, hbefore, hfree⟩ := ih (counter + 1)
      have hshift : ∀ j, counter + 1 + j + 2 = counter + (j + 1) + 2 := fun j => by omega
      refine ⟨k + 1, Nat.succ_le_succ hk, ?_, ?_, fun hlt => ?_⟩
      · rw [Nat.add_right_comm, hresult, hshift]
      · intro j hj
        cases j with
        | zero => exact htaken
        | succ j => exact hshift j ▸ hbefore j (Nat.lt_of_succ_lt_succ hj)
      · exact hshift k ▸ hfree (Nat.lt_of_succ_lt_succ hlt)
    · rename_i hfree
      exact ⟨0, Nat.zero_le _, rfl, fun _ h => absurd h (Nat.not_lt_zero _), fun _ => hfree⟩

/-- The name under which a type is imported is the first of its candidates that is free, and there is such a one. -/
theorem localName_spec (taken : List String) (t : TypeRef) :
    ∃ n, localName taken t = t.candidateName n ∧ t.candidateName n ∉ taken ∧ ∀ m < n, t.candidateName m ∈ taken := by
  have hflat : flatModule t.module ++ "_" ++ t.name = t.flatName := rfl
  unfold localName
  simp only [hflat, List.contains_iff_mem]
  split
  · rename_i hname
    split
    · rename_i hbase
      obtain ⟨k, hk, hresult, hbefore, hfree⟩ := numberedAlias_spec taken t taken.length 0
      simp only [Nat.zero_add] at hresult hbefore hfree
      have hearlier : ∀ m < k + 2, t.candidateName m ∈ taken := by
        intro m hm
        match m with
        | 0 => exact hname
        | 1 => exact hbase
        | m + 2 => exact hbefore m (by omega)
      refine ⟨k + 2, hresult, ?_, hearlier⟩
      -- some candidate is free, and it is not an earlier one
      obtain ⟨n, hn, hnfree⟩ := exists_free t.candidateName_injective taken
      have hkn : k + 2 ≤ n := by
        by_contra hlt
        exact hnfree (hearlier n (by omega))
      exact hfree (by omega)
    · rename_i hbase
      refine ⟨1, rfl, hbase, fun m hm => ?_⟩
      obtain rfl : m = 0 := by omega
      exact hname
  · rename_i hname
    exact ⟨0, rfl, hname, fun m hm => absurd hm (Nat.not_lt_zero _)⟩

theorem localName_not_mem (taken : List String) (t : TypeRef) : localName taken t ∉ taken := by
  obtain ⟨n, hname, hfree, -⟩ := localName_spec taken t
  exact hname ▸ hfree

/-! ### Steps of a table -/

/-- The local name that a use of a type gives. -/
def nameOf (table : ImportTable) (t : TypeRef) : String := (table.use t).1

/-- The imported types have different names, none of which is reserved, and no other names are taken. -/
structure Sound (reserved : List String) (table : ImportTable) : Prop where
  nodup_types : (table.aliases.map (·.1)).Nodup
  nodup_names : (table.aliases.map (·.2)).Nodup
  mem_taken : ∀ x, x ∈ table.taken ↔ x ∈ reserved ∨ x ∈ table.aliases.map (·.2)
  not_reserved : ∀ a ∈ table.aliases, a.2 ∉ reserved
  /-- A type that goes by another name does so because its own was taken. -/
  name_taken : ∀ a ∈ table.aliases, a.1.name ∈ table.taken

theorem sound_reserving (reserved : List String) : (reserving reserved).Sound reserved where
  nodup_types := List.nodup_nil
  nodup_names := List.nodup_nil
  mem_taken x := by simp [reserving]
  not_reserved _ h := absurd h List.not_mem_nil
  name_taken _ h := absurd h List.not_mem_nil

/-- What a use does: nothing for a builtin type or one that is imported, else a new import. -/
theorem use_cases (table : ImportTable) (t : TypeRef) :
    (t.isBuiltin ∧ table.use t = (t.name, table)) ∨
      (¬t.isBuiltin ∧ ∃ name, table.aliases.lookup t = some name ∧ table.use t = (name, table)) ∨
      (¬t.isBuiltin ∧ table.aliases.lookup t = none ∧
        table.use t = (localName table.taken t,
          ⟨table.aliases ++ [(t, localName table.taken t)], localName table.taken t :: table.taken⟩)) := by
  unfold use
  by_cases hb : t.isBuiltin
  · exact Or.inl ⟨hb, by rw [if_pos hb]⟩
  · right
    rw [if_neg hb]
    cases hl : table.aliases.lookup t with
    | some name => exact Or.inl ⟨hb, name, rfl, rfl⟩
    | none => exact Or.inr ⟨hb, rfl, rfl⟩

private theorem not_mem_of_lookup_eq_none {l : List (TypeRef × String)} {t : TypeRef} (h : l.lookup t = none) :
    t ∉ l.map (·.1) := by
  intro hm
  obtain ⟨a, ha, rfl⟩ := List.mem_map.1 hm
  simpa using List.lookup_eq_none_iff.1 h a ha

/-- A use keeps a table sound. -/
theorem Sound.use {reserved : List String} {table : ImportTable} (h : table.Sound reserved) (t : TypeRef) :
    (table.use t).2.Sound reserved := by
  rcases table.use_cases t with ⟨-, huse⟩ | ⟨-, name, -, huse⟩ | ⟨-, hnew, huse⟩
  · rw [huse]
    exact h
  · rw [huse]
    exact h
  · rw [huse]
    -- only a new name changes the table, and nothing has taken it
    have hfree : ∀ x, x ∈ reserved ∨ x ∈ table.aliases.map (·.2) → x ≠ localName table.taken t := fun x hx he =>
      localName_not_mem table.taken t ((h.mem_taken _).2 (he ▸ hx))
    constructor
    case nodup_types =>
      rw [List.map_append, List.map_singleton, List.nodup_append]
      refine ⟨h.nodup_types, List.nodup_singleton _, fun a ha b hb he => not_mem_of_lookup_eq_none hnew ?_⟩
      obtain rfl : a = t := he.trans (List.mem_singleton.1 hb)
      exact ha
    case nodup_names =>
      rw [List.map_append, List.map_singleton, List.nodup_append]
      refine ⟨h.nodup_names, List.nodup_singleton _, fun a ha b hb => ?_⟩
      rw [List.mem_singleton] at hb
      exact hb ▸ hfree a (Or.inr ha)
    case mem_taken =>
      intro x
      simp only [List.mem_cons, h.mem_taken, List.map_append, List.map_singleton, List.mem_append, List.not_mem_nil,
        or_false]
      tauto
    case not_reserved =>
      intro a ha hr
      rcases List.mem_append.1 ha with ha | ha
      · exact h.not_reserved a ha hr
      · rw [List.mem_singleton] at ha
        exact hfree a.2 (Or.inl hr) (by rw [ha])
    case name_taken =>
      intro a ha
      rcases List.mem_append.1 ha with ha | ha
      · exact List.mem_cons_of_mem _ (h.name_taken a ha)
      · obtain rfl := List.mem_singleton.1 ha
        by_cases hname : t.name ∈ table.taken
        · exact List.mem_cons_of_mem _ hname
        · have hlocal : localName table.taken t = t.name := if_neg (by simpa using hname)
          rw [hlocal]
          exact List.mem_cons_self

/-- A table that another one has grown to keeps its imports. -/
def Extends (later table : ImportTable) : Prop := table.aliases <+: later.aliases

theorem Extends.refl (table : ImportTable) : table.Extends table := List.prefix_refl _

theorem Extends.trans {first second third : ImportTable} (h : third.Extends second) (h' : second.Extends first) :
    third.Extends first := List.IsPrefix.trans h' h

theorem extends_use (table : ImportTable) (t : TypeRef) : (table.use t).2.Extends table := by
  rcases table.use_cases t with ⟨-, huse⟩ | ⟨-, name, -, huse⟩ | ⟨-, -, huse⟩
  · rw [huse]
    exact .refl table
  · rw [huse]
    exact .refl table
  · rw [huse]
    exact List.prefix_append _ _

/-- A type that has been used keeps its name. -/
theorem nameOf_of_extends_use {table later : ImportTable} {t : TypeRef} (h : later.Extends (table.use t).2) :
    later.nameOf t = table.nameOf t := by
  obtain ⟨more, hmore⟩ := h
  -- after a use of a type that is not builtin its name stands in the table, and it is found first
  have hheld : ∀ name, ¬t.isBuiltin → (table.use t).2.aliases.lookup t = some name → later.nameOf t = name := by
    intro name hb hl
    have hlater : later.aliases.lookup t = some name := by
      rw [← hmore, List.lookup_append, hl]
      rfl
    simp [nameOf, ImportTable.use, hb, hlater]
  unfold nameOf at hheld ⊢
  rcases table.use_cases t with ⟨hb, huse⟩ | ⟨hb, name, hl, huse⟩ | ⟨hb, hnew, huse⟩
  · simp [ImportTable.use, hb]
  · rw [huse] at hheld ⊢
    exact hheld _ hb hl
  · rw [huse] at hheld ⊢
    refine hheld _ hb ?_
    rw [List.lookup_append, hnew, Option.none_or]
    exact List.lookup_cons_self

private theorem mem_keys_use (table : ImportTable) (t u : TypeRef) :
    u ∈ (table.use t).2.aliases.map (·.1) ↔ u ∈ table.aliases.map (·.1) ∨ (u = t ∧ ¬t.isBuiltin) := by
  rcases table.use_cases t with ⟨hb, huse⟩ | ⟨hb, name, hl, huse⟩ | ⟨hb, hnew, huse⟩
  · simp [huse, hb]
  · have ht : t ∈ table.aliases.map (·.1) := by
      obtain ⟨l, l', hsplit, -⟩ := List.lookup_eq_some_iff.1 hl
      simp [hsplit]
    rw [huse]
    constructor
    · exact Or.inl
    · rintro (hu | ⟨rfl, -⟩)
      · exact hu
      · exact ht
  · simp [huse, hb]

/-! ### Runs of a table -/

theorem useAll_cons (table : ImportTable) (t : TypeRef) (rest : List TypeRef) :
    table.useAll (t :: rest) =
      (table.nameOf t :: ((table.use t).2.useAll rest).1, ((table.use t).2.useAll rest).2) := rfl

theorem useAll_append (table : ImportTable) (types more : List TypeRef) :
    table.useAll (types ++ more) =
      ((table.useAll types).1 ++ ((table.useAll types).2.useAll more).1, ((table.useAll types).2.useAll more).2) := by
  induction types generalizing table with
  | nil => rfl
  | cons t rest ih => simp only [List.cons_append, useAll_cons, ih]

theorem Sound.useAll {reserved : List String} {table : ImportTable} (h : table.Sound reserved) (types : List TypeRef) :
    (table.useAll types).2.Sound reserved := by
  induction types generalizing table with
  | nil => exact h
  | cons t rest ih => exact ih (h.use t)

theorem extends_useAll (table : ImportTable) (types : List TypeRef) : (table.useAll types).2.Extends table := by
  induction types generalizing table with
  | nil => exact .refl table
  | cons t rest ih => exact (ih _).trans (extends_use table t)

/-- The names that were handed out are those that all later tables give. -/
theorem useAll_fst {table later : ImportTable} {types : List TypeRef} (h : later.Extends (table.useAll types).2) :
    (table.useAll types).1 = types.map later.nameOf := by
  induction types generalizing table with
  | nil => rfl
  | cons t rest ih =>
    rw [useAll_cons] at h ⊢
    rw [List.map_cons, ih h, nameOf_of_extends_use (h.trans (extends_useAll _ rest))]

/-- The imported types are those that have been used, but for the builtin ones. -/
theorem mem_keys_useAll (table : ImportTable) (types : List TypeRef) (u : TypeRef) :
    u ∈ (table.useAll types).2.aliases.map (·.1) ↔ u ∈ table.aliases.map (·.1) ∨ (u ∈ types ∧ ¬u.isBuiltin) := by
  induction types generalizing table with
  | nil => simp [useAll]
  | cons t rest ih =>
    rw [useAll_cons, ih, mem_keys_use, List.mem_cons]
    constructor
    · rintro ((h | ⟨rfl, hb⟩) | ⟨h, hb⟩)
      · exact Or.inl h
      · exact Or.inr ⟨Or.inl rfl, hb⟩
      · exact Or.inr ⟨Or.inr h, hb⟩
    · rintro (h | ⟨rfl | h, hb⟩)
      · exact Or.inl (Or.inl h)
      · exact Or.inl (Or.inr ⟨rfl, hb⟩)
      · exact Or.inr ⟨h, hb⟩

/-- An import is what the table gives as the name of the type. -/
theorem Sound.mem_aliases_iff {reserved : List String} {table : ImportTable} (h : table.Sound reserved) {t : TypeRef}
    (hb : ¬t.isBuiltin) {x : String} :
    (t, x) ∈ table.aliases ↔ t ∈ table.aliases.map (·.1) ∧ table.nameOf t = x := by
  have hname : ∀ y, (t, y) ∈ table.aliases → table.nameOf t = y := by
    intro y hy
    simp [nameOf, ImportTable.use, hb, (lookup_eq_some_iff_mem h.nodup_types).2 hy]
  constructor
  · exact fun hx => ⟨List.mem_map_of_mem hx, hname x hx⟩
  · rintro ⟨ht, rfl⟩
    obtain ⟨⟨t', y⟩, hy, rfl⟩ := List.mem_map.1 ht
    rwa [hname y hy]

end ImportTable

/-! ### Import lines -/

/-- A statement that imports names from a module, each bound to a local name. -/
structure ImportStatement where
  module : String
  names : List (String × String)
deriving DecidableEq

namespace ImportStatement

/-- An imported name with its local name, as a statement shows it. -/
def shown (n : String × String) : String := if n.2 = n.1 then n.1 else n.1 ++ " as " ++ n.2

/-- The line of a statement. -/
def text (i : ImportStatement) : String := "from " ++ i.module ++ " import " ++ ", ".intercalate (i.names.map shown)

/-- What a statement binds local names to. -/
def bindings (i : ImportStatement) : List (String × TypeRef) :=
  i.names.map fun (name, localName) => (localName, ⟨i.module, name⟩)

/-- What a name refers to after several statements; the last binding of a name counts. -/
def resolve (statements : List ImportStatement) (x : String) : Option TypeRef :=
  ((statements.flatMap bindings).reverse).lookup x

end ImportStatement

namespace ImportTable

/-- The statements of the import lines. -/
def statements (table : ImportTable) : List ImportStatement :=
  table.modules.map fun module =>
    ⟨module, sortBy (fun a b => ImportStatement.shown a < ImportStatement.shown b)
      ((table.aliases.filter (·.1.module == module)).map fun (t, name) => (t.name, name))⟩

theorem lines_eq (table : ImportTable) : table.lines = table.statements.map (·.text) := by
  have hentry : ∀ t name, entry t name = ImportStatement.shown (t.name, name) := by
    intro t name
    unfold entry ImportStatement.shown
    by_cases h : name = t.name
    · simp [h]
    · simp [h]
  rw [lines, statements, List.map_map]
  refine List.map_congr_left fun module _ => ?_
  simp only [line, ImportStatement.text, Function.comp_apply, sortTexts, hentry]
  rw [map_sortBy ImportStatement.shown (fun a b => decide (a < b)), List.map_map]
  rfl

theorem mem_modules (table : ImportTable) (module : String) :
    module ∈ table.modules ↔ module ∈ table.aliases.map (·.1.module) := by
  rw [modules, sortTexts, mem_sortBy, mem_dedupe]

/-- The statements stand in increasing order of their modules. -/
theorem pairwise_statements (table : ImportTable) : table.statements.Pairwise (·.module < ·.module) := by
  rw [statements, List.pairwise_map]
  have hnodup : ((dedupe (table.aliases.map (·.1.module))).map id).Nodup := by
    rw [List.map_id]
    exact nodup_dedupe _
  exact pairwise_lt_sortBy (fun a b => show decide (a < b) = true ↔ id a < id b by simp) hnodup

private theorem mem_bindings (table : ImportTable) (x : String) (t : TypeRef) :
    (x, t) ∈ table.statements.flatMap (·.bindings) ↔ (t, x) ∈ table.aliases := by
  simp only [statements, ImportStatement.bindings, List.mem_flatMap, List.mem_map, exists_exists_and_eq_and,
    mem_sortBy, List.mem_filter, beq_iff_eq, mem_modules, Prod.exists, Prod.mk.injEq]
  constructor
  · rintro ⟨module, -, name, y, ⟨t', y', ⟨ha, rfl⟩, rfl, rfl⟩, rfl, rfl⟩
    exact ha
  · intro ha
    exact ⟨t.module, ⟨t, x, ha, rfl⟩, t.name, x, ⟨t, x, ⟨ha, rfl⟩, rfl, rfl⟩, rfl, rfl⟩

/-- Different names within a statement, since they are names of the table; different modules between them. -/
private theorem nodup_bindings {reserved : List String} {table : ImportTable} (h : table.Sound reserved) :
    (table.statements.flatMap (·.bindings)).Nodup := by
  rw [List.nodup_flatMap]
  constructor
  · intro i hi
    obtain ⟨module, -, rfl⟩ := List.mem_map.1 hi
    apply List.Nodup.of_map (·.1)
    have hlocals : ((table.aliases.filter (·.1.module == module)).map fun (t, name) => (t.name, name)).map Prod.snd =
        (table.aliases.filter (·.1.module == module)).map (·.2) := by
      rw [List.map_map]
      rfl
    rw [ImportStatement.bindings, List.map_map]
    refine ((perm_sortBy _ _).map Prod.snd).nodup_iff.2 ?_
    rw [hlocals]
    exact h.nodup_names.sublist (List.filter_sublist.map _)
  · refine table.pairwise_statements.imp fun {i j} hij b hi hj => ?_
    obtain ⟨n, -, rfl⟩ := List.mem_map.1 hi
    obtain ⟨n', -, he⟩ := List.mem_map.1 hj
    rw [Prod.mk.injEq, TypeRef.mk.injEq] at he
    exact hij.ne he.2.1.symm

/-- The statements bind the imported types to their names. -/
theorem perm_bindings {reserved : List String} {table : ImportTable} (h : table.Sound reserved) :
    (table.statements.flatMap (·.bindings)).Perm (table.aliases.map fun (t, name) => (name, t)) := by
  have hnodup : (table.aliases.map fun (t, name) => (name, t)).Nodup := by
    refine h.nodup_types.of_map.map fun a b he => ?_
    rw [Prod.mk.injEq] at he
    exact Prod.ext he.2 he.1
  refine (List.perm_ext_iff_of_nodup (nodup_bindings h) hnodup).2 fun ⟨x, t⟩ => ?_
  rw [mem_bindings, List.mem_map]
  constructor
  · exact fun ha => ⟨(t, x), ha, rfl⟩
  · rintro ⟨⟨t', y⟩, ha, he⟩
    rw [Prod.mk.injEq] at he
    exact he.1 ▸ he.2 ▸ ha

/-- Executing the statements binds each imported type to its name, and nothing else. -/
theorem resolve_statements {reserved : List String} {table : ImportTable} (h : table.Sound reserved) (x : String)
    (t : TypeRef) : ImportStatement.resolve table.statements x = some t ↔ (t, x) ∈ table.aliases := by
  have hperm := (List.reverse_perm _).trans (perm_bindings h)
  have hnames : ((table.statements.flatMap (·.bindings)).reverse.map (·.1)).Nodup := by
    refine (hperm.map _).nodup_iff.2 ?_
    rw [List.map_map]
    exact h.nodup_names
  rw [ImportStatement.resolve, lookup_eq_some_iff_mem hnames, hperm.mem_iff]
  simp

/-- What a table hands out to a run of uses, starting with reserved names.  The names handed out are those that the
table still gives in the end; different types have different ones, none is reserved, and the search for one ends at the
first candidate that is free.  The import lines name each type once, module by module in order; executing them binds
exactly the names handed out. -/
theorem useAll_reserving (reserved : List String) (types : List TypeRef) (h : ∀ t ∈ types, ¬t.isBuiltin) :
    let table := ((reserving reserved).useAll types).2
    ((reserving reserved).useAll types).1 = types.map table.nameOf ∧
      (∀ t ∈ types, ∀ u ∈ types, table.nameOf t = table.nameOf u → t = u) ∧
      (∀ t ∈ types, table.nameOf t ∉ reserved) ∧
      (∀ t, ∃ n, localName table.taken t = t.candidateName n ∧ t.candidateName n ∉ table.taken ∧
        ∀ m < n, t.candidateName m ∈ table.taken) ∧
      table.lines = table.statements.map (·.text) ∧
      table.statements.Pairwise (·.module < ·.module) ∧
      ((table.statements.flatMap (·.bindings)).map (·.2)).Perm (dedupe types) ∧
      ∀ x t, ImportStatement.resolve table.statements x = some t ↔ t ∈ types ∧ table.nameOf t = x := by
  intro table
  have hsound : table.Sound reserved := (sound_reserving reserved).useAll types
  have hkeys : ∀ t, t ∈ table.aliases.map (·.1) ↔ t ∈ types := by
    intro t
    rw [mem_keys_useAll]
    constructor
    · rintro (ht | ht)
      · cases ht
      · exact ht.1
    · exact fun ht => Or.inr ⟨ht, h t ht⟩
  have hmem : ∀ t ∈ types, (t, table.nameOf t) ∈ table.aliases := fun t ht =>
    (hsound.mem_aliases_iff (h t ht)).2 ⟨(hkeys t).2 ht, rfl⟩
  refine ⟨useAll_fst (.refl table), ?_, ?_, localName_spec table.taken, table.lines_eq,
    table.pairwise_statements, ?_, ?_⟩
  · intro t ht u hu he
    have := List.inj_on_of_nodup_map hsound.nodup_names (hmem t ht) (hmem u hu) he
    exact (Prod.mk.inj this).1
  · exact fun t ht => hsound.not_reserved _ (hmem t ht)
  · refine ((perm_bindings hsound).map _).trans ?_
    have hfirst : (table.aliases.map fun (t, name) => (name, t)).map (·.2) = table.aliases.map (·.1) := by
      rw [List.map_map]
      rfl
    rw [hfirst, List.perm_ext_iff_of_nodup hsound.nodup_types (nodup_dedupe types)]
    intro t
    rw [hkeys, mem_dedupe]
  · intro x t
    rw [resolve_statements hsound]
    constructor
    · intro hx
      have ht := (hkeys t).1 (List.mem_map_of_mem hx)
      exact ⟨ht, ((hsound.mem_aliases_iff (h t ht)).1 hx).2⟩
    · rintro ⟨ht, rfl⟩
      exact hmem t ht

/-- Three types of one name, the last two from modules that differ only in a dot. -/
def listTypes : List TypeRef := [⟨"typing", "List"⟩, ⟨"app.lib", "List"⟩, ⟨"app_lib", "List"⟩]

theorem useAll_reserving_listTypes :
    (∀ t ∈ listTypes, ¬t.isBuiltin) ∧
      ((reserving ["Targets"]).useAll listTypes).1 =
        listTypes.map ((reserving ["Targets"]).useAll listTypes).2.nameOf ∧
      ∀ t ∈ listTypes, ∀ u ∈ listTypes, ((reserving ["Targets"]).useAll listTypes).2.nameOf t =
        ((reserving ["Targets"]).useAll listTypes).2.nameOf u → t = u :=
  have h : ∀ t ∈ listTypes, ¬t.isBuiltin := by decide
  ⟨h, (useAll_reserving ["Targets"] listTypes h).1, (useAll_reserving ["Targets"] listTypes h).2.1⟩

end ImportTable

end NavFactory
