import NavFactory.Proofs.MethodShape
import NavFactory.Source.Check

/-!
# Names in the bodies of generated methods

In the body of a method a name is an identifier of the class around it: spellings that agree after composition are one
identifier, and one that is private to the class gets the name of the class in front.  It refers to a variable of the
method, or else to what the module binds it to, or else to what is in scope everywhere (`Container.meaning`).

Arguments are never in the way of a type that the body refers to (`argument_ne_nameOf`), but the list of the providers,
the class of the method and the class around it may be.  `meaning_bodyTypes_iff` says for which names.
-/

namespace NavFactory

/-! ### Arguments -/

namespace TargetKind

/-- The types that the body of a planned method refers to. -/
def bodyTypes (t : TargetKind) (p : PlannedMethod) : List TypeRef :=
  [p.target.typeRef, providerType, listType, t.descriptor] ++ p.entries.map (·.type) ++
    t.attributes.flatMap (·.types p.target.usage)

theorem bodyTypes_subset (t : TargetKind) (p : PlannedMethod) : t.bodyTypes p ⊆ t.typesOf p := fun _ h =>
  List.mem_append_left _ h

end TargetKind

section Arguments

variable {t : TargetKind} {p : PlannedMethod} {m : Method} {nameOf : TypeRef → String}

private theorem headName_append {x : String} (hx : '.' ∉ x.toList) (y : String) : headName (x ++ "." ++ y) = x := by
  have hall : ∀ c ∈ x.toList, (c != '.') = true := fun c hc => by
    rw [bne_iff_ne]
    rintro rfl
    exact hx hc
  rw [headName, String.toList_append, String.toList_append, List.append_assoc, List.takeWhile_append_of_pos hall]
  simp

/-- The value of an attribute starts with the name of the type that it refers to, if it refers to one. -/
private theorem headName_textUnder (hstate : '.' ∉ (nameOf stateType).toList) {a : Attribute} {usage : Usage}
    {text : String} {u : TypeRef} (h : a.textUnder nameOf usage = .ok text) (hu : u ∈ a.types usage) :
    headName text = nameOf u := by
  unfold Attribute.types at hu
  split at hu
  · rename_i hk hv
    obtain rfl := List.mem_singleton.1 hu
    rw [Attribute.textUnder, hk, hv, Except.ok.injEq] at h
    rw [← h]
    exact headName_append hstate _
  · cases hu

private theorem mem_headNames (hstate : '.' ∉ (nameOf stateType).toList) {usage : Usage}
    {attributes : List Attribute} {texts : List (String × String)} {u : TypeRef}
    (h : attributeTextsUnder nameOf usage attributes = .ok texts) (hu : u ∈ attributes.flatMap (·.types usage)) :
    nameOf u ∈ texts.map fun a => headName a.2 := by
  induction attributes generalizing texts with
  | nil => cases hu
  | cons a rest ih =>
    rw [attributeTextsUnder, bind_eq_ok_iff] at h
    obtain ⟨text, ha, h⟩ := h
    obtain ⟨others, hr, h⟩ := bind_eq_ok_iff.1 h
    obtain rfl := Except.ok.inj h
    rw [List.flatMap_cons, List.mem_append] at hu
    rw [List.map_cons, List.mem_cons]
    rcases hu with hu | hu
    · exact Or.inl (headName_textUnder hstate ha hu).symm
    · exact Or.inr (ih hr hu)

/-- An argument is neither the list of the providers nor the name of a type that the body refers to. -/
theorem argument_ne_nameOf (h : t.methodUnder nameOf p = .ok m) (hstate : '.' ∉ (nameOf stateType).toList) :
    ∀ a ∈ m.parameters.map (·.name), a ≠ parameterList ∧ ∀ u ∈ t.bodyTypes p, a ≠ nameOf u := by
  rw [methodUnder_eq, map_eq_ok_iff] at h
  obtain ⟨texts, htexts, rfl⟩ := h
  have hcollects := p.collects_assembleUnder nameOf (t.bodyNames nameOf p.target) texts
  -- all these names are taken when the arguments are assigned
  have htaken : ∀ u ∈ t.bodyTypes p, nameOf u ∈ p.referredNames nameOf (t.bodyNames nameOf p.target) texts := by
    intro u hu
    rw [TargetKind.bodyTypes, List.mem_append, List.mem_append] at hu
    rw [PlannedMethod.referredNames, List.mem_append, List.mem_append]
    refine hu.imp (Or.imp (fun hu => ?_) fun hu => ?_) fun hu => mem_headNames hstate htexts hu
    · exact List.mem_map_of_mem (f := nameOf) hu
    · obtain ⟨e, he, rfl⟩ := List.mem_map.1 hu
      exact List.mem_map_of_mem (f := fun e : ParameterEntry => nameOf e.type) he
  intro a ha
  rw [hcollects.parameters_eq, (PlannedMethod.perm_names hcollects.length_arguments).mem_iff] at ha
  obtain ⟨-, hne, hfree⟩ := (p.separates_argumentNames nameOf _ texts).free a ha
  exact ⟨hne, fun u hu he => hfree (he ▸ htaken u hu)⟩

end Arguments

/-! ### Names of states -/

namespace ImportTable

/-- Each imported type goes by one of the names that are tried for it. -/
def Tried (table : ImportTable) : Prop := ∀ a ∈ table.aliases, ∃ n, a.2 = a.1.candidateName n

theorem Tried.nameOf {table : ImportTable} (h : table.Tried) (u : TypeRef) :
    ∃ n, table.nameOf u = u.candidateName n := by
  rw [ImportTable.nameOf]
  rcases table.use_cases u with ⟨-, huse⟩ | ⟨-, name, hl, huse⟩ | ⟨-, -, huse⟩
  · exact ⟨0, congrArg Prod.fst huse⟩
  · obtain ⟨l, l', hsplit, -⟩ := List.lookup_eq_some_iff.1 hl
    rw [huse]
    exact h (u, name) (by simp [hsplit])
  · obtain ⟨n, hname, -⟩ := localName_spec table.taken u
    rw [huse]
    exact ⟨n, hname⟩

theorem Tried.use {table : ImportTable} (h : table.Tried) (u : TypeRef) : (table.use u).2.Tried := by
  rcases table.use_cases u with ⟨-, huse⟩ | ⟨-, name, -, huse⟩ | ⟨-, -, huse⟩
  · rw [huse]
    exact h
  · rw [huse]
    exact h
  · obtain ⟨n, hname, -⟩ := localName_spec table.taken u
    rw [huse]
    intro a ha
    rcases List.mem_append.1 ha with ha | ha
    · exact h a ha
    · obtain rfl := List.mem_singleton.1 ha
      exact ⟨n, hname⟩

theorem Tried.useAll {table : ImportTable} (h : table.Tried) (types : List TypeRef) :
    (table.useAll types).2.Tried := by
  induction types generalizing table with
  | nil => exact h
  | cons u rest ih => exact ih (h.use u)

end ImportTable

theorem tried_imports (t : TargetKind) (ds : List Declaration) (containerName : String) :
    (t.imports ds containerName).Tried :=
  ImportTable.Tried.useAll (fun _ ha => absurd ha List.not_mem_nil) _

/-- Whatever the type of states goes by, there is no dot in it. -/
private theorem dot_not_mem_candidateName (n : Nat) : '.' ∉ (stateType.candidateName n).toList := by
  have hflat : '.' ∉ stateType.flatName.toList := by
    decide +kernel
  match n with
  | 0 => decide
  | 1 => exact hflat
  | n + 2 =>
    rw [TypeRef.candidateName, String.toList_append, List.mem_append, not_or]
    refine ⟨hflat, fun hdot => ?_⟩
    have hdigit : '.' ∈ Nat.toDigits 10 (n + 2) := by
      change '.' ∈ (Nat.repr (n + 2)).toList at hdot
      rwa [Nat.repr_eq_ofList_toDigits, String.toList_ofList] at hdot
    exact absurd (Nat.isDigit_of_mem_toDigits (by decide) (by decide) hdigit) (by decide)

theorem dot_not_mem_nameOf_stateType (t : TargetKind) (ds : List Declaration) (containerName : String) :
    '.' ∉ ((t.imports ds containerName).nameOf stateType).toList := by
  obtain ⟨n, hname⟩ := (tried_imports t ds containerName).nameOf stateType
  rw [hname]
  exact dot_not_mem_candidateName n

/-! ### Meanings -/

/-- What a name refers to in the body of a generated method. -/
inductive Meaning
  | localVariable
  | container
  | imported (t : TypeRef)
  | builtin (name : String)
deriving DecidableEq

/-- What a name of a type has to refer to. -/
def TypeRef.meaning (t : TypeRef) : Meaning :=
  if t.isBuiltin then .builtin (Text.composed t.name) else .imported t

namespace Container

/-- The identifier that a name is in the methods of a container. -/
def identifier (c : Container) (x : String) : String :=
  (Source.Surroundings.classBody {} (Text.composed c.name)).privateName (Text.composed x)

/-- What the import lines bind an identifier to; the last binding counts. -/
def importOf? (c : Container) (identifier : String) : Option TypeRef :=
  ((c.imports.statements.flatMap (·.bindings)).reverse.map fun (x, t) => (Text.composed x, t)).lookup identifier

/-- What an identifier refers to in the module of a container. -/
def meaningInModule (c : Container) (identifier : String) : Meaning :=
  if identifier = Text.composed c.name then .container
  else match c.importOf? identifier with
    | some t => .imported t
    | none => .builtin identifier

/-- The identifiers of the variables of a method: the list of the providers and the arguments. -/
def locals (c : Container) (m : Method) : List String :=
  (parameterList :: m.parameters.map (·.name)).map c.identifier

/-- The identifier that every function of a class knows this class by. -/
def ownClass : String := "__class__"

/-- What a name refers to in the body of a method.  The other names of the class are not in scope there. -/
def meaning (c : Container) (m : Method) (x : String) : Meaning :=
  if c.identifier x ∈ c.locals m then .localVariable
  else if c.identifier x = ownClass then .container
  else c.meaningInModule (c.identifier x)

/-- What a name refers to in a body whose variables have given names. -/
def meaningAmong (c : Container) (vars : List String) (x : String) : Meaning :=
  if c.identifier x ∈ vars.map c.identifier then .localVariable
  else if c.identifier x = ownClass then .container
  else c.meaningInModule (c.identifier x)

theorem meaning_eq_meaningAmong (c : Container) (m : Method) :
    c.meaning m = c.meaningAmong (parameterList :: m.parameters.map (·.name)) := rfl

/-- The names with which a body has to do when types go by given names: those of the module, of the method and of the
types. -/
def namesAround (c : Container) (m : Method) (types : List TypeRef) : List String :=
  [parameterList, ownClass, c.name] ++ m.parameters.map (·.name) ++ c.imports.aliases.map (·.2) ++
    types.map c.imports.nameOf

/-- The names with which a body that has given variables has to do when it refers to a type. -/
def namesAmong (c : Container) (vars : List String) (u : TypeRef) : List String :=
  c.imports.nameOf u :: ownClass :: c.name :: (vars ++ c.imports.aliases.map (·.2))

/-- Whether different names stay different as identifiers. -/
def SpelledApart (c : Container) (names : List String) : Prop :=
  ∀ x ∈ names, ∀ y ∈ names, c.identifier x = c.identifier y → x = y

instance (c : Container) (names : List String) : Decidable (c.SpelledApart names) :=
  inferInstanceAs (Decidable (∀ x ∈ names, ∀ y ∈ names, c.identifier x = c.identifier y → x = y))

theorem SpelledApart.mono {c : Container} {names more : List String} (h : c.SpelledApart more) (hsub : names ⊆ more) :
    c.SpelledApart names := fun x hx y hy => h x (hsub hx) y (hsub hy)

end Container

section Meanings

variable {c : Container} {m : Method} {vars : List String} {types : List TypeRef} {u : TypeRef} {x y : String}

private theorem identifier_congr (h : Text.composed x = Text.composed y) : c.identifier x = c.identifier y := by
  rw [Container.identifier, h, Container.identifier]

/-- The name by which functions know their class is not private to it. -/
private theorem identifier_ownClass (c : Container) : c.identifier Container.ownClass = Container.ownClass := by
  have hcomposed : Text.composed Container.ownClass = Container.ownClass := by
    decide
  have hends : ['_', '_'] <:+ Container.ownClass.toList := by
    decide
  simp [Container.identifier, Source.Surroundings.privateName, Source.Surroundings.classBody, hcomposed, hends]

private theorem importOf_eq_none_iff (h : c.imports.Sound [c.name]) :
    c.importOf? y = none ↔ ∀ a ∈ c.imports.aliases, Text.composed a.2 ≠ y := by
  rw [Container.importOf?, List.lookup_eq_none_iff]
  simp only [List.mem_map, List.mem_reverse, (ImportTable.perm_bindings h).mem_iff, bne_iff_ne]
  constructor
  · intro hall a ha he
    exact hall (Text.composed a.2, a.1) ⟨(a.2, a.1), ⟨a, ha, rfl⟩, rfl⟩ he.symm
  · rintro hall - ⟨-, ⟨a, ha, rfl⟩, rfl⟩ he
    exact hall a ha he.symm

private theorem mem_aliases_of_importOf (h : c.imports.Sound [c.name]) (hu : c.importOf? y = some u) :
    ∃ x, (u, x) ∈ c.imports.aliases ∧ Text.composed x = y := by
  obtain ⟨l, l', hsplit, -⟩ := List.lookup_eq_some_iff.1 hu
  have hmem : (y, u) ∈ (c.imports.statements.flatMap (·.bindings)).reverse.map fun (x, t) => (Text.composed x, t) := by
    rw [hsplit]
    exact List.mem_append_right _ List.mem_cons_self
  obtain ⟨⟨x, t⟩, hx, he⟩ := List.mem_map.1 hmem
  rw [List.mem_reverse, (ImportTable.perm_bindings h).mem_iff, List.mem_map] at hx
  obtain ⟨a, ha, hax⟩ := hx
  simp only [Prod.mk.injEq] at he hax
  obtain ⟨rfl, rfl⟩ := hax
  obtain ⟨hx, rfl⟩ := he
  exact ⟨a.2, ha, hx⟩

/-- An identifier refers to a type in a module exactly if it is not the class of the module and is imported as the type,
or not imported and the name of the type, if that is in scope everywhere. -/
private theorem meaningInModule_eq_iff :
    c.meaningInModule y = u.meaning ↔ y ≠ Text.composed c.name ∧
      (if u.isBuiltin then c.importOf? y = none ∧ y = Text.composed u.name else c.importOf? y = some u) := by
  unfold Container.meaningInModule TypeRef.meaning
  by_cases hy : y = Text.composed c.name <;> by_cases hb : u.isBuiltin <;> cases c.importOf? y <;> simp [hy, hb]

private theorem meaningAmong_eq_iff :
    c.meaningAmong vars x = u.meaning ↔ c.identifier x ∉ vars.map c.identifier ∧
      c.identifier x ≠ Container.ownClass ∧ c.meaningInModule (c.identifier x) = u.meaning := by
  unfold Container.meaningAmong
  by_cases hlocal : c.identifier x ∈ vars.map c.identifier
  · rw [if_pos hlocal]
    refine iff_of_false ?_ fun h => h.1 hlocal
    unfold TypeRef.meaning
    split <;> exact Meaning.noConfusion
  · by_cases hclass : c.identifier x = Container.ownClass
    · rw [if_neg hlocal, if_pos hclass]
      refine iff_of_false ?_ fun h => h.2.1 hclass
      unfold TypeRef.meaning
      split <;> exact Meaning.noConfusion
    · rw [if_neg hlocal, if_neg hclass]
      exact ⟨fun h => ⟨hlocal, hclass, h⟩, fun h => h.2.2⟩

/-- Whether the name of a type can be used in the bodies of a container that have given variables. -/
@[mk_iff]
structure Container.AdmitsAmong (c : Container) (vars : List String) (u : TypeRef) : Prop where
  not_variable : c.imports.nameOf u ∉ vars
  ne_ownClass : c.imports.nameOf u ≠ ownClass
  /-- The name does not become one that is private to the class. -/
  identifier_eq : c.identifier (c.imports.nameOf u) = Text.composed (c.imports.nameOf u)
  /-- A type that is in scope everywhere is not covered by the container or an imported type. -/
  uncovered : u.isBuiltin → u.name ≠ c.name ∧ u.name ∉ c.imports.aliases.map (·.2)

instance (c : Container) (vars : List String) (u : TypeRef) : Decidable (c.AdmitsAmong vars u) :=
  decidable_of_iff _ (c.admitsAmong_iff vars u).symm

/-- A type that its name refers to is admitted. -/
theorem admitsAmong_of_meaning (hsound : c.imports.Sound [c.name])
    (h : c.meaningAmong vars (c.imports.nameOf u) = u.meaning) : c.AdmitsAmong vars u := by
  obtain ⟨hlocal, hclass, hmodule⟩ := meaningAmong_eq_iff.1 h
  obtain ⟨hcontainer, himport⟩ := meaningInModule_eq_iff.1 hmodule
  have hidentifier : c.identifier (c.imports.nameOf u) = Text.composed (c.imports.nameOf u) := by
    by_cases hb : u.isBuiltin
    · rw [if_pos hb] at himport
      rw [himport.2, nameOf_builtin _ hb]
    · rw [if_neg hb] at himport
      obtain ⟨x, hx, hcomposed⟩ := mem_aliases_of_importOf hsound himport
      rw [← hcomposed, ((hsound.mem_aliases_iff hb).1 hx).2]
  refine ⟨fun hv => hlocal (List.mem_map_of_mem hv), fun he => hclass ?_, hidentifier,
    fun hb => ⟨fun he => hcontainer ?_, fun hu => ?_⟩⟩
  · rw [he]
    exact identifier_ownClass c
  · rw [hidentifier, nameOf_builtin _ hb, he]
  · rw [if_pos hb, importOf_eq_none_iff hsound] at himport
    obtain ⟨a, ha, he⟩ := List.mem_map.1 hu
    exact himport.1 a ha (by rw [he, himport.2])

/-- An admitted type is what its name refers to, if the names around are spelled apart. -/
theorem meaning_of_admitsAmong (hsound : c.imports.Sound [c.name]) (hapart : c.SpelledApart (c.namesAmong vars u))
    (hkey : ¬u.isBuiltin → u ∈ c.imports.aliases.map (·.1)) (h : c.AdmitsAmong vars u) :
    c.meaningAmong vars (c.imports.nameOf u) = u.meaning := by
  have hnames : c.imports.nameOf u :: Container.ownClass :: c.name :: (vars ++ c.imports.aliases.map (·.2)) ⊆
      c.namesAmong vars u := List.Subset.refl _
  simp only [List.cons_subset, List.append_subset] at hnames
  obtain ⟨hname, hown, hself, hvars, haliases⟩ := hnames
  -- a name around that is the same identifier is the same name
  have heq : ∀ z ∈ c.namesAmong vars u, c.identifier z = c.identifier (c.imports.nameOf u) → z = c.imports.nameOf u :=
    fun z hz he => hapart z hz _ hname he
  have hcomposed : ∀ z ∈ c.namesAmong vars u, Text.composed z = c.identifier (c.imports.nameOf u) →
      z = c.imports.nameOf u := fun z hz he => heq z hz (identifier_congr (he.trans h.identifier_eq))
  have himported : ∀ a ∈ c.imports.aliases, Text.composed a.2 = c.identifier (c.imports.nameOf u) →
      a.2 = c.imports.nameOf u := fun a ha => hcomposed _ (haliases (List.mem_map_of_mem ha))
  have hcontainer : c.imports.nameOf u ≠ c.name := by
    by_cases hb : u.isBuiltin
    · rw [nameOf_builtin _ hb]
      exact (h.uncovered hb).1
    · exact fun he => hsound.not_reserved _ ((hsound.mem_aliases_iff hb).2 ⟨hkey hb, rfl⟩) (by simp [he])
  refine meaningAmong_eq_iff.2 ⟨fun hlocal => ?_, fun hclass => ?_, meaningInModule_eq_iff.2 ⟨fun he => ?_, ?_⟩⟩
  · obtain ⟨z, hz, he⟩ := List.mem_map.1 hlocal
    exact h.not_variable (heq z (hvars hz) he ▸ hz)
  · refine h.ne_ownClass (heq _ hown ?_).symm
    rw [identifier_ownClass, hclass]
  · exact hcontainer (hcomposed _ hself he.symm).symm
  · split
    · rename_i hb
      refine ⟨(importOf_eq_none_iff hsound).2 fun a ha he => (h.uncovered hb).2 ?_, ?_⟩
      · rw [← nameOf_builtin c.imports hb, ← himported a ha he]
        exact List.mem_map_of_mem ha
      · rw [h.identifier_eq, nameOf_builtin _ hb]
    · rename_i hb
      have halias : (u, c.imports.nameOf u) ∈ c.imports.aliases := (hsound.mem_aliases_iff hb).2 ⟨hkey hb, rfl⟩
      cases himport : c.importOf? (c.identifier (c.imports.nameOf u)) with
      | none => exact absurd h.identifier_eq.symm ((importOf_eq_none_iff hsound).1 himport _ halias)
      | some v =>
        obtain ⟨x, hx, he⟩ := mem_aliases_of_importOf hsound himport
        have := List.inj_on_of_nodup_map hsound.nodup_names hx halias (himported _ hx he)
        rw [(Prod.mk.inj this).1]

/-- Whether the name of a type can be used in the methods of a container. -/
@[mk_iff]
structure Container.Admits (c : Container) (u : TypeRef) : Prop where
  ne_parameterList : c.imports.nameOf u ≠ parameterList
  ne_ownClass : c.imports.nameOf u ≠ ownClass
  /-- The name does not become one that is private to the class. -/
  identifier_eq : c.identifier (c.imports.nameOf u) = Text.composed (c.imports.nameOf u)
  /-- A type that is in scope everywhere is not covered by the container or an imported type. -/
  uncovered : u.isBuiltin → u.name ≠ c.name ∧ u.name ∉ c.imports.aliases.map (·.2)

instance (c : Container) (u : TypeRef) : Decidable (c.Admits u) := decidable_of_iff _ (c.admits_iff u).symm

theorem admits_of_meaning (hsound : c.imports.Sound [c.name])
    (h : c.meaning m (c.imports.nameOf u) = u.meaning) : c.Admits u := by
  rw [Container.meaning_eq_meaningAmong] at h
  have hadmits := admitsAmong_of_meaning hsound h
  exact ⟨List.ne_of_not_mem_cons hadmits.not_variable, hadmits.ne_ownClass, hadmits.identifier_eq, hadmits.uncovered⟩

/-- An admitted type is what its name refers to, if the names around are spelled apart and no argument has its name. -/
theorem meaning_of_admits (hsound : c.imports.Sound [c.name]) (hapart : c.SpelledApart (c.namesAround m types))
    (hu : u ∈ types) (hkey : ¬u.isBuiltin → u ∈ c.imports.aliases.map (·.1))
    (hargument : c.imports.nameOf u ∉ m.parameters.map (·.name)) (h : c.Admits u) :
    c.meaning m (c.imports.nameOf u) = u.meaning := by
  have hnames : c.namesAmong (parameterList :: m.parameters.map (·.name)) u ⊆ c.namesAround m types := by
    have hname : c.imports.nameOf u ∈ types.map c.imports.nameOf := List.mem_map_of_mem hu
    intro z
    simp only [Container.namesAmong, Container.namesAround, List.mem_cons, List.mem_append, List.not_mem_nil, or_false]
    rintro (rfl | hz)
    · exact Or.inr hname
    · tauto
  rw [Container.meaning_eq_meaningAmong]
  exact meaning_of_admitsAmong hsound (hapart.mono hnames) hkey
    ⟨List.not_mem_cons_of_ne_of_not_mem h.ne_parameterList hargument, h.ne_ownClass, h.identifier_eq, h.uncovered⟩

/-- Names in ASCII that are not private to a class are spelled apart. -/
theorem spelledApart_of_ascii {names : List String}
    (h : ∀ x ∈ names, x.toList.all (·.toNat < 0x80) ∧ ("__".toList <+: x.toList → "__".toList <:+ x.toList)) :
    c.SpelledApart names := by
  have hidentifier : ∀ x ∈ names, c.identifier x = x := by
    intro x hx
    obtain ⟨hascii, hprivate⟩ := h x hx
    have hcomposed : Text.composed x = x := if_pos hascii
    by_cases hprefix : "__".toList <+: x.toList
    · have hsuffix := hprivate hprefix
      simp_all [Container.identifier, Source.Surroundings.privateName, Source.Surroundings.classBody]
    · simp_all [Container.identifier, Source.Surroundings.privateName, Source.Surroundings.classBody]
  intro x hx y hy he
  rwa [hidentifier x hx, hidentifier y hy] at he

end Meanings

/-! ### Methods of targets -/

section Targets

variable {t : TargetKind} {ds : List Declaration} {containerName : String} {c : Container}

/-- In the methods of a container the name of a type that the body refers to denotes this type only if the container
admits it, and it does so if the names around are spelled apart. -/
theorem meaning_bodyTypes_iff (h : (targetContainer t ds containerName).result = .ok c) :
    List.Forall₂ (fun p m => t.methodUnder c.imports.nameOf p = .ok m ∧
      (∀ u ∈ t.bodyTypes p, c.meaning m (c.imports.nameOf u) = u.meaning → c.Admits u) ∧
      (c.SpelledApart (c.namesAround m (t.bodyTypes p)) →
        ∀ u ∈ t.bodyTypes p, c.meaning m (c.imports.nameOf u) = u.meaning ↔ c.Admits u))
      (t.planned ds) c.methods := by
  obtain ⟨rfl, himports, hmethods⟩ := methods_under_imports h
  have hsound : c.imports.Sound [c.name] := himports ▸ sound_imports t ds c.name
  obtain ⟨hlength, hmethods⟩ := List.forall₂_iff_zip.1 hmethods
  refine List.forall₂_iff_zip.2 ⟨hlength, fun {p m} hpm => ?_⟩
  have hm := hmethods hpm
  have hp : p ∈ t.planned ds := (List.of_mem_zip hpm).1
  have hkey : ∀ u ∈ t.bodyTypes p, ¬u.isBuiltin → u ∈ c.imports.aliases.map (·.1) := by
    intro u hu hb
    rw [himports]
    refine (mem_keys_imports t ds c.name u).2 ⟨List.mem_append_right _ ?_, hb⟩
    exact List.mem_flatMap.2 ⟨p, hp, t.bodyTypes_subset p hu⟩
  have hargument : ∀ u ∈ t.bodyTypes p, c.imports.nameOf u ∉ m.parameters.map (·.name) := by
    intro u hu hmem
    have hstate : '.' ∉ (c.imports.nameOf stateType).toList := himports ▸ dot_not_mem_nameOf_stateType t ds c.name
    exact (argument_ne_nameOf hm hstate _ hmem).2 u hu rfl
  refine ⟨hm, fun u _ hu => admits_of_meaning hsound hu, fun hapart u hu => ⟨admits_of_meaning hsound, ?_⟩⟩
  exact meaning_of_admits hsound hapart hu (hkey u hu) (hargument u hu)

/-- A part with a parameter that has the name of a type. -/
def searchPart : Declaration where
  name := "Search"
  namespaceName := "app.parts"
  markers :=
    [⟨fragmentMarker, [], 4, []⟩,
      ⟨parameterMarker, [("key", .text "FragmentState"), ("type", .typeRef ⟨builtinModule, "str"⟩)], 5, []⟩]
  path := some "app/parts.py"
  line := 4

theorem meaning_bodyTypes_searchPart :
    ∃ c, (targetContainer fragmentTargets [searchPart] "FragmentTargets").result = .ok c ∧
      List.Forall₂ (fun p m => c.SpelledApart (c.namesAround m (fragmentTargets.bodyTypes p)) ∧
        ∀ u ∈ fragmentTargets.bodyTypes p, c.meaning m (c.imports.nameOf u) = u.meaning)
        (fragmentTargets.planned [searchPart]) c.methods := by
  have hrun : ((targetContainer fragmentTargets [searchPart] "FragmentTargets").result.toOption.map fun c =>
      decide (∀ p ∈ fragmentTargets.planned [searchPart], ∀ m ∈ c.methods,
        c.SpelledApart (c.namesAround m (fragmentTargets.bodyTypes p)) ∧
          ∀ u ∈ fragmentTargets.bodyTypes p, c.Admits u)) = some true := by
    decide +kernel
  obtain ⟨c, hc, hall⟩ := map_toOption_eq_some_iff.1 hrun
  rw [decide_eq_true_iff] at hall
  obtain ⟨hlength, hmethods⟩ := List.forall₂_iff_zip.1 (meaning_bodyTypes_iff hc)
  refine ⟨c, hc, List.forall₂_iff_zip.2 ⟨hlength, fun {p m} hpm => ?_⟩⟩
  obtain ⟨hapart, hadmits⟩ := hall p (List.of_mem_zip hpm).1 m (List.of_mem_zip hpm).2
  exact ⟨hapart, fun u hu => ((hmethods hpm).2.2 hapart u hu).2 (hadmits u hu)⟩

/-- A screen that has the name of the list of the providers. -/
def listScreen : Declaration where
  name := parameterList
  namespaceName := "app.screens"
  markers := [⟨activityMarker, [], 3, []⟩]
  path := some "app/screens.py"
  line := 3

/-- The name of a class may refer to a variable of its method. -/
theorem exists_captured_class :
    ¬∀ t ∈ [activityTargets, fragmentTargets], ∀ (ds : List Declaration) (containerName : String) (c : Container),
      Text.isIdentifier containerName → (targetContainer t ds containerName).result = .ok c →
        List.Forall₂ (fun p m => (∀ u ∈ t.bodyTypes p, Text.isIdentifier u.name ∧ ¬Text.isReserved u.name) →
          ∀ u ∈ t.bodyTypes p, c.meaning m (c.imports.nameOf u) = u.meaning) (t.planned ds) c.methods := by
  intro hall
  have hrun : ((targetContainer activityTargets [listScreen] "ActivityTargets").result.toOption.map fun c =>
      decide (∃ x ∈ (activityTargets.planned [listScreen]).zip c.methods,
        (∀ u ∈ activityTargets.bodyTypes x.1, Text.isIdentifier u.name ∧ ¬Text.isReserved u.name) ∧
          ∃ u ∈ activityTargets.bodyTypes x.1, c.meaning x.2 (c.imports.nameOf u) ≠ u.meaning)) = some true := by
    decide +kernel
  obtain ⟨c, hc, hcaptured⟩ := map_toOption_eq_some_iff.1 hrun
  obtain ⟨⟨p, m⟩, hpm, hnames, u, hu, hne⟩ := of_decide_eq_true hcaptured
  obtain ⟨-, hmethods⟩ := List.forall₂_iff_zip.1 (hall activityTargets List.mem_cons_self _ _ c (by decide) hc)
  exact hne (hmethods hpm hnames u hu)

end Targets

end NavFactory
