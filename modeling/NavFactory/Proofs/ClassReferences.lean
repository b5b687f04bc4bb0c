import Mathlib.Data.List.Induction
import NavFactory.Proofs.Bindings

/-!
# References to classes

What a dotted name stands for in a project: names are followed through the imports of modules, from one module to the next,
and through classes to the classes inside them.  The reader makes a type reference of the full path that a name has in its
own module, cut at the last dot.  The module of the reference is the one that defines the class exactly if the class is
taken right from there, and what is imported by the reference is the class exactly if this is not inside another one
(`module_typeRef_iff`).
-/

namespace NavFactory

open Source

/-- The source files of a project with the statements at their top level. -/
abbrev Project := List (SourceName × List Stmt)

/-- What a dotted name stands for. -/
inductive Denoted
  | module (path : String)
  /-- A class at the top level of a module, or one inside it with the names that lead there. -/
  | classIn (definer name : String) (inner : List String)

/-- The names by which a binding says what is bound in a module. -/
def Binding.names : Binding → List String
  | module _ => []
  | member _ name => [name]
  | ownClass _ name => [name]

/-- Whether a class is defined among statements, with the names of the classes around it in front. -/
def DefinesClass : List Stmt → List String → Prop
  | _, [] => True
  | body, name :: names => ∃ line bases keywords inner decorators,
      .classDef line name bases keywords inner decorators ∈ body ∧ DefinesClass inner names

namespace Project

/-- What a name of a source file is bound to when the file has run. -/
def boundIn (f : SourceName × List Stmt) (name : String) : Option Binding := inForce (f.2.flatMap (bindings f.1)) name

/-- Whether there is a module of a given name, or a package with modules in it. -/
def HasModule (project : Project) (path : String) : Prop :=
  ∃ f ∈ project, DottedPath.ofText path <+: DottedPath.ofText f.1.module

instance (project : Project) (path : String) : Decidable (project.HasModule path) :=
  inferInstanceAs (Decidable (∃ f ∈ project, _))

/-- What a bound name stands for.  A name of a module is followed through the imports of that module; a name that it does
not bind may be that of a module in it. -/
inductive Means (project : Project) : Binding → Denoted → Prop
  | module {path : String} : Means project (.module path) (.module path)
  | ownClass {definer name : String} : Means project (.ownClass definer name) (.classIn definer name [])
  | bound {f : SourceName × List Stmt} {name : String} {b : Binding} {r : Denoted} (hf : f ∈ project)
      (hbound : boundIn f name = some b) (hmeans : Means project b r) : Means project (.member f.1.module name) r
  | submodule {origin name : String} (hmodule : project.HasModule (origin ++ "." ++ name))
      (hfree : ∀ f ∈ project, f.1.module = origin → boundIn f name = none) :
      Means project (.member origin name) (.module (origin ++ "." ++ name))

/-- What something has under a name. -/
inductive Gives (project : Project) : Denoted → String → Denoted → Prop
  | member {path name : String} {r : Denoted} (hmeans : project.Means (.member path name) r) :
      Gives project (.module path) name r
  | inner {f : SourceName × List Stmt} {outer name : String} {names : List String} (hf : f ∈ project)
      (hclass : DefinesClass f.2 (outer :: (names ++ [name]))) :
      Gives project (.classIn f.1.module outer names) name (.classIn f.1.module outer (names ++ [name]))

/-- What something leads to by several names, one after the other. -/
inductive Reaches (project : Project) (start : Denoted) : List String → Denoted → Prop
  | nil : Reaches project start [] start
  | concat {names : List String} {name : String} {r r' : Denoted} (hreaches : Reaches project start names r)
      (hgives : project.Gives r name r') : Reaches project start (names ++ [name]) r'

/-- What a bound name stands for with further names after dots. -/
def Denotes (project : Project) (b : Binding) (rest : List String) (r : Denoted) : Prop :=
  ∃ start, project.Means b start ∧ project.Reaches start rest r

/-- Whether a dotted name takes something from a module: by an import from it, as its own class, or after the last dot. -/
inductive TakesFrom (project : Project) : Binding → List String → String → Prop
  | member {origin name : String} : TakesFrom project (.member origin name) [] origin
  | ownClass {definer name : String} : TakesFrom project (.ownClass definer name) [] definer
  | afterDot {b : Binding} {names : List String} {name path : String} (hdenotes : project.Denotes b names (.module path)) :
      TakesFrom project b (names ++ [name]) path

/-- Whether an import by a type reference gives something. -/
def Imports (project : Project) (t : TypeRef) (r : Denoted) : Prop := project.Means (.member t.module t.name) r

/-- A dotted name at a class of a source file, where the statements in front of the class bind its head and the reader goes
by that binding. -/
structure Reads (project : Project) (source : SourceName) (before after : List Stmt) (e : Expr) (b : Binding)
    (rest : List String) : Prop where
  file : (source, before ++ after) ∈ project
  origins : ∀ c ∈ before ++ after, c.IsReadFrom source (Scope.initial source).package
  head : ∃ head, attributeChain e = head :: rest ∧ inForce (before.flatMap (bindings source)) head = some b ∧
    decisive ((before ++ after).flatMap (bindings source)) head rest.isEmpty = some b
  undotted : ∀ name ∈ b.names ++ rest, '.' ∉ name.toList

/-- Whether what stands before the last dot is spelled as a module exactly if it is one. -/
structure SpellsModules (project : Project) (b : Binding) (rest : List String) : Prop where
  module {names : List String} {name path : String} (hrest : rest = names ++ [name])
    (hdenotes : project.Denotes b names (.module path)) : DottedPath.text (b.path :: names) = path
  classIn {names : List String} {name definer outer : String} {inner : List String} (hrest : rest = names ++ [name])
    (hdenotes : project.Denotes b names (.classIn definer outer inner)) :
    ¬project.HasModule (DottedPath.text (b.path :: names))

variable {project : Project} {source : SourceName} {before after : List Stmt} {e : Expr} {b : Binding}
  {rest names inner : List String} {definer name path : String} {r start : Denoted} {t : TypeRef}

/-! ### Classes inside classes -/

/-- The names of a module stand for modules and for classes at the top level. -/
theorem inner_of_means (h : project.Means b (.classIn definer name inner)) : inner = [] := by
  generalize hr : Denoted.classIn definer name inner = r at h
  induction h with
  | module => cases hr
  | ownClass =>
    cases hr
    rfl
  | bound hf hbound hmeans ih => exact ih hr
  | submodule hmodule hfree => cases hr

theorem reaches_nil_iff : project.Reaches start [] r ↔ r = start := by
  constructor
  · intro h
    generalize hnames : ([] : List String) = names at h
    cases h with
    | nil => rfl
    | concat hreaches hgives => simp at hnames
  · rintro rfl
    exact .nil

theorem reaches_concat_iff : project.Reaches start (names ++ [name]) r ↔
    ∃ r', project.Reaches start names r' ∧ project.Gives r' name r := by
  constructor
  · intro h
    generalize hnames : names ++ [name] = all at h
    cases h with
    | nil => simp at hnames
    | concat hreaches hgives =>
      obtain ⟨rfl, hname⟩ := List.append_inj' hnames rfl
      cases hname
      exact ⟨_, hreaches, hgives⟩
  · rintro ⟨r', hreaches, hgives⟩
    exact .concat hreaches hgives

theorem denotes_nil_iff : project.Denotes b [] r ↔ project.Means b r := by
  simp [Denotes, reaches_nil_iff]

theorem denotes_concat_iff : project.Denotes b (names ++ [name]) r ↔
    ∃ r', project.Denotes b names r' ∧ project.Gives r' name r := by
  simp only [Denotes, reaches_concat_iff]
  constructor
  · rintro ⟨start, hmeans, r', hreaches, hgives⟩
    exact ⟨r', ⟨start, hmeans, hreaches⟩, hgives⟩
  · rintro ⟨r', ⟨start, hmeans, hreaches⟩, hgives⟩
    exact ⟨start, hmeans, r', hreaches, hgives⟩

/-- What is taken after a dot is taken from what stands before the dot. -/
theorem takesFrom_concat_iff : project.TakesFrom b (names ++ [name]) path ↔ project.Denotes b names (.module path) := by
  constructor
  · intro h
    generalize hnames : names ++ [name] = all at h
    cases h with
    | member => simp at hnames
    | ownClass => simp at hnames
    | afterDot hdenotes =>
      obtain ⟨rfl, -⟩ := List.append_inj' hnames rfl
      exact hdenotes
  · exact .afterDot

theorem takesFrom_nil_iff : project.TakesFrom b [] path ↔ ∃ name, b = .member path name ∨ b = .ownClass path name := by
  constructor
  · intro h
    generalize hnames : ([] : List String) = names at h
    cases h with
    | member => exact ⟨_, .inl rfl⟩
    | ownClass => exact ⟨_, .inr rfl⟩
    | afterDot hdenotes => simp at hnames
  · rintro ⟨name, rfl | rfl⟩
    · exact .member
    · exact .ownClass

/-! ### References -/

/-- The reader makes a reference of what the binding of the head gives, cut at the last dot. -/
private theorem typeRef_eq (hread : project.Reads source before after e b rest) :
    (Scope.ofSource source (before ++ after)).typeRef e =
      (Scope.splitLast (DottedPath.text (b.path :: rest))).map fun (module, name) => ⟨module, name⟩ := by
  obtain ⟨head, hchain, -, hdecisive⟩ := hread.head
  rw [Scope.typeRef, Scope.qualify_ofSource hread.origins hchain, hdecisive]
  rfl

private theorem typeRef_concat (hread : project.Reads source before after e b (names ++ [name]))
    (haccepted : (Scope.ofSource source (before ++ after)).typeRef e = some t) :
    t = ⟨DottedPath.text (b.path :: names), name⟩ := by
  have hname : '.' ∉ name.toList := hread.undotted name (by simp)
  rw [typeRef_eq hread, ← List.cons_append, Scope.splitLast_text (List.cons_ne_nil _ _) hname] at haccepted
  exact (Option.some.inj haccepted).symm

private theorem typeRef_whole {origin : String} (hread : project.Reads source before after e b [])
    (hpath : b.path = origin ++ "." ++ name) (hname : '.' ∉ name.toList)
    (haccepted : (Scope.ofSource source (before ++ after)).typeRef e = some t) : t = ⟨origin, name⟩ := by
  rw [typeRef_eq hread, DottedPath.text_singleton, hpath, Scope.splitLast_dot _ hname] at haccepted
  exact (Option.some.inj haccepted).symm

/-- What is imported and what is a module comes before the classes of a module. -/
private theorem isOwnClass_of_decisive {bs : List (String × Binding)} {isWhole : Bool} {c : Binding}
    (h : decisive bs name isWhole = some b) (hown : b.isOwnClass) (hc : (name, c) ∈ bs) : c.isOwnClass := by
  rw [decisive] at h
  cases hmember : inForce (ofKind Binding.isMember bs) name with
  | some d =>
    rw [hmember] at h
    cases h
    have hkind := (mem_of_inForce_ofKind hmember).2
    cases b with
    | member origin other => cases hown
    | _ => cases hkind
  | none =>
    cases hmodule : inForce (ofKind Binding.isModule bs) name with
    | some d =>
      rw [hmember, hmodule] at h
      cases h
      have hkind := (mem_of_inForce_ofKind hmodule).2
      cases b with
      | module path => cases hown
      | _ => cases hkind
    | none =>
      cases c with
      | module path => exact absurd rfl (inForce_ofKind_eq_none_iff.1 hmodule _ hc rfl)
      | member origin other => exact absurd rfl (inForce_ofKind_eq_none_iff.1 hmember _ hc rfl)
      | ownClass definer other => rfl

/-- A class of its own module that the reader goes by is what the module binds its name to. -/
private theorem boundIn_of_ownClass (hread : project.Reads source before after e (.ownClass definer name) rest) :
    boundIn (source, before ++ after) name = some (.ownClass definer name) ∧ definer = source.module := by
  obtain ⟨head, -, hcurrent, hdecisive⟩ := hread.head
  have hfirst : (head, .ownClass definer name) ∈ (before ++ after).flatMap (bindings source) := by
    rw [List.flatMap_append]
    exact List.mem_append_left _ (mem_of_inForce hcurrent)
  obtain ⟨rfl, rfl⟩ := Binding.ownClass.inj (eq_ownClass_of_mem hfirst rfl)
  refine ⟨?_, rfl⟩
  rw [boundIn]
  cases hlast : inForce ((before ++ after).flatMap (bindings source)) name with
  | none => exact absurd rfl (inForce_eq_none_iff.1 hlast _ hfirst)
  | some other =>
    have hbound := mem_of_inForce hlast
    rw [eq_ownClass_of_mem hbound (isOwnClass_of_decisive hdecisive rfl hbound)]

/-- The module of a reference defines the class exactly if this is taken right from it, and the reference leads to the class
exactly if this is not inside another one. -/
theorem module_typeRef_iff (hread : project.Reads source before after e b rest)
    (hspelling : project.SpellsModules b rest) (hdenotes : project.Denotes b rest (.classIn definer name inner))
    (haccepted : (Scope.ofSource source (before ++ after)).typeRef e = some t) :
    (t.module = definer ↔ project.TakesFrom b rest definer) ∧
      (project.Imports t (.classIn definer name inner) ↔ inner = []) := by
  have himports : (inner = [] → project.Imports t (.classIn definer name inner)) →
      (project.Imports t (.classIn definer name inner) ↔ inner = []) := fun h => ⟨inner_of_means, h⟩
  obtain rfl | ⟨names, last, rfl⟩ := List.eq_nil_or_concat' rest
  · rw [denotes_nil_iff] at hdenotes
    rw [takesFrom_nil_iff]
    cases b with
    | module path => cases hdenotes
    | member origin other =>
      obtain rfl := typeRef_whole hread rfl (hread.undotted other (by simp [Binding.names])) haccepted
      exact ⟨by simp, himports fun _ => hdenotes⟩
    | ownClass origin other =>
      obtain ⟨hbound, rfl⟩ := boundIn_of_ownClass hread
      obtain rfl := typeRef_whole hread rfl (hread.undotted other (by simp [Binding.names])) haccepted
      exact ⟨by simp, himports fun _ => .bound hread.file hbound hdenotes⟩
  · obtain rfl := typeRef_concat hread haccepted
    rw [takesFrom_concat_iff]
    obtain ⟨r, hr, hgives⟩ := denotes_concat_iff.1 hdenotes
    cases hgives with
    | @member path _ _ hmeans =>
      obtain rfl := hspelling.module rfl hr
      exact ⟨⟨fun hdefiner => hdefiner ▸ hr, hspelling.module rfl⟩, himports fun _ => hmeans⟩
    | @inner f outer _ around hf hclass =>
      have hother : DottedPath.text (b.path :: names) ≠ f.1.module := fun heq =>
        hspelling.classIn rfl hr ⟨f, hf, heq ▸ List.prefix_rfl⟩
      exact ⟨⟨fun hdefiner => absurd hdefiner hother, hspelling.module rfl⟩, himports fun hnil => absurd hnil (by simp)⟩

/-- A source file with a class inside a class. -/
def modelsFile : SourceName × List Stmt :=
  (⟨"app/models.py", "app.models"⟩, [.classDef 1 "Order" [] [] [.classDef 2 "Line" [] [] [.pass 3] []] []])

/-- A source file that imports the outer class. -/
def screensFile : SourceName × List Stmt :=
  (⟨"app/screens.py", "app.screens"⟩, [.importFrom 1 0 (some "app.models") (some [⟨"Order", none⟩]),
    .classDef 6 "Checkout" [] [] [.pass 7] []])

/-- A project in which a class inside a class is used elsewhere. -/
def shop : Project := [modelsFile, screensFile]

/-- The name of the inner class where the outer one is imported. -/
def lineName : Expr := .attribute 5 (.name 5 "Order") "Line"

private theorem reads_shop : shop.Reads screensFile.1 (screensFile.2.take 1) (screensFile.2.drop 1) lineName
    (.member "app.models" "Order") ["Line"] where
  file := List.mem_cons_of_mem _ List.mem_cons_self
  origins := by
    intro c hc
    rw [List.take_append_drop, screensFile, List.mem_pair] at hc
    obtain rfl | rfl := hc
    · rfl
    · trivial
  head := ⟨"Order", rfl, by decide, by decide⟩
  undotted := by decide

private theorem denotes_shop :
    shop.Denotes (.member "app.models" "Order") ["Line"] (.classIn "app.models" "Order" ["Line"]) := by
  have hmodels : modelsFile ∈ shop := List.mem_cons_self
  have horder : shop.Means (.member "app.models" "Order") (.classIn "app.models" "Order" []) :=
    .bound hmodels (by decide) .ownClass
  have hline : shop.Gives (.classIn "app.models" "Order" []) "Line" (.classIn "app.models" "Order" ["Line"]) :=
    .inner hmodels ⟨_, _, _, _, _, List.mem_cons_self, _, _, _, _, _, List.mem_cons_self, trivial⟩
  exact denotes_concat_iff.2 ⟨_, denotes_nil_iff.2 horder, hline⟩

private theorem not_hasModule_shop : ¬shop.HasModule "app.models.Order" := by decide

private theorem spellsModules_shop : shop.SpellsModules (.member "app.models" "Order") ["Line"] where
  module := by
    intro names name path hrest hdenotes
    obtain ⟨rfl, -⟩ := List.append_inj' (show [] ++ ["Line"] = names ++ [name] from hrest) rfl
    -- the class that is imported is no module
    generalize hb : Binding.member "app.models" "Order" = b at hdenotes
    generalize hr : Denoted.module path = r at hdenotes
    cases denotes_nil_iff.1 hdenotes with
    | module => cases hb
    | ownClass => cases hb
    | @bound f _ c _ hf hbound hmeans =>
      obtain ⟨hmodule, rfl⟩ := Binding.member.inj hb
      obtain rfl | rfl := List.mem_pair.1 hf
      · obtain rfl : .ownClass "app.models" "Order" = c := Option.some.inj hbound
        cases hmeans
        cases hr
      · exact absurd hmodule (by decide)
    | submodule hmodule hfree =>
      obtain ⟨rfl, rfl⟩ := Binding.member.inj hb
      exact absurd hmodule not_hasModule_shop
  classIn := by
    intro names name definer outer inner hrest hdenotes
    obtain ⟨rfl, -⟩ := List.append_inj' (show [] ++ ["Line"] = names ++ [name] from hrest) rfl
    exact not_hasModule_shop

private theorem typeRef_shop : (Scope.ofSource screensFile.1 (screensFile.2.take 1 ++ screensFile.2.drop 1)).typeRef lineName =
    some ⟨"app.models.Order", "Line"⟩ := by
  decide

theorem module_typeRef_iff_line :
    (shop.Reads screensFile.1 (screensFile.2.take 1) (screensFile.2.drop 1) lineName (.member "app.models" "Order") ["Line"] ∧
      shop.SpellsModules (.member "app.models" "Order") ["Line"] ∧
      shop.Denotes (.member "app.models" "Order") ["Line"] (.classIn "app.models" "Order" ["Line"]) ∧
      (Scope.ofSource screensFile.1 (screensFile.2.take 1 ++ screensFile.2.drop 1)).typeRef lineName =
        some ⟨"app.models.Order", "Line"⟩) ∧
    ("app.models.Order" = "app.models" ↔ shop.TakesFrom (.member "app.models" "Order") ["Line"] "app.models") ∧
      (shop.Imports ⟨"app.models.Order", "Line"⟩ (.classIn "app.models" "Order" ["Line"]) ↔ ["Line"] = []) :=
  ⟨⟨reads_shop, spellsModules_shop, denotes_shop, typeRef_shop⟩,
    module_typeRef_iff reads_shop spellsModules_shop denotes_shop typeRef_shop⟩

/-- The module of a reference may be a class. -/
theorem exists_class_as_module :
    ¬∀ (project : Project) (source : SourceName) (before after : List Stmt) (e : Expr) (b : Binding) (rest : List String)
        (t : TypeRef) (definer name : String) (inner : List String),
      project.Reads source before after e b rest → (∃ f ∈ project, f.1.module = definer) →
      ¬project.HasModule (definer ++ "." ++ name) → project.Denotes b rest (.classIn definer name inner) →
      (Scope.ofSource source (before ++ after)).typeRef e = some t → t.module = definer := by
  intro hall
  have hmodule := hall shop _ _ _ _ _ _ _ "app.models" "Order" ["Line"] reads_shop ⟨modelsFile, List.mem_cons_self, rfl⟩
    not_hasModule_shop denotes_shop typeRef_shop
  revert hmodule
  decide

end Project

end NavFactory
