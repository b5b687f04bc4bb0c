import Mathlib.Data.List.DropRight
import NavFactory.Proofs.DottedPaths

/-!
# Bindings in force

When a module runs, a name stands for what the last statement before its use has bound it to (`inForce`).  The reader
does not follow that order.  It looks a name up among the objects that the whole module imports, then among the modules
that it imports, and then, if no dots follow, among the classes that it defines (`decisive`, `Scope.qualify_ofSource`).  So it
finds the binding in force exactly where both give the name the same path (`qualify_iff_inForce`).
-/

namespace NavFactory

open Source

/-! ### What statements bind -/

/-- What a statement binds a name to. -/
inductive Binding
  /-- A module, by its dotted name. -/
  | module (path : String)
  /-- What a module has under a name. -/
  | member (origin name : String)
  /-- A class that the module with the statement defines. -/
  | ownClass (definer name : String)
deriving DecidableEq

namespace Binding

/-- The full path of what is bound. -/
def path : Binding → String
  | module path => path
  | member origin name => origin ++ "." ++ name
  | ownClass definer name => definer ++ "." ++ name

def isModule : Binding → Bool
  | module .. => true
  | _ => false

def isMember : Binding → Bool
  | member .. => true
  | _ => false

def isOwnClass : Binding → Bool
  | ownClass .. => true
  | _ => false

end Binding

/-- The name of the file that makes a package of a directory. -/
def initialFile : String := "__init__.py"

/-- The package that the relative imports of a source file start from: the module of the file if it is the initial file
of a package, and what that module is in otherwise. -/
def homePackage (source : SourceName) : DottedPath :=
  if (pathParts source.path).getLast? = some initialFile then .ofText source.module
  else (DottedPath.ofText source.module).dropLast

/-- The module that a relative import names.  One level is the package itself, and each further one the package that it
is in; there is none above the outermost. -/
def relativeOrigin (home : DottedPath) (level : Nat) (part : Option String) : Option DottedPath :=
  if level ≤ home.length then some (home.rdrop (level - 1) ++ part.toList) else none

/-- The module that an import takes objects from. -/
def originOf (source : SourceName) (level : Nat) (part : Option String) : Option String :=
  if level = 0 then part else (relativeOrigin (homePackage source) level part).map DottedPath.text

/-- What an import of a module binds: its alias, or its outermost package. -/
def moduleBinding (n : ImportedName) : String × Binding :=
  match n.alias? with
  | some id => (id, .module n.name)
  | none =>
    let head := (DottedPath.ofText n.name).headD ""
    (head, .module head)

/-- What an import of an object of a module binds. -/
def memberBinding (origin : String) (n : ImportedName) : String × Binding :=
  (n.alias?.getD n.name, .member origin n.name)

/-- The names that a statement at the top level of a module binds, in order, if imports take objects from given origins. -/
def bindingsFrom (origin : Nat → Option String → Option String) (module : String) : Stmt → List (String × Binding)
  | .import_ _ names => names.map moduleBinding
  | .importFrom _ level part names =>
    match origin level part with
    | some origin => (names.getD []).map (memberBinding origin)
    | none => []
  | .classDef _ name .. => [(name, .ownClass module name)]
  | _ => []

/-- The names that a statement at the top level of a source file binds, in order. -/
def bindings (source : SourceName) : Stmt → List (String × Binding) := bindingsFrom (originOf source) source.module

/-- What a name is bound to after several bindings: the last one counts. -/
def inForce (bs : List (String × Binding)) (name : String) : Option Binding := bs.reverse.lookup name

/-- The bindings of one kind. -/
def ofKind (kind : Binding → Bool) (bs : List (String × Binding)) : List (String × Binding) := bs.filter (kind ·.2)

/-- The binding that the reader goes by: the last one to an imported object, if there is none the last one to an imported
module, and if there is none and no dots follow the name, one to a class. -/
def decisive (bs : List (String × Binding)) (name : String) (isWhole : Bool) : Option Binding :=
  (inForce (ofKind Binding.isMember bs) name).or <| (inForce (ofKind Binding.isModule bs) name).or <|
    if isWhole then inForce (ofKind Binding.isOwnClass bs) name else none

/-- The full path of a name.  A name that is not bound and that no dots follow may be that of a builtin class. -/
def headPath (b : Option Binding) (name : String) (isWhole : Bool) : Option String :=
  (b.map Binding.path).or (if isWhole && builtinClasses.contains name then some (builtinModule ++ "." ++ name) else none)

/-- The full path of a dotted name by the full path of its head. -/
def dotted (head : Option String) (rest : List String) : Option String :=
  head.map fun path => DottedPath.text (path :: rest)

/-- Whether a statement is an import by full names or a class. -/
def Source.Stmt.isPlain : Stmt → Bool
  | .import_ .. => true
  | .importFrom _ level part names => level == 0 && part.isSome && names.isSome
  | .classDef .. => true
  | _ => false

variable {source : SourceName} {bs bs' : List (String × Binding)} {s s' s'' : Scope} {before after body : List Stmt}
  {c : Stmt} {b : Binding} {e : Expr} {head name : String} {rest : List String} {isPackage : Bool}

theorem dotted_inj {path other : Option String} : dotted path rest = dotted other rest ↔ path = other :=
  ⟨fun h => Option.map_injective (fun _ _ => DottedPath.text_cons_inj.1) h, fun h => by rw [h]⟩

theorem mem_of_inForce (h : inForce bs name = some b) : (name, b) ∈ bs := by
  obtain ⟨front, back, hsplit, -⟩ := List.lookup_eq_some_iff.1 h
  exact List.mem_reverse.1 (hsplit ▸ List.mem_append_right _ List.mem_cons_self)

theorem inForce_eq_none_iff : inForce bs name = none ↔ ∀ b ∈ bs, b.1 ≠ name := by
  rw [inForce, List.lookup_eq_none_iff]
  simp [ne_comm]

theorem mem_of_inForce_ofKind {kind : Binding → Bool} (h : inForce (ofKind kind bs) name = some b) :
    (name, b) ∈ bs ∧ kind b := List.mem_filter.1 (mem_of_inForce h)

theorem inForce_ofKind_eq_none_iff {kind : Binding → Bool} :
    inForce (ofKind kind bs) name = none ↔ ∀ b ∈ bs, kind b.2 → b.1 ≠ name := by
  simp only [inForce_eq_none_iff, ofKind, List.mem_filter, and_imp]

/-- A class that a source file defines is known by its own name. -/
theorem eq_ownClass_of_mem (h : (name, b) ∈ body.flatMap (bindings source)) (hown : b.isOwnClass) :
    b = .ownClass source.module name := by
  obtain ⟨c, -, hc⟩ := List.mem_flatMap.1 h
  unfold bindings bindingsFrom at hc
  split at hc
  · obtain ⟨n, -, heq⟩ := List.mem_map.1 hc
    unfold moduleBinding at heq
    split at heq <;> cases heq <;> cases hown
  · split at hc
    · obtain ⟨n, -, heq⟩ := List.mem_map.1 hc
      cases heq
      cases hown
    · cases hc
  · cases List.mem_singleton.1 hc
    rfl
  · cases hc

/-! ### The tables of a scope -/

/-- The names of one kind with their full paths, the latest first. -/
def table (kind : Binding → Bool) (bs : List (String × Binding)) : List (String × String) :=
  ((ofKind kind bs).map fun b => (b.1, b.2.path)).reverse

private theorem table_append (kind : Binding → Bool) (bs bs' : List (String × Binding)) :
    table kind (bs ++ bs') = table kind bs' ++ table kind bs := by
  simp only [table, ofKind, List.filter_append, List.map_append, List.reverse_append]

theorem lookup_table (kind : Binding → Bool) (bs : List (String × Binding)) (name : String) :
    (table kind bs).lookup name = (inForce (ofKind kind bs) name).map Binding.path := by
  rw [table, ← List.map_reverse, inForce]
  induction (ofKind kind bs).reverse with
  | nil => rfl
  | cons b l ih =>
    rw [List.map_cons, List.lookup_cons, List.lookup_cons]
    cases name == b.1 with
    | true => rfl
    | false => exact ih

private theorem contains_map_fst (l : List (String × String)) (name : String) :
    (l.map (·.1)).contains name = (l.lookup name).isSome := by
  induction l with
  | nil => rfl
  | cons b l ih =>
    rw [List.map_cons, List.contains_cons, List.lookup_cons, ih]
    cases name == b.1 <;> rfl

/-- Whether a scope holds, besides the names of another, those of several bindings. -/
structure Scope.Extends (s s' : Scope) (bs : List (String × Binding)) : Prop where
  module : s'.module = s.module
  package : s'.package = s.package
  symbols : s'.symbols = table Binding.isMember bs ++ s.symbols
  modules : s'.modules = table Binding.isModule bs ++ s.modules
  classes : s'.classes = (table Binding.isOwnClass bs).map (·.1) ++ s.classes

/-- Whether the reader takes what a statement imports from the module that it names. -/
def Source.Stmt.IsReadFrom (source : SourceName) (package : DottedPath) : Stmt → Prop
  | .importFrom _ level part _ => importOrigin package level part = originOf source level part
  | _ => True

namespace Scope

theorem Extends.refl (s : Scope) : s.Extends s [] := ⟨rfl, rfl, rfl, rfl, rfl⟩

theorem Extends.trans (h : s.Extends s' bs) (h' : s'.Extends s'' bs') : s.Extends s'' (bs ++ bs') where
  module := h'.module.trans h.module
  package := h'.package.trans h.package
  symbols := by rw [h'.symbols, h.symbols, table_append, List.append_assoc]
  modules := by rw [h'.modules, h.modules, table_append, List.append_assoc]
  classes := by rw [h'.classes, h.classes, table_append, List.map_append, List.append_assoc]

private theorem extends_importModules (s : Scope) (names : List ImportedName) :
    s.Extends (s.importModules names) (names.map moduleBinding) := by
  induction names generalizing s with
  | nil => exact .refl s
  | cons n names ih =>
    have hfirst : s.Extends (s.importModules [n]) [moduleBinding n] := by
      obtain ⟨name, alias?⟩ := n
      cases alias? <;> exact ⟨rfl, rfl, rfl, rfl, rfl⟩
    exact hfirst.trans (ih _)

private theorem extends_importObjects (s : Scope) (origin : String) (names : List ImportedName) :
    s.Extends (s.importObjects origin names) (names.map (memberBinding origin)) := by
  induction names generalizing s with
  | nil => exact .refl s
  | cons n names ih =>
    have hfirst : s.Extends (s.importObjects origin [n]) [memberBinding origin n] := ⟨rfl, rfl, rfl, rfl, rfl⟩
    exact hfirst.trans (ih _)

/-- A statement adds the names that it binds. -/
theorem extends_bind (s : Scope) (c : Stmt) : s.Extends (s.bind c) (bindingsFrom (importOrigin s.package) s.module c) := by
  cases c with
  | import_ line names => exact extends_importModules s names
  | importFrom line level part names =>
    rw [bind, bindingsFrom]
    cases importOrigin s.package level part with
    | none => exact .refl s
    | some origin => exact extends_importObjects s origin (names.getD [])
  | classDef line name bases keywords body decorators => exact ⟨rfl, rfl, rfl, rfl, rfl⟩
  | _ => exact .refl s

theorem extends_foldl (s : Scope) (body : List Stmt) :
    s.Extends (body.foldl bind s) (body.flatMap (bindingsFrom (importOrigin s.package) s.module)) := by
  induction body generalizing s with
  | nil => exact .refl s
  | cons c body ih =>
    have hfirst := extends_bind s c
    have hrest := ih (s.bind c)
    rw [hfirst.package, hfirst.module] at hrest
    exact hfirst.trans hrest

/-- The scope of a source file at the top of it. -/
def initial (source : SourceName) : Scope :=
  { module := source.module, package := packageOf source.module (isPackagePath source.path) }

/-- The scope of a source file with given statements. -/
def ofSource (source : SourceName) (body : List Stmt) : Scope := .ofModule source.module (isPackagePath source.path) body

theorem extends_ofSource (source : SourceName) (body : List Stmt) : (initial source).Extends (ofSource source body)
    (body.flatMap (bindingsFrom (importOrigin (initial source).package) source.module)) := extends_foldl (initial source) body

theorem bindingsFrom_of_isReadFrom {package : DottedPath} (h : c.IsReadFrom source package) :
    bindingsFrom (importOrigin package) source.module c = bindings source c := by
  cases c with
  | importFrom line level part names =>
    rw [bindings, bindingsFrom, bindingsFrom, show importOrigin package level part = originOf source level part from h]
  | _ => rfl

/-- A dotted name goes by the binding that decides. -/
theorem qualify_ofSource (h : ∀ c ∈ body, c.IsReadFrom source (initial source).package)
    (hchain : attributeChain e = head :: rest) : (ofSource source body).qualify e =
      dotted (headPath (decisive (body.flatMap (bindings source)) head rest.isEmpty) head rest.isEmpty) rest := by
  have hbindings := List.flatMap_congr fun c hc => bindingsFrom_of_isReadFrom (h c hc)
  obtain ⟨hmodule, -, hsymbols, hmodules, hclasses⟩ := hbindings ▸ extends_ofSource source body
  rw [qualify, hchain]
  simp only [hsymbols, hmodules, hclasses, hmodule, initial, List.append_nil, lookup_table, contains_map_fst, decisive]
  cases inForce (ofKind Binding.isMember (body.flatMap (bindings source))) head with
  | some b => rfl
  | none =>
    cases inForce (ofKind Binding.isModule (body.flatMap (bindings source))) head with
    | some b => rfl
    | none =>
      cases rest with
      | cons name rest => rfl
      | nil =>
        cases hown : inForce (ofKind Binding.isOwnClass (body.flatMap (bindings source))) head with
        | some b =>
          obtain ⟨hmem, hkind⟩ := mem_of_inForce_ofKind hown
          obtain rfl := eq_ownClass_of_mem hmem hkind
          simp [headPath, dotted, Binding.path, DottedPath.text_singleton]
        | none => by_cases hbuiltin : head ∈ builtinClasses <;> simp [headPath, dotted, hbuiltin, DottedPath.text_singleton]

end Scope

/-! ### The binding that decides and the one in force -/

private theorem isReadFrom_of_isPlain (h : c.isPlain) (package : DottedPath) : c.IsReadFrom source package := by
  cases c with
  | importFrom line level part names =>
    simp only [Stmt.isPlain, Bool.and_eq_true, beq_iff_eq] at h
    obtain ⟨⟨rfl, -⟩, -⟩ := h
    rfl
  | _ => trivial

/-- No binding decides about a name without dots only if there is none. -/
theorem decisive_eq_none_iff : decisive bs name true = none ↔ ∀ b ∈ bs, b.1 ≠ name := by
  simp only [decisive, if_true, Option.or_eq_none_iff, inForce_ofKind_eq_none_iff]
  constructor
  · rintro ⟨hmember, hmodule, hown⟩ b hb
    cases hb' : b.2 with
    | module path => exact hmodule b hb (by rw [hb']; rfl)
    | member origin other => exact hmember b hb (by rw [hb']; rfl)
    | ownClass definer other => exact hown b hb (by rw [hb']; rfl)
  · exact fun h => ⟨fun b hb _ => h b hb, fun b hb _ => h b hb, fun b hb _ => h b hb⟩

/-- In a module of imports by full names and classes, a dotted name goes by the binding that decides about its head among
those of the whole module, and by a builtin class only if the module binds no such name.  That is the binding in force at
a class exactly if both give the head the same path. -/
theorem qualify_iff_inForce {line : Nat} {bases decorators : List Expr} {keywords : List (Option String × Expr)}
    {inner : List Stmt}
    (hplain : ∀ c ∈ before ++ .classDef line name bases keywords inner decorators :: after, c.isPlain)
    (hchain : attributeChain e = head :: rest) :
    let body := before ++ .classDef line name bases keywords inner decorators :: after
    let decided := decisive (body.flatMap (bindings source)) head rest.isEmpty
    let current := inForce (before.flatMap (bindings source)) head
    (Scope.ofSource source body).qualify e = dotted (headPath decided head rest.isEmpty) rest ∧
      (rest = [] → (decided = none ↔ ∀ b ∈ body.flatMap (bindings source), b.1 ≠ head)) ∧
      ((Scope.ofSource source body).qualify e = dotted (headPath current head rest.isEmpty) rest ↔
        headPath decided head rest.isEmpty = headPath current head rest.isEmpty) := by
  intro body decided current
  have hqualify : (Scope.ofSource source body).qualify e = dotted (headPath decided head rest.isEmpty) rest :=
    Scope.qualify_ofSource (fun c hc => isReadFrom_of_isPlain (hplain c hc) _) hchain
  refine ⟨hqualify, ?_, ?_⟩
  · intro hrest
    have hdecided : decided = decisive (body.flatMap (bindings source)) head true := by
      change decisive _ head rest.isEmpty = _
      rw [hrest]
      rfl
    rw [hdecided, decisive_eq_none_iff]
  · rw [hqualify, dotted_inj]

/-- A source file that takes a class from elsewhere. -/
def profileSource : SourceName := ⟨"app/screens.py", "app.screens"⟩

/-- An import of a class from a module. -/
def userImport (origin : String) : Stmt := .importFrom 1 0 (some origin) (some [⟨"User", none⟩])

/-- An imported object counts for more than a module of the same name, and more than a class that follows. -/
theorem qualify_iff_inForce_user :
    ((∀ c ∈ [.import_ 1 [⟨"app.accounts", some "User"⟩], userImport "app.models"] ++
        .classDef 4 "Profile" [] [] [.pass 5] [] :: [.classDef 8 "User" [] [] [.pass 9] []], c.isPlain) ∧
      attributeChain (.name 3 "User") = "User" :: []) ∧
    let body := [.import_ 1 [⟨"app.accounts", some "User"⟩], userImport "app.models"] ++
      .classDef 4 "Profile" [] [] [.pass 5] [] :: [.classDef 8 "User" [] [] [.pass 9] []]
    let decided := decisive (body.flatMap (bindings profileSource)) "User" true
    let current := inForce
      ([.import_ 1 [⟨"app.accounts", some "User"⟩], userImport "app.models"].flatMap (bindings profileSource)) "User"
    (Scope.ofSource profileSource body).qualify (.name 3 "User") = dotted (headPath decided "User" true) [] ∧
      (([] : List String) = [] → (decided = none ↔ ∀ b ∈ body.flatMap (bindings profileSource), b.1 ≠ "User")) ∧
      ((Scope.ofSource profileSource body).qualify (.name 3 "User") = dotted (headPath current "User" true) [] ↔
        headPath decided "User" true = headPath current "User" true) :=
  have hplain : ∀ c ∈ [.import_ 1 [⟨"app.accounts", some "User"⟩], userImport "app.models"] ++
      .classDef 4 "Profile" [] [] [.pass 5] [] :: [.classDef 8 "User" [] [] [.pass 9] []], c.isPlain := by decide
  ⟨⟨hplain, rfl⟩, qualify_iff_inForce hplain rfl⟩

/-- The reader may go by an import that follows the class. -/
theorem exists_later_binding :
    ¬∀ (source : SourceName) (before after : List Stmt) (line : Nat) (name : String) (bases decorators : List Expr)
        (keywords : List (Option String × Expr)) (inner : List Stmt) (e : Expr) (head : String) (rest : List String),
      (∀ c ∈ before ++ .classDef line name bases keywords inner decorators :: after, c.isPlain) →
      attributeChain e = head :: rest →
      (Scope.ofSource source (before ++ .classDef line name bases keywords inner decorators :: after)).qualify e =
        dotted (headPath (inForce (before.flatMap (bindings source)) head) head rest.isEmpty) rest := by
  intro hall
  have hread := hall profileSource [userImport "app.models"] [userImport "app.accounts"] 4 "Profile" [] [] [] [.pass 5]
    (.name 3 "User") "User" [] (by decide) rfl
  have hother : (Scope.ofSource profileSource
      ([userImport "app.models"] ++ .classDef 4 "Profile" [] [] [.pass 5] [] :: [userImport "app.accounts"])).qualify
        (.name 3 "User") = some "app.accounts.User" := by
    decide
  rw [hother] at hread
  revert hread
  decide

end NavFactory
