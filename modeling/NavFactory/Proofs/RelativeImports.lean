import NavFactory.Proofs.Bindings

/-!
# Relative imports

A relative import names a module by the package that its file belongs to.  The reader knows the initial file of a package
by the end of its path alone, so that `my__init__.py` passes for one, and it lets an import go one level beyond the
outermost package if the name of a module follows.  In all other cases it finds the module that is meant, or that there is
none (`resolvesRelative_iff`).
-/

namespace NavFactory

open Source

/-- Whether a file passes for the initial file of a package without being one. -/
def IsMistakenForPackage (path : String) : Prop :=
  isPackagePath path = true ∧ (pathParts path).getLast? ≠ some initialFile

instance (path : String) : Decidable (IsMistakenForPackage path) := inferInstanceAs (Decidable (_ ∧ _))

/-- Whether the reader gives the names of a relative import what they stand for: what the module that the import names has
under these names, and nothing new if it names none. -/
def ResolvesRelative (source : SourceName) (level : Nat) (part : Option String) : Prop :=
  ∀ (before : List Stmt) (line : Nat) (names : List ImportedName) (e : Expr) (head : String) (rest : List String),
    attributeChain e = head :: rest →
    (Scope.ofSource source (before ++ [.importFrom line level part (some names)])).qualify e =
      match inForce (bindings source (.importFrom line level part (some names))) head with
      | some b => some (DottedPath.text (b.path :: rest))
      | none => (Scope.ofSource source before).qualify e

variable {source : SourceName} {s : Scope} {home package : DottedPath} {level : Nat} {part : Option String}
  {path : String}

/-! ### Levels -/

/-- Up to its own length, a package has as many packages above it as an import may name. -/
private theorem importOrigin_of_le (hlevel : 0 < level) (hle : level ≤ package.length) :
    importOrigin package level part = some (DottedPath.text (package.rdrop (level - 1) ++ part.toList)) := by
  have hne : package.rdrop (level - 1) ++ part.toList ≠ [] := by
    intro hnil
    have hlength := congrArg List.length (List.append_eq_nil_iff.1 hnil).1
    rw [List.rdrop, List.length_take, List.length_nil] at hlength
    omega
  rw [importOrigin, if_neg (by simpa using hlevel.ne'), if_neg (by omega), ← List.rdrop]
  split
  · contradiction
  · rfl

/-- One level further, only the name of a module is left. -/
private theorem importOrigin_above (hlevel : level = package.length + 1) : importOrigin package level part = part := by
  subst hlevel
  rw [importOrigin, if_neg (by simp), if_neg (by omega)]
  cases part with
  | none => simp
  | some m => simp [DottedPath.text_singleton]

private theorem importOrigin_beyond (hlevel : package.length + 1 < level) : importOrigin package level part = none := by
  rw [importOrigin, if_neg (by simp; omega), if_pos (by omega)]

/-- The levels at which the reader finds the right module from the right package. -/
private theorem importOrigin_eq_iff (hlevel : 0 < level) :
    importOrigin home level part = (relativeOrigin home level part).map DottedPath.text ↔
      (level = home.length + 1 → part = none) := by
  rcases lt_trichotomy level (home.length + 1) with hlt | rfl | hgt
  · rw [importOrigin_of_le hlevel (by omega), relativeOrigin, if_pos (by omega)]
    exact iff_of_true rfl fun heq => by omega
  · rw [importOrigin_above rfl, relativeOrigin, if_neg (by omega)]
    simp
  · rw [importOrigin_beyond hgt, relativeOrigin, if_neg (by omega)]
    exact iff_of_true rfl fun heq => by omega

/-- The levels at which the reader finds the right module although it takes a module for the package. -/
private theorem importOrigin_concat_eq_iff (hlevel : 0 < level) (last : String) :
    importOrigin (home ++ [last]) level part = (relativeOrigin home level part).map DottedPath.text ↔
      home.length + 2 ≤ level ∧ (level = home.length + 2 → part = none) := by
  have hlength : (home ++ [last]).length = home.length + 1 := by simp
  by_cases hle : level ≤ home.length
  · -- the part that is too many stands between the packages and the name of the module
    have hkept : (home ++ [last]).rdrop (level - 1) = home.rdrop (level - 1) ++
        ((home ++ [last])[home.length - (level - 1)]?).toList := by
      rw [List.rdrop, List.rdrop, hlength, show home.length + 1 - (level - 1) = home.length - (level - 1) + 1 by omega,
        List.take_add_one, List.take_append_of_le_length (by omega)]
    have hne : home.rdrop (level - 1) ≠ [] := by
      intro hnil
      have hzero := congrArg List.length hnil
      rw [List.rdrop, List.length_take, List.length_nil] at hzero
      omega
    rw [importOrigin_of_le hlevel (by omega), relativeOrigin, if_pos hle, hkept,
      List.getElem?_eq_getElem (by rw [hlength]; omega), Option.toList_some, List.append_assoc, List.singleton_append]
    exact iff_of_false (fun heq => DottedPath.text_insert_ne hne _ _ (Option.some.inj heq)) (by omega)
  · rw [relativeOrigin, if_neg hle]
    rcases lt_trichotomy level (home.length + 2) with hlt | rfl | hgt
    · rw [importOrigin_of_le hlevel (by omega)]
      exact iff_of_false nofun (by omega)
    · rw [importOrigin_above (by rw [hlength])]
      simp
    · rw [importOrigin_beyond (by omega)]
      exact iff_of_true rfl ⟨by omega, by omega⟩

/-! ### Files -/

/-- Characters other than slashes at the end of a path belong to its last part. -/
private theorem pathParts_append {stem suffix : String} {init : List String} {last : String}
    (hstem : pathParts stem = init ++ [last]) (hsuffix : '/' ∉ suffix.toList) :
    pathParts (stem ++ suffix) = init ++ [last ++ suffix] := by
  have hlast : '/' ∉ (last ++ suffix).toList := by
    have hmem : last ∈ Text.parts '/' stem := by rw [← pathParts, hstem]; simp
    rw [String.toList_append, List.mem_append, not_or]
    exact ⟨Text.notMem_of_mem_parts hmem, hsuffix⟩
  have hjoined : "/".intercalate (init ++ [last]) = stem := by
    rw [← hstem]
    exact Text.intercalate_parts '/' stem
  obtain rfl | hne := eq_or_ne init []
  · rw [← hjoined, List.nil_append, String.intercalate_singleton, pathParts, Text.parts_of_notMem hlast]
    rfl
  · rw [String.intercalate_append_of_ne_nil hne (List.cons_ne_nil _ _), String.intercalate_singleton] at hjoined
    have hcut : ∀ t, Text.parts '/' ("/".intercalate init ++ "/" ++ t) =
        Text.parts '/' ("/".intercalate init) ++ Text.parts '/' t := Text.parts_append '/' _
    have hwhole : Text.parts '/' last = [last] := Text.parts_of_notMem fun hmem =>
      hlast (by rw [String.toList_append]; exact List.mem_append_left _ hmem)
    have hfirst : Text.parts '/' ("/".intercalate init) = init := by
      rw [pathParts, ← hjoined, hcut, hwhole] at hstem
      exact List.append_cancel_right hstem
    rw [← hjoined, pathParts, String.append_assoc, hcut, hfirst, Text.parts_of_notMem hlast]

/-- The package of a source file is the directory that the file is in. -/
theorem homePackage_eq_dropLast (hsuffix : sourceSuffix.toList.isSuffixOf source.path.toList)
    (hmodule : moduleNameOf? source.path = some source.module) :
    homePackage source = (pathParts source.path).dropLast := by
  obtain ⟨stem, hstem⟩ := List.isSuffixOf_iff_suffix.1 hsuffix
  have hpath : source.path = String.ofList stem ++ sourceSuffix := by
    rw [← String.toList_inj, String.toList_append, String.toList_ofList, hstem]
  obtain ⟨init, last, hparts⟩ : ∃ init last, pathParts (String.ofList stem) = init ++ [last] :=
    ⟨_, _, (List.dropLast_append_getLast (Text.parts_ne_nil _ _)).symm⟩
  have hfile : pathParts source.path = init ++ [last ++ sourceSuffix] := by
    rw [hpath, pathParts_append hparts (by decide)]
  have hinitial : (pathParts source.path).getLast? = some initialFile ↔ last = "__init__" := by
    rw [hfile, List.getLast?_concat, Option.some.injEq, show initialFile = "__init__" ++ sourceSuffix by decide,
      String.append_left_inj]
  have hnames : ∀ names : List String,
      (if names ≠ [] ∧ ∀ n ∈ names, Text.isIdentifier n = true then some (".".intercalate names) else none) =
        some source.module → DottedPath.ofText source.module = names := by
    intro names h
    split_ifs at h with hvalid
    rw [← Option.some.inj h]
    exact DottedPath.ofText_text (fun n hn => Text.notMem_of_isIdentifier (hvalid.2 n hn) (by decide)) hvalid.1
  rw [hpath, moduleNameOf?_append, hparts] at hmodule
  dsimp only at hmodule
  rw [homePackage]
  by_cases hlast : last = "__init__"
  · rw [if_pos (hinitial.2 hlast), hfile, List.dropLast_concat]
    exact hnames init (by simpa [hlast] using hmodule)
  · rw [if_neg fun h => hlast (hinitial.1 h), hnames (init ++ [last]) (by simpa [hlast] using hmodule), hfile,
      List.dropLast_concat, List.dropLast_concat]

private theorem isPackagePath_of_initialFile (h : (pathParts path).getLast? = some initialFile) :
    isPackagePath path = true := by
  obtain ⟨front, hfront⟩ := List.getLast?_eq_some_iff.1 h
  have hjoined := Text.intercalate_parts '/' path
  rw [← pathParts, hfront] at hjoined
  rw [isPackagePath, List.isSuffixOf_iff_suffix, ← hjoined]
  obtain rfl | hne := eq_or_ne front []
  · exact ⟨[], by simp [initialFile]⟩
  · rw [String.intercalate_append_of_ne_nil hne (List.cons_ne_nil _ _), String.toList_append, String.intercalate_singleton]
    exact List.suffix_append _ _

/-- The package that the reader starts from is the right one, or the module that is in it. -/
private theorem package_initial (hmodule : moduleNameOf? source.path = some source.module) :
    if IsMistakenForPackage source.path then ∃ last, (Scope.initial source).package = homePackage source ++ [last]
    else (Scope.initial source).package = homePackage source := by
  have hpackage : (Scope.initial source).package = if isPackagePath source.path then DottedPath.ofText source.module
      else (DottedPath.ofText source.module).dropLast := by
    have hne : source.module ≠ "" := (ofText_of_moduleNameOf? hmodule).1
    simp [Scope.initial, packageOf, hne]
  rw [hpackage, homePackage]
  by_cases hinitial : (pathParts source.path).getLast? = some initialFile
  · rw [if_neg fun h => h.2 hinitial, if_pos hinitial, if_pos (isPackagePath_of_initialFile hinitial)]
  · rw [if_neg hinitial]
    by_cases hpath : isPackagePath source.path
    · rw [if_pos ⟨hpath, hinitial⟩, if_pos hpath]
      exact ⟨_, (List.dropLast_append_getLast (DottedPath.ofText_ne_nil source.module)).symm⟩
    · rw [if_neg fun h => hpath h.1, if_neg hpath]

/-! ### Names -/

private theorem isMember_of_mem {line : Nat} {names : List ImportedName} {origin : Nat → Option String → Option String}
    {module : String} : ∀ b ∈ bindingsFrom origin module (.importFrom line level part (some names)), b.2.isMember := by
  intro b hb
  rw [bindingsFrom] at hb
  split at hb
  · obtain ⟨n, -, rfl⟩ := List.mem_map.1 hb
    rfl
  · cases hb

/-- An import of objects decides about their names, and about no other. -/
private theorem qualify_bind_importFrom (s : Scope) (line : Nat) (names : List ImportedName) {e : Expr} {head : String}
    {rest : List String} (hchain : attributeChain e = head :: rest) :
    (s.bind (.importFrom line level part (some names))).qualify e =
      match inForce (bindingsFrom (importOrigin s.package) s.module (.importFrom line level part (some names))) head with
      | some b => some (DottedPath.text (b.path :: rest))
      | none => s.qualify e := by
  obtain ⟨hmodule, -, hsymbols, hmodules, hclasses⟩ := s.extends_bind (.importFrom line level part (some names))
  have hkinds := @isMember_of_mem level part line names (importOrigin s.package) s.module
  generalize bindingsFrom (importOrigin s.package) s.module (.importFrom line level part (some names)) = bs at *
  have hmembers : ofKind Binding.isMember bs = bs := List.filter_eq_self.2 hkinds
  have hothers : ∀ kind, (∀ b : Binding, b.isMember → kind b = false) → table kind bs = [] := by
    intro kind hkind
    have hnone : ofKind kind bs = [] := List.filter_eq_nil_iff.2 fun b hb => by simp [hkind b.2 (hkinds b hb)]
    rw [table, hnone]
    rfl
  have hlookup := lookup_table Binding.isMember bs head
  rw [hmembers] at hlookup
  rw [hothers _ (by intro b; cases b <;> simp [Binding.isMember, Binding.isModule]), List.nil_append] at hmodules
  rw [hothers _ (by intro b; cases b <;> simp [Binding.isMember, Binding.isOwnClass]), List.map_nil, List.nil_append]
    at hclasses
  rw [Scope.qualify, Scope.qualify, hchain]
  simp only [hsymbols, hmodules, hclasses, hmodule, List.lookup_append, hlookup]
  cases inForce bs head with
  | some b => rfl
  | none => rfl

private theorem qualify_concat_importFrom (before : List Stmt) (line : Nat) (names : List ImportedName) {e : Expr}
    {head : String} {rest : List String} (hchain : attributeChain e = head :: rest) :
    (Scope.ofSource source (before ++ [.importFrom line level part (some names)])).qualify e =
      match inForce (bindingsFrom (importOrigin (Scope.initial source).package) source.module
        (.importFrom line level part (some names))) head with
      | some b => some (DottedPath.text (b.path :: rest))
      | none => (Scope.ofSource source before).qualify e := by
  have hbefore := Scope.extends_ofSource source before
  have hconcat : Scope.ofSource source (before ++ [.importFrom line level part (some names)]) =
      (Scope.ofSource source before).bind (.importFrom line level part (some names)) := List.foldl_concat ..
  rw [hconcat, qualify_bind_importFrom _ line names hchain, hbefore.package, hbefore.module]
  rfl

/-- A name that nothing else binds shows where an import takes objects from. -/
private theorem inForce_importFrom (origin : Nat → Option String → Option String) (module name : String) (line : Nat) :
    (inForce (bindingsFrom origin module (.importFrom line level part (some [⟨name, none⟩]))) name).map Binding.path =
      (origin level part).map (· ++ "." ++ name) := by
  rw [bindingsFrom]
  cases origin level part with
  | none => rfl
  | some o => simp [inForce, memberBinding, Binding.path]

/-- The names of a relative import are given what they stand for exactly if it is read from the right module. -/
private theorem resolvesRelative_iff_origin (hlevel : 0 < level) : ResolvesRelative source level part ↔
    importOrigin (Scope.initial source).package level part =
      (relativeOrigin (homePackage source) level part).map DottedPath.text := by
  have horigin : originOf source level part = (relativeOrigin (homePackage source) level part).map DottedPath.text := by
    rw [originOf, if_neg hlevel.ne']
  rw [← horigin]
  constructor
  · intro hresolves
    have hread := hresolves [] 0 [⟨"X", none⟩] (.name 0 "X") "X" [] rfl
    rw [qualify_concat_importFrom [] 0 [⟨"X", none⟩] rfl] at hread
    have hshown : ∀ b : Option Binding, (match b with
        | some b => some (DottedPath.text [b.path])
        | none => (Scope.ofSource source []).qualify (.name 0 "X")) = b.map Binding.path := by
      intro b
      cases b with
      | none => rfl
      | some b => exact congrArg some (DottedPath.text_singleton _)
    rw [hshown, hshown, bindings, inForce_importFrom, inForce_importFrom] at hread
    refine Option.map_injective (fun o o' heq => ?_) hread
    rwa [String.append_left_inj, String.append_left_inj] at heq
  · intro hread before line names e head rest hchain
    have hsame := Scope.bindingsFrom_of_isReadFrom (c := .importFrom line level part (some names)) hread
    rw [qualify_concat_importFrom before line names hchain, hsame]

/-! ### Levels of files -/

/-- A relative import of a source file is resolved exactly if it does not go one level beyond the outermost package to name
a module.  For a file that passes for the initial file of a package that is one level further up, and all levels before
are wrong. -/
theorem resolvesRelative_iff (hmodule : moduleNameOf? source.path = some source.module) (hlevel : 0 < level) :
    ResolvesRelative source level part ↔
      if IsMistakenForPackage source.path then
        (homePackage source).length + 2 ≤ level ∧ (level = (homePackage source).length + 2 → part = none)
      else level = (homePackage source).length + 1 → part = none := by
  have hpackage := package_initial hmodule
  rw [resolvesRelative_iff_origin hlevel]
  split_ifs at hpackage ⊢ with hmistaken
  · obtain ⟨last, hlast⟩ := hpackage
    rw [hlast, importOrigin_concat_eq_iff hlevel]
  · rw [hpackage, importOrigin_eq_iff hlevel]

/-- Two levels up from a module in a package in a package, and a module from there. -/
theorem resolvesRelative_iff_checkout :
    (moduleNameOf? "shop/ui/checkout.py" = some "shop.ui.checkout" ∧ 0 < 2) ∧
      (ResolvesRelative ⟨"shop/ui/checkout.py", "shop.ui.checkout"⟩ 2 (some "models") ↔
        if IsMistakenForPackage "shop/ui/checkout.py" then
          (homePackage ⟨"shop/ui/checkout.py", "shop.ui.checkout"⟩).length + 2 ≤ 2 ∧
            (2 = (homePackage ⟨"shop/ui/checkout.py", "shop.ui.checkout"⟩).length + 2 → some "models" = none)
        else 2 = (homePackage ⟨"shop/ui/checkout.py", "shop.ui.checkout"⟩).length + 1 → some "models" = none) :=
  have hmodule : moduleNameOf? "shop/ui/checkout.py" = some "shop.ui.checkout" := by decide
  ⟨⟨hmodule, by decide⟩, resolvesRelative_iff hmodule (by decide)⟩

/-- A module that is in no package may still import from one that its dots do not reach. -/
theorem exists_unresolved_relative :
    ¬∀ (source : SourceName) (level : Nat) (part : Option String), moduleNameOf? source.path = some source.module →
      0 < level → ResolvesRelative source level part := by
  intro hall
  have hresolved := hall ⟨"screens.py", "screens"⟩ 1 (some "models") (by decide) (by decide)
  have hread := hresolved [] 2 [⟨"Order", none⟩] (.name 6 "Order") "Order" [] rfl
  revert hread
  decide

end NavFactory
