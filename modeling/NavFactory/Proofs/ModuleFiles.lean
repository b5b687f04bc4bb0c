import NavFactory.Proofs.Bindings
import NavFactory.Proofs.DottedPaths
import NavFactory.Proofs.Filtering

/-!
# Files of a module

A module has two forms: the file of its name, and the initial file of the package of its name.  The name of a module
tells its file up to that choice (`moduleNameOf?_eq_some_iff`), so that a manifest has at most two files of one name, and
has two exactly if a module and a package of that name are there (`scan_module_files`).
-/

namespace NavFactory

open Entry

variable {tree e : Entry} {names init : List String} {path module : String} {rules : List IgnoreRule} {root : Path}

/-- A dotted name with slashes in the place of its dots. -/
def slashed (module : String) : String := String.ofList (module.toList.map fun c => if c = '.' then '/' else c)

/-- The file of a module that is no package. -/
def moduleFile (module : String) : String := slashed module ++ sourceSuffix

/-- The initial file of a package. -/
def packageFile (module : String) : String := slashed module ++ "/" ++ initialFile

theorem moduleFile_ne_packageFile (module : String) : moduleFile module ≠ packageFile module := by
  rw [moduleFile, packageFile, String.append_assoc, ne_eq, String.append_right_inj]
  decide

/-! ### Names and paths -/

/-- The dots of a module are its slashes as a path. -/
theorem slashed_text (h : ∀ n ∈ names, '.' ∉ n.toList) : slashed (DottedPath.text names) = spelled names := by
  have hname : ∀ n ∈ names, n.toList.map (fun c => if c = '.' then '/' else c) = n.toList := fun n hn =>
    (List.map_congr_left fun c hc => if_neg fun hdot : c = '.' => h n hn (hdot ▸ hc)).trans (List.map_id' _)
  rw [slashed, DottedPath.text, spelled, ← String.toList_inj, String.toList_ofList, String.toList_intercalate,
    String.toList_intercalate]
  induction names with
  | nil => rfl
  | cons first rest ih =>
    obtain ⟨hfirst, hrest⟩ := List.forall_mem_cons.1 hname
    specialize ih (List.forall_mem_cons.1 h).2 hrest
    cases rest with
    | nil => simpa using hfirst
    | cons second rest =>
      simp only [List.map_cons, List.intercalate_cons_cons, List.map_append] at ih ⊢
      rw [ih, hfirst]
      rfl

private theorem spelled_concat (hne : init ≠ []) (last : String) :
    spelled (init ++ [last]) = spelled init ++ "/" ++ last := by
  rw [spelled, String.intercalate_append_of_ne_nil hne (List.cons_ne_nil _ _), String.intercalate_singleton, spelled]

/-- A file has a name exactly if it is one of the two files of that name: the initial file of the package, or the file of
the module, provided that this is not the initial file of another package. -/
theorem moduleNameOf?_eq_some_iff (hsuffix : sourceSuffix.toList <:+ path.toList) :
    moduleNameOf? path = some module ↔ (∀ n ∈ DottedPath.ofText module, Text.isIdentifier n = true) ∧
      (path = packageFile module ∨
        path = moduleFile module ∧ (DottedPath.ofText module).getLast? ≠ some "__init__") := by
  obtain ⟨cs, hcs⟩ := hsuffix
  obtain ⟨stem, rfl⟩ : ∃ stem, path = stem ++ sourceSuffix :=
    ⟨String.ofList cs, by rw [← String.toList_inj, String.toList_append, String.toList_ofList, hcs]⟩
  have hdots : ∀ {names : List String}, (∀ n ∈ names, Text.isIdentifier n = true) → ∀ n ∈ names, '.' ∉ n.toList :=
    fun h n hn => Text.notMem_of_isIdentifier (h n hn) (by decide)
  have hstem : spelled (pathParts stem) = stem := Text.intercalate_parts '/' stem
  rw [moduleNameOf?_append]
  constructor
  · intro h
    dsimp only at h
    split_ifs at h with hinitial hvalid hvalid
    · -- the initial file of a package
      obtain ⟨hne, hidentifiers⟩ := hvalid
      obtain rfl : DottedPath.text _ = module := Option.some.inj h
      rw [DottedPath.ofText_text (hdots hidentifiers) hne]
      refine ⟨hidentifiers, .inl ?_⟩
      have hparts := List.dropLast_append_getLast? _ hinitial
      have hwhole : stem = spelled (pathParts stem).dropLast ++ "/" ++ "__init__" := by
        rw [← spelled_concat hne, hparts, hstem]
      rw [packageFile, slashed_text (hdots hidentifiers), show initialFile = "__init__" ++ sourceSuffix by decide,
        ← String.append_assoc, ← hwhole]
    · -- the file of a module
      obtain ⟨hne, hidentifiers⟩ := hvalid
      obtain rfl : DottedPath.text _ = module := Option.some.inj h
      rw [DottedPath.ofText_text (hdots hidentifiers) hne]
      exact ⟨hidentifiers, .inr ⟨by rw [moduleFile, slashed_text (hdots hidentifiers), hstem], hinitial⟩⟩
  · rintro ⟨hidentifiers, hpath⟩
    have hslashed : slashed module = spelled (DottedPath.ofText module) := by
      rw [← slashed_text (hdots hidentifiers), DottedPath.text_ofText]
    have hsteps : ∀ n ∈ DottedPath.ofText module, Path.IsStep n := fun n hn =>
      Path.isStep_of_isIdentifier (hidentifiers n hn)
    have hne := DottedPath.ofText_ne_nil module
    have hmodule : ".".intercalate (DottedPath.ofText module) = module := DottedPath.text_ofText module
    obtain hpath | ⟨hpath, hlast⟩ := hpath
    · have hparts : pathParts stem = DottedPath.ofText module ++ ["__init__"] := by
        have heq : stem = spelled (DottedPath.ofText module ++ ["__init__"]) := by
          rw [packageFile, show initialFile = "__init__" ++ sourceSuffix by decide, ← String.append_assoc,
            String.append_left_inj] at hpath
          rw [hpath, hslashed, spelled_concat hne]
        rw [heq, pathParts_spelled _ (by simp)]
        exact List.forall_mem_append.2 ⟨hsteps, by simpa using Path.isStep_of_isIdentifier (by decide)⟩
      simpa [hparts, hne, hmodule] using hidentifiers
    · have hparts : pathParts stem = DottedPath.ofText module := by
        rw [moduleFile, String.append_left_inj] at hpath
        rw [hpath, hslashed, pathParts_spelled hsteps hne]
      simpa [hparts, hlast, hne, hmodule] using hidentifiers

/-- A source file is one of the two files of its name. -/
theorem path_eq_of_moduleNameOf? (hsuffix : sourceSuffix.toList <:+ path.toList) (h : moduleNameOf? path = some module) :
    path = moduleFile module ∨ path = packageFile module :=
  ((moduleNameOf?_eq_some_iff hsuffix).1 h).2.symm.imp_left (·.1)

/-! ### Manifests -/

/-- Whether a scan takes up a file of a directory. -/
def Entry.HasSource (e : Entry) (rules : List IgnoreRule) (path : String) : Prop :=
  ∃ names contents, path = spelled names ∧ e.nodeAt? names = some (.file contents) ∧ IsSelected rules names

/-- The files of one name among several. -/
def filesOf (module : String) (files : List SourceFile) : List SourceFile := files.filter (·.module = module)

/-- A list without repetitions that is part of two elements has both exactly if it has two elements. -/
private theorem length_eq_two_iff {α : Type} {l : List α} {a b : α} (hne : a ≠ b) (hnd : l.Nodup) (hsubset : l ⊆ [a, b]) :
    l.length ≤ 2 ∧ (l.length = 2 ↔ a ∈ l ∧ b ∈ l) := by
  have hsubperm : l.Subperm [a, b] := List.subperm_of_subset hnd hsubset
  refine ⟨hsubperm.length_le, fun hlength => ?_, fun ⟨ha, hb⟩ => ?_⟩
  · have hperm : l.Perm [a, b] := hsubperm.perm_of_length_le hlength.ge
    simp [hperm.mem_iff]
  · have hpair : [a, b].Nodup := by simpa using hne
    exact Nat.le_antisymm hsubperm.length_le (List.subperm_of_subset hpair (by simp [ha, hb])).length_le

section Files

variable (hproper : e.isProper = true) (hkind : e.isDirectory = true)
include hproper hkind

/-- The name of a source file is read off its path, which has the suffix of sources. -/
private theorem moduleNameOf?_path {f : SourceFile}
    (hf : f ∈ (sourcePaths rules "" e).filterMap (sourceFile? tree root)) :
    moduleNameOf? f.path = some f.module ∧ sourceSuffix.toList <:+ f.path.toList := by
  obtain ⟨names, contents, hat, hselected, hf⟩ := (mem_files_iff hproper hkind).1 hf
  obtain ⟨module, hmodule, rfl⟩ := Option.map_eq_some_iff.1 hf
  obtain ⟨front, name, rfl⟩ := (List.eq_nil_or_concat' names).resolve_left (ne_nil_of_file hkind hat)
  have hsuffix : sourceSuffix.toList <:+ name.toList := by simpa using hselected.suffix
  refine ⟨hmodule, ?_⟩
  obtain rfl | hne := eq_or_ne front []
  · simpa [spelled] using hsuffix
  · rw [spelled_concat hne, String.toList_append]
    exact hsuffix.trans (List.suffix_append _ _)

/-- A path is that of a source file exactly if the scan takes up its file. -/
private theorem mem_paths_iff (tree : Entry) (root : Path) :
    path ∈ ((sourcePaths rules "" e).filterMap (sourceFile? tree root)).map (·.path) ↔ e.HasSource rules path := by
  constructor
  · intro h
    obtain ⟨f, hf, rfl⟩ := List.mem_map.1 h
    obtain ⟨names, contents, hat, hselected, hf⟩ := (mem_files_iff hproper hkind).1 hf
    exact ⟨names, contents, (path_of_sourceFile? hproper hkind hat hf).1, hat, hselected⟩
  · rintro ⟨names, contents, rfl, hat, hselected⟩
    obtain ⟨f, hf, hpath⟩ := (exists_mem_files_iff hproper hkind hat).2 hselected
    exact List.mem_map.2 ⟨f, hf, hpath⟩

/-- The paths of the files of one name. -/
private theorem mem_paths_filesOf_iff :
    path ∈ (filesOf module ((sourcePaths rules "" e).filterMap (sourceFile? tree root))).map (·.path) ↔
      e.HasSource rules path ∧ moduleNameOf? path = some module := by
  rw [← mem_paths_iff hproper hkind tree root]
  simp only [filesOf, List.mem_map, List.mem_filter, decide_eq_true_iff]
  constructor
  · rintro ⟨f, ⟨hf, rfl⟩, rfl⟩
    exact ⟨⟨f, hf, rfl⟩, (moduleNameOf?_path hproper hkind hf).1⟩
  · rintro ⟨⟨f, hf, rfl⟩, hmodule⟩
    have hname := (moduleNameOf?_path hproper hkind hf).1
    exact ⟨f, ⟨hf, Option.some.inj (hname.symm.trans hmodule)⟩, rfl⟩

end Files

/-- Files of a manifest have different paths, and those of one name are among the two files of that name. -/
private theorem length_filesOf (hproper : e.isProper = true) (hkind : e.isDirectory = true) (rules : List IgnoreRule)
    (tree : Entry) (root : Path) (module : String) :
    let files := filesOf module ((sourcePaths rules "" e).filterMap (sourceFile? tree root))
    files.length ≤ 2 ∧ (files.length = 2 ↔
      (e.HasSource rules (moduleFile module) ∧ moduleNameOf? (moduleFile module) = some module) ∧
        e.HasSource rules (packageFile module)) := by
  intro files
  have hnd : (files.map (·.path)).Nodup :=
    (nodup_paths_files hproper rules tree root).sublist (List.filter_sublist.map _)
  have hsubset : files.map (·.path) ⊆ [moduleFile module, packageFile module] := by
    intro path hpath
    obtain ⟨f, hf, rfl⟩ := List.mem_map.1 hpath
    obtain ⟨hf, hmodule⟩ := List.mem_filter.1 hf
    obtain ⟨hname, hsuffix⟩ := moduleNameOf?_path hproper hkind hf
    rw [decide_eq_true_iff] at hmodule
    simpa using path_eq_of_moduleNameOf? hsuffix (hmodule ▸ hname)
  have hcount := length_eq_two_iff (moduleFile_ne_packageFile module) hnd hsubset
  rw [List.length_map, mem_paths_filesOf_iff hproper hkind, mem_paths_filesOf_iff hproper hkind] at hcount
  refine ⟨hcount.1, hcount.2.trans ⟨fun h => ⟨h.1, h.2.1⟩, fun h => ⟨h.1, h.2, ?_⟩⟩⟩
  -- a name that belongs to the file of the module is made of identifiers, and so belongs to the initial file too
  have hsuffix : ∀ stem : String, sourceSuffix.toList <:+ (stem ++ sourceSuffix).toList := fun stem => by
    rw [String.toList_append]
    exact List.suffix_append _ _
  have hidentifiers := ((moduleNameOf?_eq_some_iff (hsuffix _)).1 h.1.2).1
  refine (moduleNameOf?_eq_some_iff ?_).2 ⟨hidentifiers, .inl rfl⟩
  rw [packageFile, show initialFile = "__init__" ++ sourceSuffix by decide, ← String.append_assoc]
  exact hsuffix _

/-- Source files with the same name are the same or the two files of that name, whose parts are identifiers.  A scan whose
rules can be read therefore finds at most two files of one name, and it finds two exactly if it takes up a module of that
name and a package of that name. -/
theorem scan_module_files :
    (∀ path path' module : String, sourceSuffix.toList <:+ path.toList → sourceSuffix.toList <:+ path'.toList →
      moduleNameOf? path = some module → moduleNameOf? path' = some module →
        (path = path' ∨ path = moduleFile module ∧ path' = packageFile module ∨
          path = packageFile module ∧ path' = moduleFile module) ∧
        ∀ n ∈ DottedPath.ofText module, Text.isIdentifier n = true) ∧
    ∀ (tree : Entry) (current excludes : List String) (text : String) (root : Path) (entries : List (String × Entry))
      (rules : List IgnoreRule), tree.isProper = true → resolvePath current (Path.ofText text) = .ok root →
      tree.find root = .ok (.directory entries) → scanRules tree root excludes = .ok rules →
        ∃ manifest records, scan tree current excludes text = .ok (manifest, records) ∧
          ∀ module, (filesOf module manifest.files).length ≤ 2 ∧ ((filesOf module manifest.files).length = 2 ↔
            ((directory entries).HasSource rules (moduleFile module) ∧ moduleNameOf? (moduleFile module) = some module) ∧
              (directory entries).HasSource rules (packageFile module)) := by
  constructor
  · intro path path' module hsuffix hsuffix' hmodule hmodule'
    refine ⟨?_, ((moduleNameOf?_eq_some_iff hsuffix).1 hmodule).1⟩
    obtain rfl | rfl := path_eq_of_moduleNameOf? hsuffix hmodule <;>
      obtain rfl | rfl := path_eq_of_moduleNameOf? hsuffix' hmodule' <;> simp
  · intro tree current excludes text root entries rules hproper hresolved hfind hrules
    obtain ⟨records, hscan⟩ : ∃ records, scan tree current excludes text =
        .ok (⟨root, (sourcePaths rules "" (directory entries)).filterMap (sourceFile? tree root)⟩, records) :=
      scan_ok_iff.2 ⟨rules, entries, hresolved, hrules, hfind, rfl⟩
    exact ⟨_, records, hscan, length_filesOf (isProper_of_find hproper hfind) rfl rules tree root⟩

/-- A project with a module and a package of one name, the package of another name whose module is ignored, and a directory
that is named like an initial file. -/
def pairedProject : Entry :=
  .directory [("p", .directory [
    ("pay.py", .file []), ("cart.py", .file []),
    ("pay", .directory [("__init__.py", .file []), ("__init__", .directory [("__init__.py", .file [])])]),
    ("cart", .directory [("__init__.py", .file [])]),
    (ignoreFileName, .file (Text.encode "/cart.py\n"))])]

theorem scan_module_files_paired :
    (moduleNameOf? "pay/__init__/__init__.py" = some "pay.__init__" ∧ pairedProject.isProper = true) ∧
    (∀ path, sourceSuffix.toList <:+ path.toList → moduleNameOf? path = some "pay.__init__" →
      path = "pay/__init__/__init__.py" ∨ path = "pay/__init__.py") ∧
    ∃ manifest records, scan pairedProject [] [] "/p" = .ok (manifest, records) ∧
      (filesOf "pay" manifest.files).length = 2 ∧ (filesOf "cart" manifest.files).length = 1 ∧
      ∀ module, (filesOf module manifest.files).length ≤ 2 := by
  have hproper : pairedProject.isProper = true := by decide
  have hresolved : resolvePath [] (Path.ofText "/p") = .ok (.absolute ["p"]) := by decide
  have hfind : ∃ entries, pairedProject.find (.absolute ["p"]) = .ok (.directory entries) := ⟨_, rfl⟩
  have hrules : scanRules pairedProject (.absolute ["p"]) [] = .ok [⟨"cart.py", false, true, false, false⟩] := by
    decide +kernel
  have hinitial : moduleNameOf? "pay/__init__/__init__.py" = some "pay.__init__" := by decide
  obtain ⟨entries, hentries⟩ := hfind
  obtain ⟨hpaths, hmanifests⟩ := scan_module_files
  obtain ⟨manifest, records, hscan, hcount⟩ := hmanifests _ _ _ _ _ _ _ hproper hresolved hentries hrules
  have hlengths : (scan pairedProject [] [] "/p").toOption.map (fun found =>
      ((filesOf "pay" found.1.files).length, (filesOf "cart" found.1.files).length)) = some (2, 1) := by decide +kernel
  rw [hscan] at hlengths
  obtain ⟨hpay, hcart⟩ := Prod.mk.inj (Option.some.inj hlengths)
  refine ⟨⟨hinitial, hproper⟩, fun path hsuffix hmodule => ?_, manifest, records, hscan, hpay, hcart,
    fun module => (hcount module).1⟩
  have hforms := (hpaths path _ _ hsuffix (List.isSuffixOf_iff_suffix.1 (by decide)) hmodule hinitial).1
  have hmoduleFile : moduleFile "pay.__init__" = "pay/__init__.py" := by decide
  have hpackageFile : packageFile "pay.__init__" = "pay/__init__/__init__.py" := by decide
  rw [hmoduleFile, hpackageFile] at hforms
  obtain h | ⟨h, -⟩ | ⟨h, -⟩ := hforms
  · exact .inl h
  · exact .inr h
  · exact .inl h

end NavFactory
