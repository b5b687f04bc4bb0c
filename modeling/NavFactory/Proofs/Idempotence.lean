import NavFactory.Proofs.Escaping
import NavFactory.Proofs.Persistence
import NavFactory.Proofs.Writing

/-!
# Rounds that are done again

What a round writes is part of the tree that the next one reads.  The settings, the rules of the source roots and all
files of the manifests are read again as they were if none of them is written (`Output.Spares`) and no source root
exposes the package, so that the next round makes the same plan (`plan_again`) and finds its files as they should be
(`Round.isStable_of_isApart`).  A package that is exposed may hold the very sources that are read for it, which are gone
when they have been read once (`Round.exists_unstable`).
-/

namespace NavFactory

open Entry

variable {tree tree' : Entry} {current excludes : List String} {names : List String} {name text : String}
  {directory root sourceRoot : Path} {files : Sources} {manifest : Manifest} {records : List LogRecord}
  {request : Request} {settings : Settings} {p : Plan}

/-! ### Directories and files that are read again -/

section Reading

variable (hspares : Output.Spares directory files tree tree')

include hspares

theorem projectRoot_again (h : projectRoot tree current text = .ok root) : projectRoot tree' current text = .ok root :=
  have ⟨hresolved, place, hlocate⟩ := projectRoot_ok_iff.1 h
  projectRoot_ok_iff.2 ⟨hresolved, place, hspares.alteration.grows.locate_found hlocate⟩

theorem requestedSettings_again (hup : ".." ∉ current) (hroot : projectRoot tree current text = .ok root)
    (output : Option Path) :
    requestedSettings tree' current root output = requestedSettings tree current root output := by
  obtain ⟨hresolved, place, hlocate⟩ := projectRoot_ok_iff.1 hroot
  obtain ⟨-, rfl⟩ := resolvePath_eq_ok_iff.1 hresolved
  have hparts := Path.notMem_resolved hup (Path.ofText text)
  have hthere := isSome_of_found (locate_eq_ok_iff.1 hlocate).2
  rw [eq_parts_of_found hparts hlocate] at hthere
  rw [requestedSettings, requestedSettings,
    hspares.load_eq rfl hparts (isSome_above hthere (List.dropLast_prefix _)) (nothingNew_of_isSome hthere)]

end Reading

/-! ### Manifests that are found again -/

/-- Whether a path is that of a module that can be imported. -/
def isImportable (path : String) : Bool := (moduleNameOf? path).isSome

private theorem filterMap_sourceFile? (tree : Entry) (root : Path) (paths : List String) :
    paths.filterMap (sourceFile? tree root) = (paths.filter isImportable).filterMap (sourceFile? tree root) := by
  rw [List.filterMap_filter]
  refine List.filterMap_congr fun path _ => ?_
  rw [isImportable, sourceFile?]
  cases moduleNameOf? path <;> rfl

/-- Whether no file of a directory is listed as a module below a source root. -/
def Output.Hidden (directory : Path) (files : Sources) (rules : List IgnoreRule) (root : List String) : Prop :=
  ∀ names, Path.collapse [] directory.parts = root ++ names → ∀ file ∈ files,
    lists rules names file.1 = false ∨ isImportable ((names ++ [file.1]).foldl below "") = false

/-- A source that is listed as a module is none of the files that are written. -/
private theorem sameAt_of_listed {rules : List IgnoreRule} {e : Entry} {path : String} (hproper : e.isProper = true)
    (hspares : Output.Spares directory files tree tree') (hat : tree.at? root.parts = some e) (hup : ".." ∉ root.parts)
    (hhidden : Output.Hidden directory files rules root.parts) (hpath : path ∈ sourcePaths rules "" e)
    (himportable : isImportable path = true) : tree.SameAt tree' (root.child path) := by
  obtain ⟨names, name, contents, hfile, hnames, hreaches, hsource, rfl⟩ := exists_of_mem_sourcePaths hproper hpath
  have hchild : (root.child ((names ++ [name]).foldl below "")).parts = root.parts ++ (names ++ [name]) := by
    rw [Path.child, Path.ofText_foldl_below fun n hn => (hnames n hn).1, Path.join_relative _ _ rfl]
  have hthere : (tree.nodeAt? (root.parts ++ (names ++ [name]))).isSome := by
    rw [nodeAt?_append hat, nodeAt?, hfile]
    rfl
  refine hspares.alteration.sameAt ?_ ?_ ?_
  · rw [hchild, List.mem_append, not_or]
    exact ⟨hup, fun hmem => (hnames _ hmem).2 rfl⟩
  · rw [hchild]
    exact nothingNew_of_isSome hthere
  · rw [hchild]
    rintro ⟨other, text, hmem, -, -, hinside⟩
    obtain ⟨here, hhere, hplace⟩ := hinside (hspares.names _ hmem).1
    rw [← List.append_assoc] at hplace
    obtain ⟨rfl, hlast⟩ := List.append_inj' hplace rfl
    obtain rfl : name = other := by simpa using hlast
    obtain hlists | hforeign := hhidden names (collapse_of_found (locate_eq_ok_iff.1 hhere).2) _ hmem
    · rw [lists, hreaches, hsource] at hlists
      cases hlists
    · rw [himportable] at hforeign
      cases hforeign

/-- A scan finds again what it has found, and the files are as they were, if none that is written is listed. -/
theorem scan_again (hproper : tree.isProper = true) (hspares : Output.Spares directory files tree tree')
    (hsteps : Output.Steps directory files tree tree') (hup : ".." ∉ manifest.root.parts)
    (hhidden : ∀ rules, scanRules tree manifest.root excludes = .ok rules →
      Output.Hidden directory files rules manifest.root.parts)
    (h : scan tree current excludes text = .ok (manifest, records)) :
    (∃ records, scan tree' current excludes text = .ok (manifest, records)) ∧
      ∀ f ∈ manifest.files, tree.SameAt tree' (manifest.root.child f.path) := by
  obtain ⟨rules, entries, hresolved, hrules, hfind, hfiles⟩ := scan_ok_iff.1 ⟨records, h⟩
  have htop : manifest.root = .absolute manifest.root.parts := by
    rw [(resolvePath_eq_ok_iff.1 hresolved).2]
    rfl
  obtain ⟨place, hlocate, hat⟩ := find_eq_ok_iff.1 hfind
  obtain rfl := eq_parts_of_found hup hlocate
  have hthere : (tree.nodeAt? manifest.root.parts).isSome := isSome_of_found (locate_eq_ok_iff.1 hlocate).2
  -- nothing that is written is listed, so that the walk lists the same and every file is as it was
  have hsame : ∀ path ∈ sourcePaths rules "" (.directory entries), isImportable path = true →
      tree.SameAt tree' (manifest.root.child path) := fun path =>
    sameAt_of_listed (isProper_of_at? hproper hat) hspares hat hup (hhidden rules hrules)
  refine ⟨scan_ok_iff.2 ?_, fun f hf => ?_⟩
  · obtain ⟨e, hat', hkind, hpaths⟩ := hsteps.sourcePaths_eq hat rfl (fun file hfile => (hspares.names file hfile).1)
      (hhidden rules hrules)
    cases e with
    | file contents => cases hkind
    | directory entries' =>
      have hfind' := find_eq_ok_iff.2 ⟨_, hspares.alteration.grows.locate_found hlocate, hat'⟩
      refine ⟨rules, entries', hresolved, ?_, hfind', ?_⟩
      · rw [htop, hspares.scanRules_eq hthere hup, ← htop, hrules]
      · rw [hfiles, filterMap_sourceFile? tree, filterMap_sourceFile? tree', hpaths]
        refine List.filterMap_congr fun path hpath => ?_
        obtain ⟨hpath, himportable⟩ := List.mem_filter.1 hpath
        rw [sourceFile?, sourceFile?, (hsame path hpath himportable).readBytes]
  · rw [hfiles] at hf
    obtain ⟨path, hpath, hsource⟩ := List.mem_filterMap.1 hf
    obtain ⟨module, hmodule, rfl⟩ := Option.map_eq_some_iff.1 hsource
    exact hsame path hpath (by rw [isImportable, hmodule]; rfl)

/-! ### Plans that are made again -/

/-- Whether a plan keeps apart what it writes and what is read for it. -/
structure Plan.IsApart (p : Plan) : Prop where
  /-- No source root lies between the output directory and the package. -/
  hidden : ∀ sourceRoot ∈ p.settings.sourceRoots, ¬p.settings.Exposes sourceRoot
  /-- No directory of the package is named like the settings or an ignore file. -/
  names : ∀ name ∈ controlNames, name ∉ p.settings.packageDirectory.parts
  /-- No text changes when it is read back. -/
  breaks : ∀ file ∈ p.sources, '\r' ∉ file.2.toList

/-- No directory that is made is named like a file that is looked for, if none on the way is. -/
private theorem not_obstructs (h : Output.Alteration directory files tree tree')
    (hnames : ∀ name ∈ controlNames, name ∉ directory.parts) : ¬tree.Obstructs tree' := by
  rintro ⟨above, name, hname, hfree, hdirectory⟩
  obtain hsame | ⟨_, _, -, -, hfile, -⟩ | ⟨-, parts, hway, hlocate, -⟩ := h.place (above ++ [name])
  · rw [hsame, hfree] at hdirectory
    cases hdirectory
  · rw [hfile] at hdirectory
    cases hdirectory
  · have hcollapse := collapse_of_found (locate_eq_ok_iff.1 hlocate).2
    have hmem : name ∈ Path.collapse [] parts := by
      rw [hcollapse]
      exact List.mem_append_right _ (List.mem_singleton_self name)
    exact hnames name hname (hway.subset (Path.collapse_subset [] parts hmem))

private theorem builtinFileNames_apart : ∀ name ∈ builtinFileNames, name ∉ controlNames := by
  decide +kernel

/-- A plan that keeps apart what it writes spares what is read for it. -/
theorem Plan.IsApart.spares (hapart : p.IsApart) (hbuiltIn : request.IsBuiltIn)
    (hplan : (plan tree current request).result = .ok p)
    (halters : Output.Alteration p.settings.packageDirectory p.sources tree tree') :
    Output.Spares p.settings.packageDirectory p.sources tree tree' where
  alteration := halters
  names _ hfile :=
    have hname := map_fst_sources_subset hbuiltIn hplan (List.mem_map_of_mem hfile)
    ⟨(builtinFileNames_steps _ hname).1, builtinFileNames_apart _ hname⟩
  clear := not_obstructs halters hapart.names

/-- The declarations of a source root that the package is not exposed to are read again. -/
theorem readSourceRoot_again {declarations : List Declaration} (hproper : tree.isProper = true)
    (hspares : Output.Spares settings.packageDirectory files tree tree')
    (hsteps : Output.Steps settings.packageDirectory files tree tree')
    (hpackage : Settings.isPackageName settings.package = true) (hdirectory : settings.directory.IsRooted)
    (hrooted : sourceRoot.IsRooted) (hhidden : ¬settings.Exposes sourceRoot)
    (h : (readSourceRoot tree current settings sourceRoot).result = .ok declarations) :
    (readSourceRoot tree' current settings sourceRoot).result = .ok declarations := by
  rw [result_readSourceRoot] at h ⊢
  obtain ⟨manifest, hmanifest, h⟩ := bind_eq_ok_iff.1 h
  obtain ⟨excludes, records, hexcludes, hscan⟩ := sourceManifest_eq_ok_iff.1 hmanifest
  obtain ⟨-, -, hresolved, -⟩ := scan_ok_iff.1 ⟨records, hscan⟩
  rw [hrooted.ofText_text, resolvePath_eq_ok_iff, Path.resolved_of_isAbsolute hrooted.isAbsolute] at hresolved
  obtain ⟨hnull, htop⟩ := hresolved
  -- what is written in the package is no module, or the scan does not come to it
  have hunlisted : ∀ rules, scanRules tree manifest.root excludes = .ok rules →
      Output.Hidden settings.packageDirectory files rules manifest.root.parts := by
    intro rules hrules names hway file hfile
    rw [excludes_eq hnull hexcludes] at hrules
    rw [htop] at hway
    have hway' : (settings.packageDirectory.resolved []).parts = (sourceRoot.resolved []).parts ++ names := by
      rw [Path.resolved_nil]
      exact hway
    cases hmodule : moduleNameOf? ((names ++ [file.1]).foldl below "") with
    | none => exact .inr (by rw [isImportable, hmodule]; rfl)
    | some module =>
      exact .inl (lists_eq_false_of_not_exposes hpackage (isRooted_packageDirectory hdirectory hpackage) hhidden hrules
        hway' (hspares.names file hfile).1 hmodule)
  have hup : ".." ∉ manifest.root.parts := by
    rw [htop]
    exact Path.notMem_resolved List.not_mem_nil sourceRoot
  obtain ⟨⟨records', hscan'⟩, hsame⟩ := scan_again hproper hspares hsteps hup hunlisted hscan
  refine bind_eq_ok_iff.2 ⟨manifest, sourceManifest_eq_ok_iff.2 ⟨excludes, records', hexcludes, hscan'⟩, ?_⟩
  obtain ⟨parts, hparts, rfl⟩ := map_eq_ok_iff.1 h
  refine map_eq_ok_iff.2 ⟨parts, Trace.forEach_ok_of_imp (fun f hf part hpart => ?_) hparts, rfl⟩
  rwa [readFile, (hsame f hf).readText, ← readFile]

theorem readDeclarations_again {declarations : List Declaration}
    (h : ∀ sourceRoot ∈ settings.sourceRoots, ∀ found,
      (readSourceRoot tree current settings sourceRoot).result = .ok found →
        (readSourceRoot tree' current settings sourceRoot).result = .ok found)
    (hread : (readDeclarations tree current settings).result = .ok declarations) :
    (readDeclarations tree' current settings).result = .ok declarations := by
  obtain ⟨found, hfound, hread⟩ := Trace.bind_ok_iff.1 hread
  exact Trace.bind_ok_iff.2 ⟨found, Trace.forEach_ok_of_imp h hfound, hread⟩

/-- Whether a request can come from a directory, and uses no processors but those that are built in. -/
structure Request.IsProper (r : Request) (current : List String) : Prop where
  current : ∀ name ∈ current, Path.IsStep name ∧ name ≠ ".."
  output : ∀ path ∈ r.output, ∀ name ∈ path.parts, Path.IsStep name
  builtIn : r.IsBuiltIn

/-- A plan without templates that keeps apart what it writes is made again in the tree that its round leaves. -/
theorem plan_again (hproper : tree.isProper = true) (hrequest : request.IsProper current)
    (hplan : (plan tree current request).result = .ok p) (htemplates : request.templates.or p.settings.templates = none)
    (hapart : p.IsApart) (hsteps : Output.Steps p.settings.packageDirectory p.sources tree tree') :
    (plan tree' current request).result = .ok p := by
  have hspares := hapart.spares hrequest.builtIn hplan hsteps.alteration
  obtain ⟨root, declarations, hroot, hsettings, hread, hcontainers, hsources⟩ := plan_ok_iff.1 hplan
  obtain ⟨hrooted, hpackage⟩ := isRooted_sourceRoots hproper hroot hsettings
  have hdirectory := isRooted_directory hproper (fun name hname => (hrequest.current name hname).1) hrequest.output hroot
    hsettings
  refine plan_ok_iff.2 ⟨root, declarations, projectRoot_again hspares hroot, ?_, ?_, hcontainers, ?_⟩
  · rw [requestedSettings_again hspares (fun hmem => (hrequest.current _ hmem).2 rfl) hroot, hsettings]
  · refine readDeclarations_again (fun sourceRoot hsource found hfound => ?_) hread
    exact readSourceRoot_again hproper hspares hsteps hpackage hdirectory (hrooted _ hsource)
      (hapart.hidden _ hsource) hfound
  · rw [htemplates] at hsources ⊢
    exact hsources

/-! ### A project with a model -/

/-- A project with given settings and sources. -/
def modelProject (settings : String) (sources : Sources) : Entry :=
  .directory [("p", .directory [(settingsFileName, .file (Text.encode settings)),
    ("src", .directory (sources.map fun (name, text) => (name, .file (Text.encode text))))])]

/-- A request for the accessors of its models. -/
def modelRequest : Request where
  path := "/p"
  processors := some [.bundles]

/-- The text of a model. -/
def modelText : String :=
  "from autotarget.annotation import bundle_model\n\n\n@bundle_model\nclass Card:\n    pass\n"

def modelDeclaration : Declaration where
  name := "Card"
  namespaceName := "bundles"
  markers := [{ marker := bundleMarker, line := 4 }]
  path := some "bundles.py"
  line := 5

/-- The container without accessors. -/
def emptyBundles : Container where
  kind := "bundle"
  name := "Bundles"
  module := "bundles"
  docstring := "Accessors rebuilding bundle-backed models."
  imports := ⟨[(mappingType, "Mapping"), (anyType, "Any")], ["Any", "Mapping", "Bundles"]⟩

/-- The container with the accessor of the model. -/
def modelBundles : Container :=
  { emptyBundles with
    imports := ⟨emptyBundles.imports.aliases ++ [(⟨"bundles", "Card"⟩, "Card")], "Card" :: emptyBundles.imports.taken⟩
    methods := [accessor "Mapping" "Any" "Card" ⟨modelDeclaration, { marker := bundleMarker, line := 4 }⟩] }

/-- What is written for the model. -/
def modelSources : Sources := [("bundles.py", modelBundles.moduleText), (packageFileName, exportText [modelBundles])]

/-- The settings of a project whose package goes into a directory beside its source root. -/
def separateSettings : Settings where
  root := .absolute ["p"]
  sourceRoots := [.absolute ["p", "src"]]
  directory := .absolute ["p", defaultDirectory]
  package := defaultPackage

/-- Settings by which the package goes into the source root itself, which is below the output directory. -/
def overlappingText : String := "source_roots: [src]\noutput:\n  directory: .\n  package: src\n"

@[inherit_doc overlappingText]
def overlappingSettings : Settings where
  root := .absolute ["p"]
  sourceRoots := [.absolute ["p", "src"]]
  directory := .absolute ["p"]
  package := "src"

private theorem isProper_modelRequest : modelRequest.IsProper [] where
  current := List.forall_mem_nil _
  output := by simp [modelRequest]
  builtIn := show [Processor.bundles] ⊆ builtinProcessors.map (·.2) by decide

/-- The text with the accessor of the model is a module that declares nothing, and is not one of the other texts. -/
private theorem moduleText_modelBundles :
    '\r' ∉ modelBundles.moduleText.toList ∧ Source.checkModule modelBundles.moduleText = .ok () ∧
      readSource modelBundles.moduleText ⟨"bundles.py", "bundles"⟩ = .ok ([], []) ∧
      modelBundles.moduleText.toList ∉ [modelText.toList, emptyBundles.moduleText.toList] := by
  rw [Source.checkModule, readSource, Source.parseModule, toList_moduleText, toList_moduleText]
  decide +kernel

private theorem exportText_modelBundles :
    '\r' ∉ (exportText [modelBundles]).toList ∧ Source.checkModule (exportText [modelBundles]) = .ok () := by
  rw [Source.checkModule, Source.parseModule, toList_exportText]
  decide +kernel

private theorem notMem_modelSources : ∀ file ∈ modelSources, '\r' ∉ file.2.toList := by
  rw [modelSources, List.forall_mem_cons, List.forall_mem_singleton]
  exact ⟨moduleText_modelBundles.1, exportText_modelBundles.1⟩

/-- What is read in the project, before and after its source has been written over. -/
private theorem read_modelProject :
    ∀ s ∈ [("source_roots: [src]\n", separateSettings), (overlappingText, overlappingSettings)],
      (∀ sources ∈ [[("bundles.py", modelText)], modelSources],
        projectRoot (modelProject s.1 sources) [] modelRequest.path = .ok (.absolute ["p"]) ∧
          requestedSettings (modelProject s.1 sources) [] (.absolute ["p"]) modelRequest.output = .ok s.2) ∧
      (readDeclarations (modelProject s.1 [("bundles.py", modelText)]) [] s.2).result = .ok [modelDeclaration] ∧
      (buildContainers modelRequest s.2 [modelDeclaration]).result = .ok [modelBundles] ∧
      (buildContainers modelRequest s.2 []).result = .ok [emptyBundles] := by
  decide +kernel

/-- The plan for a project that has the model where its source is read. -/
private theorem plan_modelProject {text : String} {settings : Settings} (htemplates : settings.templates = none)
    (hmem : (text, settings) ∈ [("source_roots: [src]\n", separateSettings), (overlappingText, overlappingSettings)]) :
    (plan (modelProject text [("bundles.py", modelText)]) [] modelRequest).result =
      .ok ⟨settings, [modelBundles], modelSources⟩ := by
  obtain ⟨hread, hdeclarations, hcontainers, -⟩ := read_modelProject _ hmem
  obtain ⟨hroot, hsettings⟩ := hread _ List.mem_cons_self
  have hnodup : (modelSources.map (·.1)).Nodup := by decide
  obtain ⟨-, hmodule, -⟩ := moduleText_modelBundles
  refine plan_ok_iff.2 ⟨_, _, hroot, hsettings, hdeclarations, hcontainers, ?_⟩
  rw [show modelRequest.templates.or settings.templates = none from htemplates, renderSources_builtin_iff]
  exact ⟨rfl, hnodup, List.forall_mem_singleton.2 hmodule, exportText_modelBundles.2⟩

/-! ### Rounds that are done again -/

/-- Whether a round that ends well has nothing left to do: done again it gives the same texts and writes none of them,
and one that compares finds nothing stale. -/
def Round.IsStable (tree : Entry) (current : List String) (request : Request) : Prop :=
  ∀ outcome, (generate tree current request).result = .ok outcome →
    (∃ again, (generate (generate tree current request).tree current request).result = .ok again ∧
        again.sources = outcome.sources ∧ again.changed = []) ∧
      ∃ compared, (check (generate tree current request).tree current request).result = .ok compared ∧
        compared.stale = false

namespace Round

private theorem generate_of_plan (hplan : (plan tree current request).result = .ok p) :
    generate tree current request = write tree (plan tree current request).events p := by
  rw [generate, ofPlan, hplan]

private theorem check_of_plan (hplan : (plan tree current request).result = .ok p) :
    check tree current request = compare tree (plan tree current request).events p := by
  rw [check, ofPlan, hplan]

private theorem exists_plan {outcome : RoundOutcome} (h : (generate tree current request).result = .ok outcome) :
    ∃ p, (plan tree current request).result = .ok p := by
  rw [generate, ofPlan] at h
  cases hplan : (plan tree current request).result with
  | error fault =>
    rw [hplan] at h
    cases h
  | ok p => exact ⟨p, rfl⟩

private theorem tree_write (tree : Entry) (events : List Event) (p : Plan) :
    (write tree events p).tree = (Output.write tree p.settings.packageDirectory p.sources).tree := by
  rw [write]
  cases (Output.write tree p.settings.packageDirectory p.sources).result <;> rfl

private theorem exists_of_write (events : List Event) {written : List WrittenFile}
    (h : (Output.write tree p.settings.packageDirectory p.sources).result = .ok written) :
    ∃ outcome, (write tree events p).result = .ok outcome ∧ outcome.sources = p.sources ∧ outcome.files = written := by
  rw [write, h]
  exact ⟨_, rfl, rfl, rfl⟩

private theorem exists_written {events : List Event} {outcome : RoundOutcome}
    (h : (write tree events p).result = .ok outcome) : outcome.sources = p.sources ∧
      ∃ written, (Output.write tree p.settings.packageDirectory p.sources).result = .ok written := by
  cases hwritten : (Output.write tree p.settings.packageDirectory p.sources).result with
  | error fault =>
    rw [write, hwritten] at h
    cases h
  | ok written =>
    obtain ⟨outcome', houtcome', hsources, -⟩ := exists_of_write events hwritten
    rw [h] at houtcome'
    cases houtcome'
    exact ⟨hsources, written, rfl⟩

private theorem exists_of_diff {events : List Event} {diffs : List (String × String)}
    (h : Output.diff tree p.settings.packageDirectory p.sources = .ok diffs) :
    ∃ outcome, (compare tree events p).result = .ok outcome ∧ outcome.diffs = diffs := by
  rw [compare, h]
  exact ⟨_, rfl, rfl⟩

/-- With the processors that are built in and without templates, a round is stable if its plan keeps apart what it
writes and what is read for it. -/
theorem isStable_of_isApart (hproper : tree.isProper = true) (hrequest : request.IsProper current)
    (hplan : (plan tree current request).result = .ok p) (htemplates : request.templates.or p.settings.templates = none)
    (hapart : p.IsApart) : IsStable tree current request := by
  intro outcome houtcome
  rw [generate_of_plan hplan] at houtcome ⊢
  obtain ⟨hsources, written, hwritten⟩ := exists_written houtcome
  rw [tree_write]
  have hagain := plan_again hproper hrequest hplan htemplates hapart
    (Output.steps_write tree p.settings.packageDirectory p.sources)
  have hnames := isFileName_of_mem_sources hrequest.builtIn hplan
  obtain ⟨root, declarations, -, -, -, -, hrendered⟩ := plan_ok_iff.1 hplan
  obtain ⟨⟨again, hrewritten, hunchanged⟩, hdiff⟩ := Output.write_again (fun file hfile => (hnames file hfile).step)
    (renderSources_ok hrendered).2 hapart.breaks hwritten
  rw [generate_of_plan hagain, check_of_plan hagain]
  constructor
  · obtain ⟨outcome', houtcome', hsources', rfl⟩ := exists_of_write _ hrewritten
    refine ⟨outcome', houtcome', by rw [hsources', hsources], ?_⟩
    rw [RoundOutcome.changed, List.filter_eq_nil_iff.2 fun file hfile => by rw [hunchanged file hfile]; decide]
    rfl
  · obtain ⟨compared, hcompared, hdiffs⟩ := exists_of_diff hdiff
    exact ⟨compared, hcompared, by rw [RoundOutcome.stale, hdiffs]; rfl⟩

theorem isStable_of_isApart_model :
    ((modelProject "source_roots: [src]\n" [("bundles.py", modelText)]).isProper = true ∧ modelRequest.IsProper [] ∧
      (plan (modelProject "source_roots: [src]\n" [("bundles.py", modelText)]) [] modelRequest).result =
        .ok ⟨separateSettings, [modelBundles], modelSources⟩ ∧
      modelRequest.templates.or separateSettings.templates = none ∧
      Plan.IsApart ⟨separateSettings, [modelBundles], modelSources⟩) ∧
    IsStable (modelProject "source_roots: [src]\n" [("bundles.py", modelText)]) [] modelRequest :=
  have hproper : (modelProject "source_roots: [src]\n" [("bundles.py", modelText)]).isProper = true := by decide
  have hplan : (plan (modelProject "source_roots: [src]\n" [("bundles.py", modelText)]) [] modelRequest).result =
      .ok ⟨separateSettings, [modelBundles], modelSources⟩ := plan_modelProject rfl List.mem_cons_self
  have hapart : Plan.IsApart ⟨separateSettings, [modelBundles], modelSources⟩ := by
    refine ⟨?_, by decide, notMem_modelSources⟩
    intro sourceRoot hsource
    obtain rfl := List.mem_singleton.1 hsource
    rintro ⟨⟨-, rest, -, hparts⟩, -⟩
    have hresolved : ["p", "src"] = ["p", defaultDirectory] ++ rest := hparts
    simp [defaultDirectory] at hresolved
  ⟨⟨hproper, isProper_modelRequest, hplan, rfl, hapart⟩,
    isStable_of_isApart hproper isProper_modelRequest hplan rfl hapart⟩

end Round

/-! ### Sources that are written over -/

section Overlapping

variable {directory : Path} {here : List String} {first second text exports : String} {current current' : Option String}

/-- Two files of a directory that is there are written if both differ. -/
private theorem write_pair (hready : Output.Ready tree directory here 2)
    (hlocate : tree.locate directory = .ok (.found here)) (hfirst : Output.IsFileName first)
    (hsecond : Output.IsFileName second) (hcurrent : Output.currentText tree (directory.child first) = .ok current)
    (hne : current ≠ some text)
    (hcurrent' : Output.currentText (tree.put (here ++ [first]) (.file (Text.encode text))) (directory.child second) =
      .ok current') (hne' : current' ≠ some exports) :
    (Output.write tree directory [(first, text), (second, exports)]).tree =
        (tree.put (here ++ [first]) (.file (Text.encode text))).put (here ++ [second]) (.file (Text.encode exports)) ∧
      ∃ written, (Output.write tree directory [(first, text), (second, exports)]).result = .ok written := by
  obtain ⟨hold, hupdate⟩ := hready.updateFile_of_ne hfirst hcurrent hne
  obtain ⟨-, hupdate'⟩ := (hready.put first hold (Text.encode text)).updateFile_of_ne hsecond hcurrent' hne'
  have hensured := Output.ensureDirectories_of_found hlocate
  rw [if_pos hready.leads.directory] at hensured
  simp only [Output.write, hensured, Output.writeFiles, hupdate, hupdate', Output.behind]
  exact ⟨trivial, _, rfl⟩

private theorem at_modelProject (settings : String) (sources : Sources) :
    (modelProject settings sources).at? ["p", "src"] =
      some (.directory (sources.map fun (name, text) => (name, .file (Text.encode text)))) := by
  simp [modelProject, at?_cons, child?, Entry.entries, List.lookup_cons, settingsFileName]

private theorem locate_modelProject (settings : String) (sources : Sources) :
    (modelProject settings sources).locate (.absolute ["p", "src"]) = .ok (.found ["p", "src"]) := by
  simp [modelProject, locate, Path.absolute, Path.hasNull, locateFrom, at?_cons, child?, Entry.entries,
    List.lookup_cons, settingsFileName]
  decide

private theorem readText_modelProject (settings text : String) (others : Sources) (hbreaks : '\r' ∉ text.toList) :
    (modelProject settings (("bundles.py", text) :: others)).readText ((Path.absolute ["p", "src"]).child "bundles.py") =
      .ok text := by
  have hlocate : (modelProject settings (("bundles.py", text) :: others)).locate
      ((Path.absolute ["p", "src"]).child "bundles.py") = .ok (.found (["p", "src"] ++ ["bundles.py"])) := by
    rfl
  refine Output.readText_of_file hlocate ?_ hbreaks
  rw [nodeAt?_append (at_modelProject _ _)]
  simp [nodeAt?, at?_cons, child?, Entry.entries, node]

private theorem ready_modelProject {sources : Sources} (settings : String) (hlength : sources.length ≤ 2) :
    Output.Ready (modelProject settings sources) (.absolute ["p", "src"]) ["p", "src"] 2 := by
  have hleads : (modelProject settings sources).Leads ["p", "src"] ["p", "src"] :=
    ⟨(locate_eq_ok_iff.1 (locate_modelProject settings sources)).2,
      nodeAt?_eq_directory_iff.2 ⟨_, at_modelProject settings sources⟩⟩
  refine ⟨by decide, hleads, ?_⟩
  rw [countAt, at_modelProject]
  simp only [Entry.entries, List.length_map]
  omega

/-- The source of the model is written over by what is written for it. -/
private theorem write_overlapping (hne : text ≠ modelText) (exports : String) :
    (Output.write (modelProject overlappingText [("bundles.py", modelText)]) (.absolute ["p", "src"])
      [("bundles.py", text), (packageFileName, exports)]).tree =
        modelProject overlappingText [("bundles.py", text), (packageFileName, exports)] ∧
      ∃ written, (Output.write (modelProject overlappingText [("bundles.py", modelText)]) (.absolute ["p", "src"])
        [("bundles.py", text), (packageFileName, exports)]).result = .ok written := by
  have hready := ready_modelProject overlappingText (show [("bundles.py", modelText)].length ≤ 2 by simp)
  have hmodule : Output.IsFileName "bundles.py" := Round.isFileName_of_mem_builtinFileNames (by decide)
  have hexports : Output.IsFileName packageFileName := Round.isFileName_of_mem_builtinFileNames (by decide)
  have hcurrent : Output.currentText (modelProject overlappingText [("bundles.py", modelText)])
      ((Path.absolute ["p", "src"]).child "bundles.py") = .ok (some modelText) := by
    rw [Output.currentText, readText_modelProject overlappingText modelText [] (by decide)]
  have hput : (modelProject overlappingText [("bundles.py", modelText)]).put (["p", "src"] ++ ["bundles.py"])
      (.file (Text.encode text)) = modelProject overlappingText [("bundles.py", text)] := by
    simp [modelProject, put, setEntry, List.lookup_cons, settingsFileName]
  have hput' : (modelProject overlappingText [("bundles.py", text)]).put (["p", "src"] ++ [packageFileName])
      (.file (Text.encode exports)) = modelProject overlappingText [("bundles.py", text), (packageFileName, exports)] := by
    simp [modelProject, put, setEntry, List.lookup_cons, settingsFileName, packageFileName]
  have hfree : (modelProject overlappingText [("bundles.py", text)]).nodeAt? (["p", "src"] ++ [packageFileName]) =
      none := by
    rw [nodeAt?_append (at_modelProject _ _)]
    simp [nodeAt?_cons, child?, Entry.entries, List.lookup_cons, packageFileName]
  have habsent : Output.currentText (modelProject overlappingText [("bundles.py", text)])
      ((Path.absolute ["p", "src"]).child packageFileName) = .ok none :=
    hexports.currentText_free (ready_modelProject _ (by simp)).leads hready.null hfree
  rw [← hput] at habsent
  rw [← hput', ← hput]
  exact write_pair hready (locate_modelProject _ _) hmodule hexports hcurrent (by simpa using hne.symm) habsent
    (by simp)

/-- No declarations are read where the source of the model has been written over. -/
private theorem readDeclarations_overlapping :
    (readDeclarations (modelProject overlappingText modelSources) [] overlappingSettings).result = .ok [] := by
  have hscanned : (sourceManifest (modelProject overlappingText modelSources) [] overlappingSettings
      (.absolute ["p", "src"])).toOption.map (fun m => (m.root, m.files.map fun f => (f.path, f.module))) =
        some (.absolute ["p", "src"], [("bundles.py", "bundles")]) := by
    decide
  have htext : (modelProject overlappingText modelSources).readText ((Path.absolute ["p", "src"]).child "bundles.py") =
      .ok modelBundles.moduleText :=
    readText_modelProject _ _ _ moduleText_modelBundles.1
  obtain ⟨-, -, hsource, -⟩ := moduleText_modelBundles
  cases hmanifest : sourceManifest (modelProject overlappingText modelSources) [] overlappingSettings
      (.absolute ["p", "src"]) with
  | error fault =>
    rw [hmanifest] at hscanned
    cases hscanned
  | ok manifest =>
    rw [hmanifest] at hscanned
    obtain ⟨hroot, hfiles⟩ := Prod.mk.inj (Option.some.inj hscanned)
    obtain ⟨f, hf, hnames⟩ := List.map_eq_singleton_iff.1 hfiles
    obtain ⟨hpath, hmodule⟩ := Prod.mk.inj hnames
    have hfile : (readFile (modelProject overlappingText modelSources) manifest.root f).result = .ok [] := by
      rw [readFile, hroot, hpath, htext]
      dsimp only
      rw [hmodule, hsource]
      rfl
    have hread : (readSourceRoot (modelProject overlappingText modelSources) [] overlappingSettings
        (.absolute ["p", "src"])).result = .ok [] := by
      rw [result_readSourceRoot, hmanifest]
      refine map_eq_ok_iff.2 ⟨[[]], ?_, rfl⟩
      rw [hf, Trace.forEach_ok_iff]
      exact .cons hfile .nil
    refine Trace.bind_ok_iff.2 ⟨[[]], ?_, Trace.bind_ok_iff.2 ⟨(), rfl, rfl⟩⟩
    rw [Trace.forEach_ok_iff]
    exact .cons hread .nil

/-- The next plan has other texts. -/
private theorem sources_ne_of_overlapping
    (h : (plan (modelProject overlappingText modelSources) [] modelRequest).result = .ok p) :
    p.sources ≠ modelSources := by
  obtain ⟨root, declarations, hroot, hsettings, hread, hcontainers, hrendered⟩ := plan_ok_iff.1 h
  obtain ⟨hreads, -, -, hcontainers'⟩ := read_modelProject (overlappingText, overlappingSettings) (by simp)
  obtain ⟨hroot', hsettings'⟩ := hreads modelSources (by simp)
  obtain rfl := Except.ok.inj (hroot.symm.trans hroot')
  rw [Except.ok.inj (hsettings.symm.trans hsettings')] at hread hcontainers hrendered
  obtain rfl := Except.ok.inj (hread.symm.trans readDeclarations_overlapping)
  rw [Except.ok.inj (hcontainers.symm.trans hcontainers')] at hrendered
  obtain ⟨hsources, -⟩ := renderSources_builtin_iff.1 hrendered
  rw [hsources]
  intro heq
  have htext : emptyBundles.moduleText = modelBundles.moduleText := (Prod.mk.inj (List.cons.inj heq).1).2
  obtain ⟨-, -, -, hother⟩ := moduleText_modelBundles
  exact hother (List.mem_cons_of_mem _ (List.mem_singleton.2 (congrArg String.toList htext).symm))

end Overlapping

/-- A round may be unstable: sources that lie in the package are read once and then written over. -/
theorem Round.exists_unstable :
    ¬∀ (tree : Entry) (current : List String) (request : Request) (p : Plan), tree.isProper = true →
      request.IsProper current → (plan tree current request).result = .ok p →
      request.templates.or p.settings.templates = none → IsStable tree current request := by
  intro hall
  have hproper : (modelProject overlappingText [("bundles.py", modelText)]).isProper = true := by decide
  have hplan : (plan (modelProject overlappingText [("bundles.py", modelText)]) [] modelRequest).result =
      .ok ⟨overlappingSettings, [modelBundles], modelSources⟩ := plan_modelProject rfl (by simp)
  have hne : modelBundles.moduleText ≠ modelText := by
    obtain ⟨-, -, -, hother⟩ := moduleText_modelBundles
    exact fun heq => hother (List.mem_cons.2 (.inl (congrArg String.toList heq)))
  obtain ⟨htree, written, hwritten⟩ := write_overlapping hne (exportText [modelBundles])
  rw [← modelSources] at htree hwritten
  have hstable := hall _ [] modelRequest _ hproper isProper_modelRequest hplan rfl
  rw [IsStable, generate_of_plan hplan, tree_write] at hstable
  obtain ⟨outcome, houtcome, hsources, -⟩ := @exists_of_write _ ⟨overlappingSettings, [modelBundles], modelSources⟩
    (plan (modelProject overlappingText [("bundles.py", modelText)]) [] modelRequest).events _ hwritten
  obtain ⟨⟨again, hagain, hsame, -⟩, -⟩ := hstable outcome houtcome
  have hagain' : (generate (modelProject overlappingText modelSources) [] modelRequest).result = .ok again := by
    rw [← htree]
    exact hagain
  obtain ⟨p, hplan'⟩ := exists_plan hagain'
  rw [generate_of_plan hplan'] at hagain'
  exact sources_ne_of_overlapping hplan' (by rw [← (exists_written hagain').1, hsame, hsources])

end NavFactory
