import NavFactory.Proofs.Rereading
import NavFactory.Round.Plan

/-!
# Roots

The paths of a project are absolute and made of proper steps, so that their texts spell them
(`Path.IsRooted.ofText_text`).  This comes from the names of the file tree, by which the directory of the project is
found, and from the texts of the settings, which are read as paths (`isRooted_sourceRoots`).
-/

namespace NavFactory

open Entry

variable {tree e d : Entry} {here names parts place current : List String} {name text : String} {p root : Path}
  {request : Request} {settings : Settings}

/-! ### Rooted paths -/

/-- Whether a path is absolute and made of steps. -/
structure Path.IsRooted (p : Path) : Prop where
  root : p.root = "/" ∨ p.root = "//"
  steps : ∀ name ∈ p.parts, IsStep name

namespace Path

theorem IsRooted.isAbsolute (h : p.IsRooted) : p.isAbsolute = true := by
  rw [Path.isAbsolute]
  obtain hroot | hroot := h.root <;> rw [hroot] <;> decide

private theorem parts_slash (text : String) : Text.parts '/' ("/" ++ text) = "" :: Text.parts '/' text := by
  have hchars : ("/" ++ text).toList = '/' :: text.toList := by simp
  rw [Text.parts, hchars, List.splitOn_cons_eq_if_modifyHead]
  simp [Text.parts]

private theorem steps_slash (text : String) : Path.steps ("/" ++ text) = Path.steps text := by
  rw [Path.steps, Path.steps, parts_slash, List.filter_cons]
  rfl

/-- The text of a rooted path spells it. -/
theorem IsRooted.ofText_text (h : p.IsRooted) : ofText p.text = p := by
  obtain ⟨top, parts⟩ := p
  obtain ⟨hroot, hsteps⟩ := h
  have hsteps' := steps_intercalate hsteps
  have hhead := head_intercalate hsteps
  dsimp only at hroot hsteps' hhead
  obtain rfl | rfl := hroot
  · have htext : (⟨"/", parts⟩ : Path).text = "/" ++ "/".intercalate parts := by simp [Path.text]
    have hlist : ("/" ++ "/".intercalate parts).toList = '/' :: ("/".intercalate parts).toList := by simp
    rw [htext, ofText, steps_slash, hsteps', hlist]
    split
    · rename_i heq
      simp [(List.cons.inj heq).2] at hhead
    · rename_i heq
      simp [(List.cons.inj heq).2] at hhead
    · rfl
    · rename_i hnone
      exact absurd rfl (hnone _)
  · have htext : (⟨"//", parts⟩ : Path).text = "/" ++ ("/" ++ "/".intercalate parts) := by simp [Path.text, ← String.append_assoc]
    have hlist : ("/" ++ ("/" ++ "/".intercalate parts)).toList = '/' :: '/' :: ("/".intercalate parts).toList := by simp
    rw [htext, ofText, steps_slash, steps_slash, hsteps', hlist]
    split
    · rename_i heq
      simp [(List.cons.inj (List.cons.inj heq).2).2] at hhead
    · rfl
    · rename_i hnone heq
      exact absurd (List.cons.inj heq).2.symm (hnone _)
    · rename_i hnone
      exact absurd rfl (hnone _)

/-- A path that a text spells below a rooted one is rooted. -/
theorem IsRooted.child (h : p.IsRooted) (text : String) : (p.child text).IsRooted := by
  have hsteps : ∀ name ∈ (ofText text).parts, IsStep name := fun name hname => isStep_of_mem_steps hname
  have hroot : (ofText text).root = "" ∨ (ofText text).root = "/" ∨ (ofText text).root = "//" := by
    rw [ofText]
    split <;> simp
  rw [Path.child]
  change (join p (ofText text)).IsRooted
  rw [join]
  split_ifs with habsolute
  · refine ⟨hroot.resolve_left fun hnone => ?_, hsteps⟩
    rw [Path.isAbsolute, hnone] at habsolute
    cases habsolute
  · exact ⟨h.root, fun name hname => (List.mem_append.1 hname).elim (h.steps name) (hsteps name)⟩

/-- Taking back names leaves no others than were there. -/
theorem collapse_subset (done parts : List String) : collapse done parts ⊆ done ++ parts := by
  induction parts generalizing done with
  | nil => simp [collapse]
  | cons part rest ih =>
    by_cases hup : part = ".."
    · rw [hup, collapse]
      refine List.Subset.trans (ih _) (List.append_subset.2 ⟨?_, ?_⟩)
      · exact List.subset_append_of_subset_left _ (List.dropLast_subset done)
      · exact List.subset_append_of_subset_right _ (List.subset_cons_self _ _)
    · rw [collapse]
      · simpa using ih (done ++ [part])
      · exact fun heq => hup heq

/-- No double dot is left where every one takes back a name. -/
theorem notMem_collapse {done : List String} (h : ".." ∉ done) (parts : List String) : ".." ∉ collapse done parts := by
  induction parts generalizing done with
  | nil => exact h
  | cons part rest ih =>
    by_cases hup : part = ".."
    · rw [hup, collapse]
      exact ih fun hmem => h (List.dropLast_subset done hmem)
    · rw [collapse]
      · exact ih (by simpa [h] using Ne.symm hup)
      · exact fun heq => hup heq

/-- A resolved path has no double dots if it does not start from one. -/
theorem notMem_resolved (h : ".." ∉ current) (p : Path) : ".." ∉ (p.resolved current).parts := by
  refine notMem_collapse ?_ p.parts
  split_ifs
  · exact List.not_mem_nil
  · exact h

/-- Where a path starts does not matter if it is absolute. -/
theorem resolved_of_isAbsolute (h : p.isAbsolute = true) (current : List String) :
    p.resolved current = p.resolved [] := by
  rw [resolved, resolved, resolve, resolve, if_pos h, if_pos h]

/-- A path of steps is rooted once it is resolved. -/
theorem isRooted_resolved (hcurrent : ∀ name ∈ current, IsStep name) (hsteps : ∀ name ∈ p.parts, IsStep name) :
    (p.resolved current).IsRooted := by
  refine ⟨.inl rfl, fun name hname => ?_⟩
  obtain hname | hname := List.mem_append.1 (collapse_subset _ _ hname)
  · split_ifs at hname
    · cases hname
    · exact hcurrent name hname
  · exact hsteps name hname

theorem IsRooted.resolved (h : p.IsRooted) (current : List String) : (p.resolved current).IsRooted := by
  rw [resolved_of_isAbsolute h.isAbsolute]
  exact isRooted_resolved (List.forall_mem_nil _) h.steps

end Path

/-! ### Names of a proper tree -/

theorem Entry.isProper_of_at? (hproper : e.isProper = true) (h : e.at? names = some d) : d.isProper = true := by
  induction names generalizing e with
  | nil =>
    rw [at?_nil] at h
    cases h
    exact hproper
  | cons name rest ih =>
    rw [at?_cons] at h
    obtain ⟨c, hc, hat⟩ := Option.bind_eq_some_iff.1 h
    cases e with
    | file contents => cases hc
    | directory entries =>
      rw [isProper, Bool.and_eq_true_iff, decide_eq_true_iff, areProper_iff] at hproper
      exact ih (hproper.2 _ ((lookup_eq_some_iff_mem hproper.1).1 hc)).2.2 hat

theorem Entry.isProper_of_find (hproper : tree.isProper = true) (h : tree.find p = .ok e) : e.isProper = true := by
  obtain ⟨place, -, hat⟩ := find_eq_ok_iff.1 h
  exact isProper_of_at? hproper hat

/-- A name by which something stands in a proper tree is a step that does not lead upwards. -/
theorem Entry.isStep_of_isSome (hproper : tree.isProper = true) (h : (tree.nodeAt? (here ++ [name])).isSome) :
    Path.IsStep name ∧ name ≠ ".." := by
  rw [nodeAt?, Option.isSome_map, at?_append] at h
  cases hd : tree.at? here with
  | none =>
    rw [hd] at h
    cases h
  | some d =>
    rw [hd, Option.bind_some, at?_cons] at h
    have hbelow := isProper_of_at? hproper hd
    cases d with
    | file contents => cases h
    | directory entries =>
      rw [isProper, Bool.and_eq_true_iff, decide_eq_true_iff, areProper_iff] at hbelow
      cases hc : entries.lookup name with
      | none =>
        rw [child?, Entry.entries, hc] at h
        cases h
      | some c =>
        have hnames := hbelow.2 _ ((lookup_eq_some_iff_mem hbelow.1).1 hc)
        exact ⟨hnames.1, hnames.2.1⟩

/-- Names that lead somewhere in a proper tree are steps. -/
theorem Entry.isStep_of_found (hproper : tree.isProper = true)
    (h : tree.locateFrom here parts = .ok (.found place)) : ∀ name ∈ parts, Path.IsStep name := by
  induction parts generalizing here with
  | nil => simp
  | cons name rest ih =>
    rw [locateFrom_cons (directory_of_locateFrom_ok h)] at h
    cases hstep : tree.step here name with
    | error problem =>
      rw [hstep] at h
      cases h
    | ok found =>
      rw [hstep] at h
      cases found with
      | free above name =>
        simp only at h
        split_ifs at h
        cases h
      | found next =>
        refine List.forall_mem_cons.2 ⟨?_, ih h⟩
        obtain ⟨rfl, -⟩ | ⟨-, -, rfl, hsome⟩ := step_eq_found_iff.1 hstep
        · decide
        · exact (isStep_of_isSome hproper hsome).1

theorem Entry.isStep_of_hasEntry (hproper : tree.isProper = true) (h : tree.hasEntry p = .ok true) :
    ∀ name ∈ p.parts, Path.IsStep name := by
  have heq : tree.hasEntry p = _ := holds_eq tree p fun _ => true
  rw [heq] at h
  cases hlocate : tree.locate p with
  | error fault =>
    rw [hlocate] at h
    simp only at h
    split_ifs at h
    cases h
  | ok found =>
    rw [hlocate] at h
    cases found with
    | free above name => cases h
    | found here => exact isStep_of_found hproper (locate_eq_ok_iff.1 hlocate).2

/-! ### Settings of a project -/

theorem resolvePath_eq_ok_iff {q : Path} : resolvePath current p = .ok q ↔ p.hasNull = false ∧ q = p.resolved current := by
  rw [resolvePath]
  cases p.hasNull <;> simp [eq_comm]

/-- The directory of a project is rooted. -/
theorem isRooted_projectRoot (hproper : tree.isProper = true)
    (h : projectRoot tree current request.path = .ok root) : root.IsRooted := by
  rw [projectRoot] at h
  simp only [bind, Except.bind] at h
  cases hresolved : resolvePath current (Path.ofText request.path) with
  | error fault =>
    rw [hresolved] at h
    cases h
  | ok resolved =>
    rw [hresolved] at h
    simp only [Except.mapError] at h
    cases hthere : tree.hasEntry resolved with
    | error fault =>
      rw [hthere] at h
      cases h
    | ok there =>
      rw [hthere] at h
      simp only at h
      split_ifs at h with hyes
      cases h
      rw [hyes] at hthere
      obtain ⟨-, rfl⟩ := resolvePath_eq_ok_iff.1 hresolved
      exact ⟨.inl rfl, isStep_of_hasEntry hproper hthere⟩

private theorem isRooted_pathFor (hroot : p.IsRooted) (h : Settings.pathFor tree current p = .ok root) :
    root.parent.IsRooted := by
  have hparent : ∀ {q : Path}, q.IsRooted → q.parent.IsRooted := fun hq =>
    ⟨hq.root, fun name hname => hq.steps name (List.dropLast_subset _ hname)⟩
  have hresolve : ∀ {q : Path}, q.IsRooted → resolvePath [] q = .ok root → root.parent.IsRooted := by
    intro q hq hresolved
    obtain ⟨-, rfl⟩ := resolvePath_eq_ok_iff.1 hresolved
    exact hparent (hq.resolved [])
  rw [Settings.pathFor, if_pos hroot.isAbsolute] at h
  simp only [bind, Except.bind] at h
  cases hdirectory : tree.hasDirectory p with
  | error fault =>
    rw [hdirectory] at h
    cases h
  | ok there =>
    rw [hdirectory] at h
    simp only at h
    split_ifs at h
    · exact hresolve (hroot.child _) h
    · exact hresolve hroot h
    · exact hresolve ((hparent hroot).child _) h

/-- Settings for the directory of a project whose package is one, whose containers have identifiers for names, and whose
output directory and source roots, of which there are some, are spelled below that directory. -/
structure Settings.Located (root : Path) (settings : Settings) : Prop where
  root_eq : settings.root = root
  exists_root : settings.sourceRoots ≠ []
  sourceRoots : ∀ sourceRoot ∈ settings.sourceRoots, sourceRoot = root ∨ ∃ text, sourceRoot = root.child text
  directory : ∃ text, settings.directory = root.child text
  package : Settings.isPackageName settings.package = true
  containers : ∀ kind, ∀ name ∈ settings.containers.forKind? kind, Text.isIdentifier name = true

namespace Settings

/-- The name of each kind of container is one of the three. -/
private theorem forKind?_of_forall {names : ContainerNames} {p : String → Prop} (hactivity : p names.activity)
    (hfragment : p names.fragment) (hbundle : p names.bundle) (kind : String) : ∀ name ∈ names.forKind? kind, p name := by
  intro name hname
  obtain ⟨before, after, hsplit, -⟩ := List.lookup_eq_some_iff.1 hname
  have hmem : (kind, name) ∈ [("activity", names.activity), ("fragment", names.fragment), ("bundle", names.bundle)] := by
    simp [hsplit]
  simp only [List.mem_cons, Prod.mk.injEq, List.not_mem_nil, or_false] at hmem
  obtain ⟨-, rfl⟩ | ⟨-, rfl⟩ | ⟨-, rfl⟩ := hmem
  · exact hactivity
  · exact hfragment
  · exact hbundle

private theorem Located.default (root : Path) : Located root (.default root) where
  root_eq := rfl
  exists_root := List.cons_ne_nil _ _
  sourceRoots sourceRoot h := .inl (List.mem_singleton.1 h)
  directory := ⟨defaultDirectory, rfl⟩
  package := show isPackageName defaultPackage = true by decide
  containers := forKind?_of_forall (show Text.isIdentifier "ActivityTargets" = true by decide)
    (show Text.isIdentifier "FragmentTargets" = true by decide) (show Text.isIdentifier "Bundles" = true by decide)

private theorem Located.withOutput {entries : List (Value × Value)} {after : Settings} (hlocated : Located root settings)
    (h : settings.withOutput entries = .ok after) : Located root after := by
  rw [Settings.withOutput] at h
  split_ifs at h
  · cases h
    exact hlocated
  · obtain ⟨directory, -, h⟩ := bind_eq_ok_iff.1 h
    obtain ⟨package, -, h⟩ := bind_eq_ok_iff.1 h
    simp only at h
    split_ifs at h with hname
    obtain ⟨templates, -, h⟩ := bind_eq_ok_iff.1 h
    cases h
    have hdirectory : ∀ text, settings.root.child text = root.child text := fun text => by rw [hlocated.root_eq]
    exact { hlocated with directory := ⟨_, hdirectory _⟩, package := by simpa using hname }

private theorem isIdentifier_of_containerName {entries : List (Value × Value)} {kind default name : String}
    (hdefault : Text.isIdentifier default = true) (h : containerName entries kind default = .ok name) :
    Text.isIdentifier name = true := by
  obtain ⟨text, -, h⟩ := bind_eq_ok_iff.1 h
  cases text with
  | none =>
    cases h
    exact hdefault
  | some given =>
    simp only at h
    split_ifs at h with hgiven
    cases h
    exact hgiven

private theorem Located.withContainers {entries : List (Value × Value)} {after : Settings}
    (hlocated : Located root settings) (h : settings.withContainers entries = .ok after) : Located root after := by
  obtain ⟨activity, hactivity, h⟩ := bind_eq_ok_iff.1 h
  obtain ⟨fragment, hfragment, h⟩ := bind_eq_ok_iff.1 h
  obtain ⟨bundle, hbundle, h⟩ := bind_eq_ok_iff.1 h
  cases h
  have hnames : ∀ kind, ∀ name ∈ (ContainerNames.mk activity fragment bundle).forKind? kind,
      Text.isIdentifier name = true :=
    forKind?_of_forall (isIdentifier_of_containerName (hlocated.containers "activity" _ rfl) hactivity)
      (isIdentifier_of_containerName (hlocated.containers "fragment" _ rfl) hfragment)
      (isIdentifier_of_containerName (hlocated.containers "bundle" _ rfl) hbundle)
  exact { hlocated with containers := hnames }

private theorem located_ofEntries {entries : List (Value × Value)} (h : Settings.ofEntries root entries = .ok settings) :
    Located root settings := by
  obtain ⟨roots, -, h⟩ := bind_eq_ok_iff.1 h
  obtain ⟨withOutput, houtput, h⟩ := bind_eq_ok_iff.1 h
  obtain ⟨withContainers, hcontainers, h⟩ := bind_eq_ok_iff.1 h
  obtain ⟨enabled, -, h⟩ := bind_eq_ok_iff.1 h
  obtain ⟨excludePaths, -, h⟩ := bind_eq_ok_iff.1 h
  cases h
  have hroots : Located root (if roots.isEmpty = true then Settings.default root
      else { Settings.default root with sourceRoots := roots.map root.child }) := by
    split_ifs
    · exact .default root
    · rename_i hroots
      refine { Located.default root with exists_root := ?_, sourceRoots := fun sourceRoot hmem => ?_ }
      · simpa using hroots
      · obtain ⟨text, -, rfl⟩ := List.mem_map.1 hmem
        exact .inr ⟨text, rfl⟩
  have hcontained := (hroots.withOutput houtput).withContainers hcontainers
  exact { hcontained with }

private theorem located_ofText {text : String} (h : Settings.ofText root text = .ok settings) : Located root settings := by
  rw [Settings.ofText] at h
  split_ifs at h
  · exact located_ofEntries h
  · split at h
    · cases h
    · exact located_ofEntries h
    · split_ifs at h
      exact located_ofEntries h

/-- Settings are loaded for the directory of their file. -/
theorem exists_located_load (h : load tree current p = .ok settings) :
    ∃ file, pathFor tree current p = .ok file ∧ Located file.parent settings := by
  rw [load] at h
  cases hpath : pathFor tree current p with
  | error fault =>
    rw [hpath] at h
    cases h
  | ok file =>
    rw [hpath] at h
    refine ⟨file, rfl, ?_⟩
    dsimp only at h
    split at h
    · cases h
    · cases h
      exact .default _
    · split at h
      · cases h
      · exact located_ofText h

/-- The output that a request asks for is all that it changes about the settings of a project. -/
theorem exists_loaded {output : Option Path} (h : requestedSettings tree current root output = .ok settings) :
    ∃ loaded, load tree current root = .ok loaded ∧ settings.sourceRoots = loaded.sourceRoots ∧
      settings.package = loaded.package ∧ settings.containers = loaded.containers ∧
      (settings.directory = loaded.directory ∨ ∃ path ∈ output, settings.directory = path.resolved current) := by
  obtain ⟨loaded, hloaded, h⟩ := bind_eq_ok_iff.1 h
  have hload : load tree current root = .ok loaded := by
    cases hresult : load tree current root <;> rw [hresult] at hloaded <;> cases hloaded
    rfl
  refine ⟨loaded, hload, ?_⟩
  cases output with
  | none =>
    cases h
    exact ⟨rfl, rfl, rfl, .inl rfl⟩
  | some directory =>
    obtain ⟨resolved, hresolved, h⟩ := bind_eq_ok_iff.1 h
    cases h
    refine ⟨rfl, rfl, rfl, .inr ⟨directory, rfl, ?_⟩⟩
    cases hresult : resolvePath current directory with
    | error fault =>
      rw [hresult] at hresolved
      cases hresolved
    | ok found =>
      rw [hresult] at hresolved
      cases hresolved
      exact (resolvePath_eq_ok_iff.1 hresult).2

end Settings

/-- The source roots of a project are rooted, and its package has a name. -/
theorem isRooted_sourceRoots (hproper : tree.isProper = true) (hroot : projectRoot tree current request.path = .ok root)
    (h : requestedSettings tree current root request.output = .ok settings) :
    (∀ sourceRoot ∈ settings.sourceRoots, sourceRoot.IsRooted) ∧ Settings.isPackageName settings.package = true := by
  obtain ⟨loaded, hload, hroots, hpackage, -⟩ := Settings.exists_loaded h
  obtain ⟨file, hpath, hlocated⟩ := Settings.exists_located_load hload
  have htop := isRooted_pathFor (isRooted_projectRoot hproper hroot) hpath
  rw [hroots, hpackage]
  refine ⟨fun sourceRoot hmem => ?_, hlocated.package⟩
  obtain rfl | ⟨text, rfl⟩ := hlocated.sourceRoots sourceRoot hmem
  · exact htop
  · exact htop.child text

/-- The output directory of a project is rooted if the names that a request starts from are steps. -/
theorem isRooted_directory (hproper : tree.isProper = true) (hcurrent : ∀ name ∈ current, Path.IsStep name)
    (houtput : ∀ path ∈ request.output, ∀ name ∈ path.parts, Path.IsStep name)
    (hroot : projectRoot tree current request.path = .ok root)
    (h : requestedSettings tree current root request.output = .ok settings) : settings.directory.IsRooted := by
  obtain ⟨loaded, hload, -, -, -, hdirectory⟩ := Settings.exists_loaded h
  obtain ⟨file, hpath, hlocated⟩ := Settings.exists_located_load hload
  obtain hdirectory | ⟨path, hrequested, hdirectory⟩ := hdirectory <;> rw [hdirectory]
  · obtain ⟨text, htext⟩ := hlocated.directory
    rw [htext]
    exact (isRooted_pathFor (isRooted_projectRoot hproper hroot) hpath).child text
  · exact Path.isRooted_resolved hcurrent (houtput path hrequested)

end NavFactory
