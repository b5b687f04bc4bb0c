import NavFactory.Proofs.Agreement
import NavFactory.Proofs.Walking

/-!
# Reading again after a round

What a plan reads of a tree is read again in the tree that its round leaves: the project, its settings, the rules of
each source root and the sources that are listed there.
-/

namespace NavFactory

open Entry

variable {tree tree' : Entry} {place here parts rest names above : List String} {name text : String}
  {directory path p : Path} {contents : List UInt8} {files : Sources}

/-! ### Paths that lead to the same -/

private theorem locateFrom_congr (hkinds : ∀ place, place <+: here ++ rest → tree'.kindAt? place = tree.kindAt? place)
    (hup : ".." ∉ rest) : tree'.locateFrom here rest = tree.locateFrom here rest := by
  induction rest generalizing here with
  | nil => rw [locateFrom, locateFrom]
  | cons name rest ih =>
    have hhere := hkinds here (List.prefix_append _ _)
    have hnext := hkinds (here ++ [name]) ⟨rest, by simp⟩
    have hrest := @ih (here ++ [name]) (by simpa using hkinds) (List.not_mem_of_not_mem_cons hup)
    -- what a step finds depends on whether its name is used
    have hstep : tree'.step here name = tree.step here name := by
      have hsome := congrArg Option.isSome hnext
      rw [kindAt?, kindAt?, Option.isSome_map, Option.isSome_map] at hsome
      rw [step, step, hsome]
    cases hat : tree.at? here with
    | none =>
      have hat' : tree'.at? here = none := by simpa [kindAt?, nodeAt?, hat] using hhere
      rw [locateFrom, locateFrom, hat, hat']
    | some d =>
      obtain ⟨d', hat', hkind⟩ : ∃ d', tree'.at? here = some d' ∧ d'.isDirectory = d.isDirectory := by
        simpa [kindAt?, nodeAt?, isDirectory_node, hat] using hhere
      cases d with
      | file contents =>
        cases d' with
        | file contents' => rw [locateFrom, locateFrom, hat, hat']
        | directory entries => cases hkind
      | directory entries =>
        cases d' with
        | file contents' => cases hkind
        | directory entries' =>
          rw [locateFrom_cons (nodeAt?_eq_directory_iff.2 ⟨_, hat⟩),
            locateFrom_cons (nodeAt?_eq_directory_iff.2 ⟨_, hat'⟩), hstep]
          cases hfound : tree.step here name with
          | error problem => rfl
          | ok found =>
            cases found with
            | free above name => rfl
            | found next =>
              obtain ⟨rfl, -⟩ | ⟨-, -, rfl, -⟩ := step_eq_found_iff.1 hfound
              · exact absurd List.mem_cons_self hup
              · exact hrest

/-- A path leads to the same in two trees in which the same kinds of things stand on its way. -/
theorem Entry.locate_congr (hkinds : ∀ place, place <+: p.parts → tree'.kindAt? place = tree.kindAt? place)
    (hup : ".." ∉ p.parts) : tree'.locate p = tree.locate p := by
  rw [locate, locate, locateFrom_congr (by simpa using hkinds) hup]

theorem Path.collapse_of_notMem {done : List String} (hup : ".." ∉ parts) : collapse done parts = done ++ parts := by
  induction parts generalizing done with
  | nil => simp [collapse]
  | cons part rest ih =>
    rw [List.mem_cons, not_or] at hup
    rw [collapse, ih hup.2, List.append_assoc, List.singleton_append]
    exact fun heq => hup.1 heq.symm

/-- What a path without double dots leads to is at the place that its parts name. -/
theorem Entry.eq_parts_of_found (hup : ".." ∉ p.parts) (h : tree.locate p = .ok (.found place)) : place = p.parts := by
  have hplace := collapse_of_found (locate_eq_ok_iff.1 h).2
  rw [Path.collapse_of_notMem hup, List.nil_append] at hplace
  exact hplace.symm

/-! ### Paths on which nothing is new -/

/-- Whether no place on the way to another has come to be used. -/
def Entry.NothingNew (tree tree' : Entry) (parts : List String) : Prop :=
  ∀ place, place <+: parts → tree.nodeAt? place = none → tree'.nodeAt? place = none

/-- Everything above a place that is used is used as well. -/
theorem Entry.isSome_above (h : (tree.nodeAt? names).isSome) (hway : place <+: names) :
    (tree.nodeAt? place).isSome := by
  obtain ⟨rest, rfl⟩ := hway
  by_cases hrest : rest = []
  · rwa [hrest, List.append_nil] at h
  · rw [nodeAt?_of_below hrest h]
    rfl

theorem Entry.nothingNew_of_isSome (h : (tree.nodeAt? parts).isSome) : tree.NothingNew tree' parts :=
  fun place hprefix hnone => by
    have := isSome_above h hprefix
    rw [hnone] at this
    cases this

/-- Below a directory that is there, only the last name can be new. -/
theorem Entry.nothingNew_concat (h : (tree.nodeAt? above).isSome)
    (hlast : tree.nodeAt? (above ++ [name]) = none → tree'.nodeAt? (above ++ [name]) = none) :
    tree.NothingNew tree' (above ++ [name]) := by
  intro place hprefix hnone
  obtain rfl | hprefix := List.prefix_concat_iff.1 hprefix
  · exact hlast hnone
  · exact nothingNew_of_isSome h place hprefix hnone

namespace Output.Alteration

theorem kindAt?_eq (h : Alteration directory files tree tree')
    (hnew : tree.nodeAt? place = none → tree'.nodeAt? place = none) : tree'.kindAt? place = tree.kindAt? place := by
  rw [kindAt?, kindAt?]
  obtain hsame | ⟨name, text, -, -, hfile, -⟩ | ⟨hfree, -⟩ := h.place place
  · rw [hsame]
  · cases hnode : tree.nodeAt? place with
    | none =>
      rw [hnew hnode] at hfile
      cases hfile
    | some node =>
      cases node with
      | file contents =>
        rw [hfile]
        rfl
      | directory =>
        rw [h.grows.directory place hnode] at hfile
        cases hfile
  · rw [hfree, hnew hfree]

theorem locate_eq (h : Alteration directory files tree tree') (hup : ".." ∉ p.parts)
    (hnew : tree.NothingNew tree' p.parts) : tree'.locate p = tree.locate p :=
  locate_congr (fun place hprefix => h.kindAt?_eq (hnew place hprefix)) hup

theorem hasEntry_eq (h : Alteration directory files tree tree') (hup : ".." ∉ p.parts)
    (hnew : tree.NothingNew tree' p.parts) : tree'.hasEntry p = tree.hasEntry p :=
  hasEntry_congr (h.locate_eq hup hnew)

theorem hasDirectory_eq (h : Alteration directory files tree tree') (hup : ".." ∉ p.parts)
    (hnew : tree.NothingNew tree' p.parts) : tree'.hasDirectory p = tree.hasDirectory p := by
  refine hasDirectory_congr (h.locate_eq hup hnew) fun place hplace => ?_
  rw [eq_parts_of_found hup hplace]
  exact h.kindAt?_eq (hnew p.parts (List.prefix_refl _))

/-- A path on which nothing is new leads to the same, unless the file there is one of those that were written. -/
theorem sameAt (h : Alteration directory files tree tree') (hup : ".." ∉ p.parts)
    (hnew : tree.NothingNew tree' p.parts) (hwritten : ¬Writes directory files tree' p.parts) :
    tree.SameAt tree' p := by
  refine ⟨h.locate_eq hup hnew, fun place hplace => ?_⟩
  have hsome := isSome_of_found (locate_eq_ok_iff.1 hplace).2
  rw [eq_parts_of_found hup hplace] at hsome ⊢
  obtain hsame | hwrites | ⟨hfree, -⟩ := h.place p.parts
  · exact hsame
  · exact absurd hwrites hwritten
  · rw [hfree] at hsome
    cases hsome

end Output.Alteration

/-! ### Settings and rules -/

/-- The names of the files that say how a directory is scanned. -/
def controlNames : List String := [settingsFileName, ignoreFileName]

/-- Whether a directory has come to stand where such a file would be looked for. -/
def Entry.Obstructs (tree tree' : Entry) : Prop :=
  ∃ above, ∃ name ∈ controlNames, tree.nodeAt? (above ++ [name]) = none ∧
    tree'.nodeAt? (above ++ [name]) = some .directory

/-- Whether files are brought up to date without touching those that say how a directory is scanned. -/
structure Output.Spares (directory : Path) (files : Sources) (tree tree' : Entry) : Prop where
  alteration : Alteration directory files tree tree'
  names : ∀ file ∈ files, Path.IsStep file.1 ∧ file.1 ∉ controlNames
  clear : ¬tree.Obstructs tree'

namespace Output.Spares

variable {current : List String}

theorem not_writes (h : Spares directory files tree tree') (hname : name ∈ controlNames) :
    ¬Writes directory files tree' (above ++ [name]) := by
  rintro ⟨name', text, hmem, -, -, hinside⟩
  obtain ⟨hstep, hother⟩ := h.names _ hmem
  obtain ⟨here, -, heq⟩ := hinside hstep
  obtain ⟨-, hlast⟩ := List.append_inj' heq rfl
  obtain rfl : name = name' := by simpa using hlast
  exact hother hname

theorem nothingNew (h : Spares directory files tree tree') (habove : (tree.nodeAt? above).isSome)
    (hname : name ∈ controlNames) : tree.NothingNew tree' (above ++ [name]) := by
  refine nothingNew_concat habove fun hnone => ?_
  obtain hsame | hwrites | ⟨-, -, -, -, hdirectory⟩ := h.alteration.place (above ++ [name])
  · rw [hsame, hnone]
  · exact absurd hwrites (h.not_writes hname)
  · exact absurd ⟨above, name, hname, hnone, hdirectory⟩ h.clear

/-- The files that say how a directory is scanned are as they were. -/
theorem sameAt (h : Spares directory files tree tree') (habove : (tree.nodeAt? above).isSome)
    (hname : name ∈ controlNames) (hup : ".." ∉ above) (hparts : p.parts = above ++ [name]) : tree.SameAt tree' p := by
  have hup' : ".." ∉ p.parts := by
    rw [hparts, List.mem_append, not_or]
    refine ⟨hup, fun hmem => ?_⟩
    rw [← List.mem_singleton.1 hmem] at hname
    revert hname
    decide
  refine h.alteration.sameAt hup' ?_ ?_
  · rw [hparts]
    exact h.nothingNew habove hname
  · rw [hparts]
    exact h.not_writes hname

/-- The settings that a path stands for are looked for below a directory that is there. -/
private theorem exists_of_pathFor {file : Path} (habsolute : p.isAbsolute = true) (hup : ".." ∉ p.parts)
    (habove : (tree.nodeAt? p.parts.dropLast).isSome) (h : Settings.pathFor tree current p = .ok file) :
    ∃ above, (tree.nodeAt? above).isSome ∧ ".." ∉ above ∧ file.parts = above ++ [settingsFileName] := by
  have hstep : Path.IsStep settingsFileName := by decide
  have hupName : ".." ∉ [settingsFileName] := by decide
  have hresolve : ∀ names, ".." ∉ names → resolvePath [] ⟨p.root, names⟩ = .ok file → file.parts = names := by
    intro names hnames hfile
    rw [resolvePath] at hfile
    split_ifs at hfile
    cases hfile
    have habs : (⟨p.root, names⟩ : Path).isAbsolute = true := habsolute
    rw [Path.resolved, Path.absolute, Path.resolve, if_pos habs, Path.collapse_of_notMem hnames, List.nil_append]
  have hupAbove : ".." ∉ p.parts.dropLast := fun hmem => hup (List.dropLast_subset _ hmem)
  have hjoin : ∀ {names : List String}, ".." ∉ names → ".." ∉ names ++ [settingsFileName] := by
    intro names hnames
    rw [List.mem_append, not_or]
    exact ⟨hnames, hupName⟩
  have hchild : ∀ q : Path, q.child settingsFileName = ⟨q.root, q.parts ++ [settingsFileName]⟩ :=
    Path.child_of_isStep hstep
  rw [Settings.pathFor, if_pos habsolute] at h
  simp only [bind, Except.bind] at h
  cases hdirectory : tree.hasDirectory p with
  | error fault =>
    rw [hdirectory] at h
    cases h
  | ok there =>
    rw [hdirectory, hchild, hchild] at h
    cases there with
    | true =>
      obtain ⟨here, hlocate, hhere⟩ := found_of_hasDirectory hdirectory
      rw [eq_parts_of_found hup hlocate] at hhere
      exact ⟨p.parts, by rw [hhere]; rfl, hup, hresolve _ (hjoin hup) h⟩
    | false =>
      -- a path of the right name is the file itself, and otherwise the file is looked for beside the path
      simp only [Bool.false_eq_true, if_false] at h
      split_ifs at h with hname
      · rw [beq_iff_eq] at hname
        refine ⟨_, habove, hupAbove, ?_⟩
        rw [hresolve _ hup h]
        obtain hparts | ⟨init, last, hparts⟩ := List.eq_nil_or_concat' p.parts
        · rw [Path.name, hparts] at hname
          exact absurd hname (by decide)
        · rw [Path.name, hparts, List.getLastD_concat] at hname
          rw [hparts, hname, List.dropLast_concat]
      · exact ⟨_, habove, hupAbove, hresolve _ (hjoin hupAbove) h⟩

/-- Settings are read again as they were. -/
theorem load_eq (h : Spares directory files tree tree') (habsolute : p.isAbsolute = true) (hup : ".." ∉ p.parts)
    (habove : (tree.nodeAt? p.parts.dropLast).isSome) (hnew : tree.NothingNew tree' p.parts) :
    Settings.load tree' current p = Settings.load tree current p := by
  have hpath : Settings.pathFor tree' current p = Settings.pathFor tree current p := by
    rw [Settings.pathFor, Settings.pathFor, if_pos habsolute, h.alteration.hasDirectory_eq hup hnew]
  rw [Settings.load, Settings.load, hpath]
  cases hfile : Settings.pathFor tree current p with
  | error fault => rfl
  | ok file =>
    obtain ⟨above, hthere, hupAbove, hparts⟩ := exists_of_pathFor habsolute hup habove hfile
    have hsame := h.sameAt hthere (by decide) hupAbove hparts
    simp only [hasEntry_congr hsame.locate, hsame.readText]

/-- The rules below a directory that is there are read again as they were. -/
theorem scanRules_eq (h : Spares directory files tree tree') {names : List String}
    (hthere : (tree.nodeAt? names).isSome) (hup : ".." ∉ names) (excludes : List String) :
    scanRules tree' (.absolute names) excludes = scanRules tree (.absolute names) excludes := by
  have hchild : ∀ {name : String}, Path.IsStep name → (Path.absolute names).child name = ⟨"/", names ++ [name]⟩ :=
    fun hstep => Path.child_of_isStep hstep _
  have hignore : ignoreFileRules tree' (.absolute names) = ignoreFileRules tree (.absolute names) := by
    have hparts : ((Path.absolute names).child ignoreFileName).parts = names ++ [ignoreFileName] := by
      rw [hchild (by decide)]
    have hsame := h.sameAt hthere (by decide) hup hparts
    rw [ignoreFileRules, ignoreFileRules, hasEntry_congr hsame.locate, hsame.readText]
  have hsettings : settingsRules tree' (.absolute names) = settingsRules tree (.absolute names) := by
    rw [settingsRules, settingsRules, hchild (by decide), h.load_eq rfl]
    · rw [List.mem_append, not_or]
      exact ⟨hup, by decide⟩
    · rwa [List.dropLast_concat]
    · exact h.nothingNew hthere (by decide)
  rw [scanRules, scanRules, hignore, hsettings]

end Output.Spares

/-! ### Listed sources -/

section Listing

variable {rules : List IgnoreRule} {root : List String} {e new : Entry} {keep : String → Bool}

theorem Entry.nodeAt?_append (h : tree.at? root = some e) (names : List String) :
    tree.nodeAt? (root ++ names) = e.nodeAt? names := by
  rw [nodeAt?, nodeAt?, at?_append, h, Option.bind_some]

/-- Setting something where no directory is leaves the directory of a source root, and what is kept of the paths that are
listed there, if nothing changes about what is kept below it. -/
private theorem sourcePaths_at_put (hroot : tree.at? root = some e) (hkind : e.isDirectory = true)
    (hplace : tree.HasPlace (here ++ [name])) (hold : tree.nodeAt? (here ++ [name]) ≠ some .directory)
    (hbelow : ∀ names, here = root ++ names → e.HasPlace (names ++ [name]) →
      (sourcePaths rules "" (e.put (names ++ [name]) new)).filter keep = (sourcePaths rules "" e).filter keep) :
    ∃ e', (tree.put (here ++ [name]) new).at? root = some e' ∧ e'.isDirectory = true ∧
      (sourcePaths rules "" e').filter keep = (sourcePaths rules "" e).filter keep := by
  have hnode : tree.nodeAt? root = some .directory := by
    cases e with
    | file contents => cases hkind
    | directory entries => exact nodeAt?_eq_directory_iff.2 ⟨entries, hroot⟩
  have habove : ¬here ++ [name] <+: root := by
    rintro ⟨rest, rfl⟩
    by_cases hrest : rest = []
    · rw [hrest, List.append_nil] at hnode
      exact hold hnode
    · exact hold (nodeAt?_of_below hrest (by rw [hnode]; rfl))
  by_cases hinside : root <+: here
  · obtain ⟨names, rfl⟩ := hinside
    rw [List.append_assoc]
    refine ⟨_, at?_put_append hroot (by simp) new, ?_, ?_⟩
    · rw [isDirectory_put (by simp)]
      exact hkind
    · refine hbelow names rfl ⟨by simp, ?_⟩
      have hparent := hplace.parent
      rw [List.dropLast_concat, nodeAt?_append hroot] at hparent
      rwa [List.dropLast_concat]
  · have hapart : ¬root <+: here ++ [name] := by
      intro hprefix
      obtain rfl | hprefix := List.prefix_concat_iff.1 hprefix
      · exact habove (List.prefix_refl _)
      · exact hinside hprefix
    exact ⟨e, by rw [at?_put_of_apart hplace habove hapart, hroot], hkind, rfl⟩

/-- Bringing files up to date that are not listed below a source root, or are listed by paths that are not kept, changes
nothing about the paths that are. -/
theorem Output.Steps.sourcePaths_eq (h : Steps directory files tree tree') (hroot : tree.at? root = some e)
    (hkind : e.isDirectory = true) (hnames : ∀ file ∈ files, Path.IsStep file.1)
    (hdropped : ∀ names, Path.collapse [] directory.parts = root ++ names → ∀ file ∈ files,
      lists rules names file.1 = false ∨ keep ((names ++ [file.1]).foldl below "") = false) :
    ∃ e', tree'.at? root = some e' ∧ e'.isDirectory = true ∧
      (sourcePaths rules "" e').filter keep = (sourcePaths rules "" e).filter keep := by
  induction h with
  | refl => exact ⟨e, hroot, hkind, rfl⟩
  | @tail before after _ hstep ih =>
    obtain ⟨e', hroot', hkind', hsame⟩ := ih
    rw [← hsame]
    cases hstep with
    | make hway hlocate =>
      obtain ⟨hplace, hfree⟩ := hasPlace_of_free hlocate
      refine sourcePaths_at_put hroot' hkind' hplace (by simp [hfree]) fun names hhere hplace' => ?_
      rw [hhere, List.append_assoc, nodeAt?_append hroot'] at hfree
      exact sourcePaths_put_emptyDirectory hplace' hfree rules keep
    | set hmem hset =>
      obtain ⟨hparts, hleads, hold, -⟩ := hset
      rename_i name text parts here last
      rw [Path.child_of_isStep (hnames _ hmem)] at hparts
      obtain ⟨rfl, rfl⟩ : directory.parts = parts ∧ name = last := by simpa using hparts
      refine sourcePaths_at_put hroot' hkind' (.of_append hleads.directory name) hold fun names hhere hplace' => ?_
      rw [hhere, List.append_assoc, nodeAt?_append hroot'] at hold
      have hcollapse := (collapse_of_found hleads.located).trans hhere
      exact sourcePaths_put_file hplace' hold (hdropped names hcollapse _ hmem) _

end Listing

end NavFactory
