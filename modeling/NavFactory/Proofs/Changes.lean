import Mathlib.Logic.Relation
import NavFactory.Proofs.Planning

/-!
# What a round changes

Replacing a file sets the place that its path leads to and nothing else: the temporary file beside it leaves no trace
(`Output.setsFile_of_replaceFile`).  Making directories fills free places on the way to the last one.  Writing files is
a run of such steps (`Output.steps_write`).  Each of them is an `Alteration`, alterations follow one another
(`Alteration.trans`), and so everything that a round changes is a file that its plan names or a missing directory above
them (`Round.frame`).
-/

namespace NavFactory

open Entry

variable {tree tree' tree'' : Entry} {place here parts : List String} {name text : String}
  {path directory temporary p : Path} {contents : List UInt8} {files : Sources}

/-! ### Single files -/

theorem Entry.exists_free_of_createFile (h : tree.createFile p contents = .ok tree') :
    ∃ above name, tree.locate p = .ok (.free above name) ∧ tree' = tree.put (above ++ [name]) (.file contents) := by
  rw [createFile] at h
  cases hlocate : tree.locate p with
  | error f =>
    rw [hlocate] at h
    cases h
  | ok found =>
    rw [hlocate] at h
    cases found with
    | found names => cases h
    | free above name =>
      cases h
      exact ⟨above, name, rfl, rfl⟩

theorem Entry.createFile_of_createTemporary {folder : Path} {fuel n : Nat}
    (h : tree.createTemporary folder name contents fuel n = .ok (temporary, tree')) :
    tree.createFile temporary contents = .ok tree' := by
  induction fuel generalizing n with
  | zero =>
    rw [createTemporary] at h
    cases hcreated : tree.createFile (folder / ⟨"", [temporaryName name n]⟩) contents with
    | error f =>
      rw [hcreated] at h
      cases h
    | ok written =>
      rw [hcreated] at h
      cases h
      exact hcreated
  | succ fuel ih =>
    rw [createTemporary] at h
    cases hcreated : tree.createFile (folder / ⟨"", [temporaryName name n]⟩) contents with
    | error f =>
      simp only [hcreated] at h
      split_ifs at h
      exact ih h
    | ok written =>
      simp only [hcreated] at h
      cases h
      exact hcreated

/-- Where the entry of a path can be set. -/
theorem Entry.hasPlace_of_free {above : List String} (h : tree.locate p = .ok (.free above name)) :
    tree.HasPlace (above ++ [name]) ∧ tree.nodeAt? (above ++ [name]) = none := by
  obtain ⟨-, hleads, -, -, hfree⟩ := free_of_locateFrom (locate_eq_ok_iff.1 h).2
  exact ⟨.of_append hleads.directory name, hfree⟩

/-- A directory that is made in a free place is found there, and is empty. -/
theorem Entry.found_emptyDirectory {above : List String} (h : tree.locate p = .ok (.free above name)) :
    (tree.put (above ++ [name]) .emptyDirectory).locate p = .ok (.found (above ++ [name])) ∧
      (tree.put (above ++ [name]) .emptyDirectory).nodeAt? (above ++ [name]) = some .directory ∧
      ∀ below, (tree.put (above ++ [name]) .emptyDirectory).nodeAt? (above ++ [name] ++ [below]) = none := by
  obtain ⟨hplace, hfree⟩ := hasPlace_of_free h
  have hnode := nodeAt?_put_emptyDirectory hplace hfree
  have hmade : (tree.put (above ++ [name]) .emptyDirectory).nodeAt? (above ++ [name]) = some .directory := by
    rw [hnode, if_pos rfl]
  refine ⟨(grows_put_emptyDirectory hplace hfree).locate_free h (by rw [hmade]; rfl), hmade, fun below => ?_⟩
  rw [hnode, if_neg (by simp)]
  by_contra hthere
  have := nodeAt?_of_below (List.cons_ne_nil below []) (Option.isSome_iff_ne_none.2 hthere)
  rw [hfree] at this
  cases this

/-- A path leads to the file that has been put into its place. -/
private theorem locate_put (hnull : path.hasNull = false)
    (hparts : path.parts = parts ++ [name]) (hleads : tree.Leads parts here) (hup : name ≠ "..")
    (hfits : name.utf8ByteSize ≤ maxNameLength) (hold : tree.nodeAt? (here ++ [name]) ≠ some .directory)
    (contents : List UInt8) :
    (tree.put (here ++ [name]) (.file contents)).locate path = .ok (.found (here ++ [name])) := by
  have hplace : tree.HasPlace (here ++ [name]) := .of_append hleads.directory name
  rw [((grows_put_file hplace hold contents).leads hleads).locate hparts (hasNull_eq_false_iff.1 hnull) hup hfits,
    nodeAt?_put_file hplace hold, if_pos rfl]
  rfl

/-- A tree in which the file of a path has been set. -/
inductive Entry.SetsFile (tree : Entry) (path : Path) (contents : List UInt8) : Entry → Prop
  | put {parts here : List String} {name : String} (hparts : path.parts = parts ++ [name])
      (hleads : tree.Leads parts here) (hold : tree.nodeAt? (here ++ [name]) ≠ some .directory)
      (hlocate : (tree.put (here ++ [name]) (.file contents)).locate path = .ok (.found (here ++ [name]))) :
      SetsFile tree path contents (tree.put (here ++ [name]) (.file contents))

/-- A file that has been moved onto a path stands where the path leads to. -/
theorem Entry.setsFile_of_moveFile {above : List String} (htemporary : tree.locate temporary = .ok (.free above name))
    (h : (tree.put (above ++ [name]) (.file contents)).moveFile temporary path = .ok tree') :
    tree.SetsFile path contents tree' := by
  obtain ⟨hplace, hfree⟩ := hasPlace_of_free htemporary
  have hnode := nodeAt?_put_file hplace (by simp [hfree]) contents
  have hgrows := grows_put_file hplace (by simp [hfree]) contents
  have herase := erase_put hplace hfree (.file contents)
  have hthere : (tree.put (above ++ [name]) (.file contents)).at? (above ++ [name]) = some (.file contents) :=
    nodeAt?_eq_file_iff.1 (by rw [hnode, if_pos rfl])
  have hback : ∀ names, (tree.put (above ++ [name]) (.file contents)).nodeAt? names = some .directory →
      tree.nodeAt? names = some .directory := by
    intro names hd
    rw [hnode] at hd
    split_ifs at hd with heq
    · cases hd
    · exact hd
  have hlocated := hgrows.locate_free htemporary (by rw [nodeAt?, hthere]; rfl)
  -- from here on only these laws of the tree with the temporary file matter, not how it came about
  generalize tree.put (above ++ [name]) (.file contents) = written at *
  have hset : ∀ {init : List String} {last : String} {here : List String}, path.parts = init ++ [last] →
      path.hasNull = false → written.Leads init here → last ≠ ".." →
      last.utf8ByteSize ≤ maxNameLength → written.nodeAt? (here ++ [last]) ≠ some .directory →
      tree.SetsFile path contents (tree.put (here ++ [last]) (.file contents)) := by
    intro init last here hparts hnull hleads hup hfits hold
    have hleads' := hleads.mono hback
    have hold' : tree.nodeAt? (here ++ [last]) ≠ some .directory := fun hd => hold (hgrows.directory _ hd)
    exact .put hparts hleads' hold' (locate_put hnull hparts hleads' hup hfits hold' contents)
  rw [moveFile, hlocated] at h
  simp only [bind, Except.bind, hthere] at h
  cases hlocate : written.locate path with
  | error f =>
    rw [hlocate] at h
    cases h
  | ok found =>
    rw [hlocate] at h
    obtain ⟨hnull, hfound⟩ := locate_eq_ok_iff.1 hlocate
    cases found with
    | free above' name' =>
      simp only [herase] at h
      cases h
      obtain ⟨hparts, hleads, hup, hfits, hfree'⟩ := free_of_locateFrom hfound
      exact hset hparts hnull hleads hup hfits (by simp [hfree'])
    | found place =>
      simp only [herase] at h
      cases hat : written.at? place with
      | none =>
        rw [hat] at h
        cases h
      | some d =>
        rw [hat] at h
        cases d with
        | directory entries => cases h
        | file old =>
          cases h
          have hfile : written.nodeAt? place = some (.file old) := nodeAt?_eq_file_iff.2 hat
          have htop : written.nodeAt? [] = some .directory :=
            nodeAt?_of_below (show above ++ [name] ≠ [] by simp) (by rw [List.nil_append, nodeAt?, hthere]; rfl)
          obtain ⟨init, last, here, hparts, rfl, hleads, hup, hfits⟩ :=
            leads_of_file hfound (by rintro rfl; rw [htop] at hfile; cases hfile) hfile
          exact hset hparts hnull hleads hup hfits (by simp [hfile])

theorem Output.setsFile_of_replaceFile (h : Output.replaceFile tree path text = .ok tree') :
    tree.SetsFile path (Text.encode text) tree' := by
  rw [replaceFile] at h
  cases hcreated : tree.createTemporary (temporaryDirectory path) path.name (Text.encode text)
      (tree.entryCount (temporaryDirectory path)) 0 with
  | error f =>
    rw [hcreated] at h
    cases h
  | ok created =>
    obtain ⟨temporary, written⟩ := created
    simp only [hcreated] at h
    obtain ⟨above, name, hlocate, rfl⟩ := exists_free_of_createFile (createFile_of_createTemporary hcreated)
    cases hmoved : (tree.put (above ++ [name]) (.file (Text.encode text))).moveFile temporary path with
    | error f =>
      rw [hmoved] at h
      cases h
    | ok moved =>
      rw [hmoved] at h
      cases h
      exact setsFile_of_moveFile hlocate hmoved

/-! ### Steps -/

/-- A step in which files are brought up to date: a directory on the way to theirs is made, or one of them is set. -/
inductive Output.Step (directory : Path) (files : Sources) (tree : Entry) : Entry → Prop
  | make {parts above : List String} {name : String} (hway : parts <+: directory.parts)
      (hlocate : tree.locate ⟨directory.root, parts⟩ = .ok (.free above name)) :
      Step directory files tree (tree.put (above ++ [name]) .emptyDirectory)
  | set {name text : String} {tree' : Entry} (hmem : (name, text) ∈ files)
      (hset : tree.SetsFile (directory.child name) (Text.encode text) tree') : Step directory files tree tree'

/-- Several steps, one after the other. -/
abbrev Output.Steps (directory : Path) (files : Sources) : Entry → Entry → Prop :=
  Relation.ReflTransGen (Output.Step directory files)

namespace Output

theorem steps_of_updateFile {changed : Bool} (hmem : (name, text) ∈ files)
    (h : updateFile tree (directory.child name) text = .ok (tree', changed)) : Steps directory files tree tree' := by
  rw [updateFile] at h
  simp only [bind, Except.bind] at h
  cases hcurrent : currentText tree (directory.child name) with
  | error f =>
    rw [hcurrent] at h
    cases h
  | ok current =>
    simp only [hcurrent] at h
    split_ifs at h
    · cases h
      exact .refl
    · cases hreplaced : replaceFile tree (directory.child name) text with
      | error f =>
        rw [hreplaced] at h
        cases h
      | ok moved =>
        rw [hreplaced] at h
        cases h
        exact .single (.set hmem (setsFile_of_replaceFile hreplaced))

/-- Bringing files up to date one after the other, as far as it gets. -/
theorem steps_writeFiles {rest : Sources} (hsub : rest ⊆ files) (directory : Path) (tree : Entry) :
    Steps directory files tree (writeFiles directory tree rest).tree := by
  induction rest generalizing tree with
  | nil => rw [writeFiles]
  | cons file rest ih =>
    obtain ⟨name, text⟩ := file
    obtain ⟨hmem, hsub⟩ := List.cons_subset.1 hsub
    rw [writeFiles]
    cases hupdated : updateFile tree (directory.child name) text with
    | error f => exact .refl
    | ok updated =>
      obtain ⟨tree', changed⟩ := updated
      exact (steps_of_updateFile hmem hupdated).trans (ih hsub tree')

theorem steps_of_makeDirectory (hway : parts <+: directory.parts)
    (h : tree.makeDirectory ⟨directory.root, parts⟩ = .ok tree') : Steps directory files tree tree' := by
  rw [makeDirectory] at h
  cases hlocate : tree.locate ⟨directory.root, parts⟩ with
  | error f =>
    rw [hlocate] at h
    cases h
  | ok found =>
    rw [hlocate] at h
    cases found with
    | found names => cases h
    | free above name =>
      cases h
      exact .single (.make hway hlocate)

/-- Making a directory with those above it, as far as it gets. -/
theorem steps_ensureDirectoriesFrom (files : Sources) (tree : Entry) (reversed : List String)
    (hway : reversed.reverse <+: directory.parts) :
    Steps directory files tree (tree.ensureDirectoriesFrom directory.root reversed).1 := by
  induction reversed generalizing tree with
  | nil => exact .refl
  | cons part above ih =>
    have hwayAbove : above.reverse <+: directory.parts := by
      rw [List.reverse_cons] at hway
      exact (List.prefix_append _ _).trans hway
    rw [ensureDirectoriesFrom]
    cases hmade : tree.makeDirectory ⟨directory.root, (part :: above).reverse⟩ with
    | ok tree' => exact steps_of_makeDirectory hway hmade
    | error fault =>
      dsimp only
      split_ifs with hmissing
      · have habove := ih tree hwayAbove
        revert habove
        cases hensured : tree.ensureDirectoriesFrom directory.root above with
        | mk tree' fault? =>
          intro habove
          cases fault? with
          | some fault => exact habove
          | none =>
            dsimp only
            cases hmade' : tree'.makeDirectory ⟨directory.root, (part :: above).reverse⟩ with
            | ok tree'' => exact habove.trans (steps_of_makeDirectory hway hmade')
            | error fault => exact habove
      · exact .refl

/-- Files are written in such steps, however far that gets. -/
theorem steps_write (tree : Entry) (directory : Path) (files : Sources) :
    Steps directory files tree (write tree directory files).tree := by
  have hensured : Steps directory files tree (tree.ensureDirectories directory).1 :=
    steps_ensureDirectoriesFrom files tree _ (by simp)
  rw [write]
  revert hensured
  cases tree.ensureDirectories directory with
  | mk tree' fault? =>
    intro hensured
    cases fault? with
    | some fault => exact hensured
    | none => exact hensured.trans (steps_writeFiles (List.Subset.refl _) directory tree')

end Output

/-! ### Alterations -/

/-- A place where one of several files stands, below a directory: in it, unless the name of the file has several steps. -/
inductive Output.Writes (directory : Path) (files : Sources) (tree : Entry) (place : List String) : Prop
  | file (name text : String) (hmem : (name, text) ∈ files)
      (hlocate : tree.locate (directory.child name) = .ok (.found place))
      (hfile : tree.nodeAt? place = some (.file (Text.encode text)))
      (hinside : Path.IsStep name → ∃ here, tree.locate directory = .ok (.found here) ∧ place = here ++ [name])

/-- A place where a directory stands that is on the way to another, or is it. -/
inductive Output.Makes (directory : Path) (tree : Entry) (place : List String) : Prop
  | directory (parts : List String) (hway : parts <+: directory.parts)
      (hlocate : tree.locate ⟨directory.root, parts⟩ = .ok (.found place))
      (hdirectory : tree.nodeAt? place = some .directory)

/-- What becomes of a tree when files are written into a directory, which is made if it is missing. -/
structure Output.Alteration (directory : Path) (files : Sources) (tree tree' : Entry) : Prop where
  grows : tree.Grows tree'
  place : ∀ place, tree'.nodeAt? place = tree.nodeAt? place ∨ Writes directory files tree' place ∨
    tree.nodeAt? place = none ∧ Makes directory tree' place

namespace Output

theorem Writes.mono (h : Writes directory files tree place) (hgrows : tree.Grows tree')
    (hsame : tree'.nodeAt? place = tree.nodeAt? place) : Writes directory files tree' place := by
  obtain ⟨name, text, hmem, hlocate, hfile, hinside⟩ := h
  refine .file name text hmem (hgrows.locate_found hlocate) (hsame.trans hfile) fun hstep => ?_
  obtain ⟨here, hhere, hplace⟩ := hinside hstep
  exact ⟨here, hgrows.locate_found hhere, hplace⟩

theorem Makes.mono (h : Makes directory tree place) (hgrows : tree.Grows tree') : Makes directory tree' place := by
  obtain ⟨parts, hway, hlocate, hdirectory⟩ := h
  exact .directory parts hway (hgrows.locate_found hlocate) (hgrows.directory _ hdirectory)

namespace Alteration

theorem refl (directory : Path) (files : Sources) (tree : Entry) : Alteration directory files tree tree :=
  ⟨.refl tree, fun _ => .inl rfl⟩

theorem trans (h : Alteration directory files tree tree') (h' : Alteration directory files tree' tree'') :
    Alteration directory files tree tree'' := by
  refine ⟨h.grows.trans h'.grows, fun place => ?_⟩
  obtain hsame' | hwrites' | ⟨hfree', hmakes'⟩ := h'.place place
  · obtain hsame | hwrites | ⟨hfree, hmakes⟩ := h.place place
    · exact .inl (hsame'.trans hsame)
    · exact .inr (.inl (hwrites.mono h'.grows hsame'))
    · exact .inr (.inr ⟨hfree, hmakes.mono h'.grows⟩)
  · exact .inr (.inl hwrites')
  · refine .inr (.inr ⟨?_, hmakes'⟩)
    by_contra hthere
    have := h.grows.isSome place (Option.isSome_iff_ne_none.2 hthere)
    simp [hfree'] at this

end Alteration

/-- Making a directory changes its place only, which was free. -/
private theorem alteration_of_free {above : List String} (hway : parts <+: directory.parts)
    (hlocate : tree.locate ⟨directory.root, parts⟩ = .ok (.free above name)) :
    Alteration directory files tree (tree.put (above ++ [name]) .emptyDirectory) := by
  obtain ⟨hplace, hfree⟩ := hasPlace_of_free hlocate
  refine ⟨grows_put_emptyDirectory hplace hfree, fun place => ?_⟩
  rw [nodeAt?_put_emptyDirectory hplace hfree]
  split_ifs with heq
  · subst heq
    obtain ⟨hfound, hmade, -⟩ := found_emptyDirectory hlocate
    exact .inr (.inr ⟨hfree, .directory parts hway hfound hmade⟩)
  · exact .inl rfl

/-- Setting the file of a path changes its place only. -/
private theorem alteration_of_setsFile (hmem : (name, text) ∈ files)
    (h : tree.SetsFile (directory.child name) (Text.encode text) tree') : Alteration directory files tree tree' := by
  obtain ⟨hparts, hleads, hold, hlocate⟩ := h
  rename_i parts here last
  have hplace : tree.HasPlace (here ++ [last]) := .of_append hleads.directory last
  have hnode := nodeAt?_put_file hplace hold (Text.encode text)
  have hgrows := grows_put_file hplace hold (Text.encode text)
  refine ⟨hgrows, fun place => ?_⟩
  rw [hnode]
  split_ifs with heq
  · subst heq
    refine .inr (.inl (.file name text hmem hlocate (by rw [hnode, if_pos rfl]) fun hstep => ?_))
    rw [Path.child_of_isStep hstep] at hparts hlocate
    obtain ⟨rfl, rfl⟩ : directory.parts = parts ∧ name = last := by simpa using hparts
    obtain ⟨hnull, -⟩ := locate_eq_ok_iff.1 hlocate
    refine ⟨here, locate_eq_ok_iff.2 ⟨?_, (hgrows.leads hleads).located⟩, rfl⟩
    rw [Path.hasNull, List.any_append, Bool.or_eq_false_iff] at hnull
    exact hnull.1
  · exact .inl rfl

theorem Step.alteration (h : Step directory files tree tree') : Alteration directory files tree tree' := by
  cases h with
  | make hway hlocate => exact alteration_of_free hway hlocate
  | set hmem hset => exact alteration_of_setsFile hmem hset

theorem Steps.alteration (h : Steps directory files tree tree') : Alteration directory files tree tree' := by
  induction h with
  | refl => exact .refl directory files tree
  | tail _ hstep ih => exact ih.trans hstep.alteration

end Output

/-! ### Rounds -/

/-- A round that only compares leaves the tree as it is, and so does one that ends before it writes, whatever the
reason.  One that comes to write, however far it gets, changes nothing but the files that its plan names and the
missing directories on the way to the package directory.  A file whose name is a single step is in the package
directory; with the processors that are built in, all are. -/
theorem Round.frame (tree : Entry) (current : List String) (request : Request) :
    (Round.check tree current request).tree = tree ∧
      match (plan tree current request).result with
      | .error _ => (Round.generate tree current request).tree = tree
      | .ok p => (request.IsBuiltIn → ∀ file ∈ p.sources, Path.IsStep file.1) ∧ ∀ place,
          (Round.generate tree current request).tree.nodeAt? place = tree.nodeAt? place ∨
          Output.Writes p.settings.packageDirectory p.sources (Round.generate tree current request).tree place ∨
          tree.nodeAt? place = none ∧
            Output.Makes p.settings.packageDirectory (Round.generate tree current request).tree place := by
  rw [Round.check, Round.generate, Round.ofPlan, Round.ofPlan]
  cases hplan : (plan tree current request).result with
  | error fault => exact ⟨rfl, rfl⟩
  | ok p =>
    dsimp only
    refine ⟨?_, fun hbuiltIn file hfile => ?_, ?_⟩
    · rw [Round.compare]
      cases Output.diff tree p.settings.packageDirectory p.sources <;> rfl
    · exact (builtinFileNames_steps _ (map_fst_sources_subset hbuiltIn hplan (List.mem_map_of_mem hfile))).1
    · have halters := (Output.steps_write tree p.settings.packageDirectory p.sources).alteration
      rw [Round.write]
      cases (Output.write tree p.settings.packageDirectory p.sources).result
      · exact halters.place
      · exact halters.place

end NavFactory
