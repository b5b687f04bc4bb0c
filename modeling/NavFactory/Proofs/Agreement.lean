import NavFactory.Proofs.Updating

/-!
# Rounds that compare and rounds that write

Comparing files with a tree and writing them find the same files out of date, or fail both, as long as the directory
of the files is there (`Output.agree_writeFiles`), is free or cannot be reached.  They part only over a directory that
is missing and that stands, once the directories on the way to it are made, in a place that is blocked or already
holds files (`Output.Strays`, `Round.agree_check_generate_iff`).  A path without double dots whose names are not too long never
leads to such a place (`Output.not_strays`).
-/

namespace NavFactory

open Entry

variable {tree tree' : Entry} {place here parts : List String} {name text : String} {directory path p : Path}
  {contents : List UInt8} {files : Sources} {diffs : List (String × String)} {room : Nat}

namespace Output

/-! ### Differences -/

/-- Whether the text of a file is what it should be. -/
def isCurrent (tree : Entry) (directory : Path) (file : String × String) : Bool :=
  decide (currentText tree (directory.child file.1) = .ok (some file.2))

theorem isCurrent_iff {file : String × String} :
    isCurrent tree directory file ↔ currentText tree (directory.child file.1) = .ok (some file.2) :=
  decide_eq_true_iff

theorem diff_cons (tree : Entry) (directory : Path) (file : String × String) (rest : Sources) :
    diff tree directory (file :: rest) = (currentText tree (directory.child file.1)).bind fun current =>
      (diff tree directory rest).map fun more =>
        if isCurrent tree directory file then more
        else (file.1, Diff.unified file.1 (current.getD "") file.2) :: more := by
  change ((currentText tree (directory.child file.1)).bind fun current => (diff tree directory rest).bind fun more =>
    .ok (if current == some file.2 then more
      else (file.1, Diff.unified file.1 (current.getD "") file.2) :: more)) = _
  cases hcurrent : currentText tree (directory.child file.1) with
  | error f => rfl
  | ok current =>
    have hsame : (current == some file.2) = isCurrent tree directory file := by
      rw [Bool.eq_iff_iff, beq_iff_eq, isCurrent_iff, hcurrent, Except.ok.injEq]
    simp only [Except.bind, hsame]
    cases diff tree directory rest <;> rfl

theorem diff_congr (h : ∀ file ∈ files,
    currentText tree' (directory.child file.1) = currentText tree (directory.child file.1)) :
    diff tree' directory files = diff tree directory files := by
  induction files with
  | nil => rfl
  | cons file rest ih =>
    obtain ⟨hfile, hrest⟩ := List.forall_mem_cons.1 h
    rw [diff_cons, diff_cons, ih hrest, isCurrent, isCurrent, hfile]

/-- A comparison that ends well has read every file, and has told of those that are not as they should be. -/
theorem diff_ok (h : diff tree directory files = .ok diffs) :
    (∀ file ∈ files, ∃ current, currentText tree (directory.child file.1) = .ok current) ∧
      diffs.map (·.1) = (files.filter (!isCurrent tree directory ·)).map (·.1) := by
  induction files generalizing diffs with
  | nil =>
    cases h
    exact ⟨by simp, rfl⟩
  | cons file rest ih =>
    rw [diff_cons] at h
    cases hcurrent : currentText tree (directory.child file.1) with
    | error f =>
      rw [hcurrent] at h
      cases h
    | ok current =>
      cases hmore : diff tree directory rest with
      | error f =>
        rw [hcurrent, hmore] at h
        cases h
      | ok more =>
        obtain ⟨hread, hkeys⟩ := ih hmore
        refine ⟨List.forall_mem_cons.2 ⟨⟨current, hcurrent⟩, hread⟩, ?_⟩
        rw [hcurrent, hmore] at h
        simp only [Except.bind, Except.map, Except.ok.injEq] at h
        rw [← h, List.filter_cons]
        cases isCurrent tree directory file <;> simp [hkeys]

/-- A comparison that fails has come to a file that cannot be read. -/
theorem exists_error_of_diff {f : OutputFault} (h : diff tree directory files = .error f) :
    ∃ file ∈ files, currentText tree (directory.child file.1) = .error f := by
  induction files with
  | nil => cases h
  | cons file rest ih =>
    rw [diff_cons] at h
    cases hcurrent : currentText tree (directory.child file.1) with
    | error f' =>
      rw [hcurrent] at h
      cases h
      exact ⟨file, List.mem_cons_self, hcurrent⟩
    | ok current =>
      cases hmore : diff tree directory rest with
      | error f' =>
        rw [hcurrent, hmore] at h
        cases h
        obtain ⟨file', hmem, herror⟩ := ih hmore
        exact ⟨file', List.mem_cons_of_mem _ hmem, herror⟩
      | ok more =>
        rw [hcurrent, hmore] at h
        cases h

/-! ### Directories that are there -/

/-- Whether comparing files and writing them come to the same: both fail, or the files that differ are those that
were written. -/
def Agree (directory : Path) :
    Except OutputFault (List (String × String)) → Except OutputFault (List WrittenFile) → Prop
  | .ok diffs, .ok files => diffs.map (directory.child ·.1) = (files.filter (·.changed)).map (·.path)
  | .error _, .error _ => True
  | _, _ => False

theorem Agree.cons {diffs : Except OutputFault (List (String × String))}
    {written : Except OutputFault (List WrittenFile)} (h : Agree directory diffs written) (current : Bool)
    (name difference : String) :
    Agree directory (diffs.map fun more => if current then more else (name, difference) :: more)
      (written.map (⟨directory.child name, !current⟩ :: ·)) := by
  cases diffs <;> cases written <;> cases current <;> simp_all [Agree, Except.map]

private theorem result_behind_ok (tree : Entry) (path : Path) (changed : Bool) (next : Entry → Outcome) :
    (behind tree path (.ok (tree', changed)) next).result = (next tree').result.map (⟨path, changed⟩ :: ·) := rfl

/-- Files of a directory that is there are written exactly if they differ. -/
theorem agree_writeFiles (hready : Ready tree directory here files.length)
    (hnames : ∀ file ∈ files, IsFileName file.1) (hnd : (files.map (·.1)).Nodup) :
    Agree directory (diff tree directory files) (writeFiles directory tree files).result := by
  induction files generalizing tree with
  | nil =>
    rw [writeFiles]
    rfl
  | cons file rest ih =>
    obtain ⟨name, text⟩ := file
    obtain ⟨hname, hnames⟩ := List.forall_mem_cons.1 hnames
    obtain ⟨hfresh, hnd⟩ := List.nodup_cons.1 hnd
    have hupdate := hready.updateFile hname text
    rw [writeFiles, diff_cons]
    cases hcurrent : currentText tree (directory.child name) with
    | error f =>
      rw [hcurrent] at hupdate
      rw [show updateFile tree (directory.child name) text = .error f from hupdate]
      trivial
    | ok current =>
      rw [hcurrent] at hupdate
      dsimp only at hupdate
      split_ifs at hupdate with hsame
      · have hcur : isCurrent tree directory (name, text) := isCurrent_iff.2 (hsame ▸ hcurrent)
        rw [hupdate, hcur, result_behind_ok]
        exact (ih hready.fewer hnames hnd).cons true name _
      · obtain ⟨hold, hupdate⟩ := hupdate
        have hcur : isCurrent tree directory (name, text) = false := by
          rw [Bool.eq_false_iff, ne_eq, isCurrent_iff, hcurrent]
          simpa using hsame
        have hready' := hready.put name hold (Text.encode text)
        have hkept : ∀ file ∈ rest, currentText (tree.put (here ++ [name]) (.file (Text.encode text)))
            (directory.child file.1) = currentText tree (directory.child file.1) := by
          intro file hfile
          have hne : file.1 ≠ name := fun heq => hfresh (List.mem_map.2 ⟨file, hfile, heq⟩)
          exact hready.fewer.currentText_put (hnames file hfile) hne hold hready'
        rw [hupdate, hcur, result_behind_ok, ← diff_congr hkept]
        exact (ih hready' hnames hnd).cons false name _

/-! ### Directories that are made -/

/-- Making a directory goes up until there is one, and then down again. -/
private theorem ensureDirectories_eq (hparts : directory.parts = parts ++ [name]) :
    tree.ensureDirectories directory = match tree.makeDirectory directory with
      | .ok tree => (tree, none)
      | .error fault =>
        if fault.problem == .missing then
          match tree.ensureDirectories ⟨directory.root, parts⟩ with
          | (tree, some fault) => (tree, some fault)
          | (tree, none) => match tree.makeDirectory directory with
            | .ok tree => (tree, none)
            | .error fault => (tree, if fault.problem == .missing then some fault else tree.remainingFault fault)
        else (tree, tree.remainingFault fault) := by
  have hpath : (⟨directory.root, (name :: parts.reverse).reverse⟩ : Path) = directory := by
    rw [List.reverse_cons, List.reverse_reverse, ← hparts]
  rw [ensureDirectories, hparts, List.reverse_append, List.reverse_singleton, List.singleton_append,
    ensureDirectoriesFrom, hpath]
  rfl

private theorem makeDirectory_eq (tree : Entry) (directory : Path) :
    tree.makeDirectory directory = match tree.locate directory with
      | .error fault => .error fault
      | .ok (.found _) => .error ⟨.occupied, directory⟩
      | .ok (.free above name) => .ok (tree.put (above ++ [name]) .emptyDirectory) := by
  rw [makeDirectory]
  cases tree.locate directory with
  | error fault => rfl
  | ok found => cases found <;> rfl

/-- A path that leads to something is not made; nothing is wrong with it if that is a directory. -/
theorem ensureDirectories_of_found (h : tree.locate directory = .ok (.found here)) :
    tree.ensureDirectories directory =
      (tree, if tree.nodeAt? here = some .directory then none else some ⟨.occupied, directory⟩) := by
  have hremaining : tree.remainingFault ⟨.occupied, directory⟩ =
      if tree.nodeAt? here = some .directory then none else some ⟨.occupied, directory⟩ := by
    rw [remainingFault, if_neg (show ¬(FileProblem.occupied == .nullCharacter) = true by decide), hasDirectory_of_found h]
    by_cases hdirectory : tree.nodeAt? here = some .directory <;> simp [hdirectory]
  obtain hparts | ⟨init, last, hparts⟩ := List.eq_nil_or_concat' directory.parts
  · obtain ⟨root, parts⟩ := directory
    obtain rfl : parts = [] := hparts
    rw [← hremaining]
    rfl
  · rw [ensureDirectories_eq hparts, makeDirectory_eq, h]
    exact congrArg (Prod.mk tree) hremaining

theorem ensureDirectories_of_free {above : List String} (h : tree.locate directory = .ok (.free above name)) :
    tree.ensureDirectories directory = (tree.put (above ++ [name]) .emptyDirectory, none) := by
  obtain ⟨hparts, -⟩ := free_of_locateFrom (locate_eq_ok_iff.1 h).2
  rw [ensureDirectories_eq hparts, makeDirectory_eq, h]

theorem remainingFault_of_error {fault : FileFault} (h : tree.locate directory = .error fault) :
    tree.remainingFault fault = some fault := by
  rw [remainingFault, hasDirectory, holds, path_of_locate_error h, find, h]
  simp only [bind, Except.bind]
  split_ifs <;> rfl

/-- A path that cannot be followed is not made, unless it is only that something is missing. -/
theorem ensureDirectories_of_error {fault : FileFault} (h : tree.locate directory = .error fault)
    (hproblem : fault.problem ≠ .missing) : tree.ensureDirectories directory = (tree, some fault) := by
  obtain hparts | ⟨init, last, hparts⟩ := List.eq_nil_or_concat' directory.parts
  · rw [locate_of_nil tree hparts] at h
    cases h
  · rw [ensureDirectories_eq hparts, makeDirectory_eq, h]
    simp only [beq_iff_eq, hproblem, if_false, remainingFault_of_error h]

private theorem found_of_makeDirectory (h : tree.makeDirectory directory = .ok tree') :
    ∃ here, tree'.locate directory = .ok (.found here) ∧ tree'.nodeAt? here = some .directory := by
  rw [makeDirectory_eq] at h
  cases hlocate : tree.locate directory with
  | error fault =>
    rw [hlocate] at h
    cases h
  | ok found =>
    rw [hlocate] at h
    cases found with
    | found here => cases h
    | free above name =>
      cases h
      obtain ⟨hfound, hmade, -⟩ := found_emptyDirectory hlocate
      exact ⟨_, hfound, hmade⟩

private theorem found_of_remainingFault {fault : FileFault} (hmade : tree.makeDirectory directory = .error fault)
    (h : tree.remainingFault fault = none) :
    ∃ here, tree.locate directory = .ok (.found here) ∧ tree.nodeAt? here = some .directory := by
  have hpath : fault.path = directory := by
    rw [makeDirectory_eq] at hmade
    cases hlocate : tree.locate directory with
    | error fault' =>
      rw [hlocate] at hmade
      cases hmade
      exact path_of_locate_error hlocate
    | ok found =>
      rw [hlocate] at hmade
      cases found <;> cases hmade
      rfl
  rw [remainingFault, hpath] at h
  split_ifs at h
  cases hd : tree.hasDirectory directory with
  | error other =>
    rw [hd] at h
    cases h
  | ok there =>
    rw [hd] at h
    cases there with
    | false => cases h
    | true => exact found_of_hasDirectory hd

/-- A directory that has been made is there. -/
theorem found_of_ensureDirectories (h : tree.ensureDirectories directory = (tree', none)) :
    ∃ here, tree'.locate directory = .ok (.found here) ∧ tree'.nodeAt? here = some .directory := by
  obtain hparts | ⟨init, last, hparts⟩ := List.eq_nil_or_concat' directory.parts
  · have hlocate := locate_of_nil tree hparts
    rw [ensureDirectories_of_found hlocate] at h
    split_ifs at h with hdirectory
    · cases h
      exact ⟨[], hlocate, hdirectory⟩
    · cases h
  · rw [ensureDirectories_eq hparts] at h
    cases hmade : tree.makeDirectory directory with
    | ok made =>
      rw [hmade] at h
      cases h
      exact found_of_makeDirectory hmade
    | error fault =>
      rw [hmade] at h
      dsimp only at h
      split_ifs at h
      · cases hensured : tree.ensureDirectories ⟨directory.root, init⟩ with
        | mk above fault? =>
          rw [hensured] at h
          cases fault? with
          | some fault => cases h
          | none =>
            dsimp only at h
            cases hmade' : above.makeDirectory directory with
            | ok made =>
              rw [hmade'] at h
              cases h
              exact found_of_makeDirectory hmade'
            | error fault =>
              rw [hmade'] at h
              dsimp only at h
              split_ifs at h
              · cases h
              · obtain ⟨rfl, hremaining⟩ := Prod.mk.inj h
                exact found_of_remainingFault hmade' hremaining
      · obtain ⟨rfl, hremaining⟩ := Prod.mk.inj h
        exact found_of_remainingFault hmade hremaining

/-! ### Files of a directory that is not there -/

private theorem currentText_of_error {fault : FileFault} (h : tree.locate p = .error fault) :
    if fault.problem = .missing then currentText tree p = .ok none else ∃ f, currentText tree p = .error f := by
  have hbytes : tree.readBytes p = .error fault := by rw [readBytes_eq, h]
  rw [currentText, readText, hbytes]
  dsimp only
  simp only [beq_iff_eq]
  split_ifs with hmissing hnull
  · rfl
  · exact ⟨_, rfl⟩
  · exact ⟨_, rfl⟩

private theorem hasNull_child (hname : IsFileName name) (directory : Path) :
    (⟨directory.root, directory.parts ++ [name]⟩ : Path).hasNull = directory.hasNull := by
  have hlast : name.toList.contains '\x00' = false := by simpa using hname.null
  rw [Path.hasNull, Path.hasNull, List.any_append, List.any_cons, hlast]
  simp

private theorem locate_child_of_error {fault : FileFault} (hname : IsFileName name)
    (h : tree.locate directory = .error fault) :
    tree.locate (directory.child name) = .error ⟨fault.problem, directory.child name⟩ := by
  rw [Path.child_of_isStep hname.step]
  rw [locate] at h ⊢
  rw [hasNull_child hname]
  split_ifs at h with hnull
  · cases h
    rw [if_pos hnull]
  · rw [if_neg hnull, locateFrom_append (List.cons_ne_nil _ _)]
    cases hfrom : tree.locateFrom [] directory.parts with
    | ok found =>
      rw [hfrom] at h
      cases h
    | error problem =>
      rw [hfrom] at h
      cases h
      rfl

private theorem locate_child_of_found (hname : IsFileName name) (h : tree.locate directory = .ok (.found here))
    (hfile : tree.nodeAt? here ≠ some .directory) :
    tree.locate (directory.child name) = .error ⟨.notDirectory, directory.child name⟩ := by
  obtain ⟨hnull, hfrom⟩ := locate_eq_ok_iff.1 h
  obtain ⟨d, hd⟩ := Option.isSome_iff_exists.1 (isSome_of_found hfrom)
  rw [Path.child_of_isStep hname.step, locate, hasNull_child hname, hnull, locateFrom_append (List.cons_ne_nil _ _),
    hfrom]
  cases d with
  | directory => exact absurd hd hfile
  | file contents =>
    have hbelow : tree.locateFrom here [name] = .error .notDirectory := by
      rw [locateFrom, nodeAt?_eq_file_iff.1 hd]
    simp only [hbelow]
    rfl

private theorem locate_child_of_free {above : List String} {last : String} (hname : IsFileName name)
    (h : tree.locate directory = .ok (.free above last)) :
    tree.locate (directory.child name) = .error ⟨.missing, directory.child name⟩ := by
  obtain ⟨hnull, hfrom⟩ := locate_eq_ok_iff.1 h
  rw [Path.child_of_isStep hname.step, locate, hasNull_child hname, hnull, locateFrom_append (List.cons_ne_nil _ _),
    hfrom]
  rfl

/-- Files of which none is there are all told of. -/
private theorem diff_of_absent (h : ∀ file ∈ files, currentText tree (directory.child file.1) = .ok none) :
    ∃ diffs, diff tree directory files = .ok diffs ∧ diffs.map (·.1) = files.map (·.1) := by
  cases hdiff : diff tree directory files with
  | error f =>
    obtain ⟨file, hfile, hf⟩ := exists_error_of_diff hdiff
    rw [h file hfile] at hf
    cases hf
  | ok diffs =>
    refine ⟨diffs, rfl, ?_⟩
    rw [(diff_ok hdiff).2, List.filter_eq_self.2]
    intro file hfile
    rw [Bool.not_eq_true', Bool.eq_false_iff, ne_eq, isCurrent_iff, h file hfile]
    simp

/-- Files of a directory that cannot be reached cannot be compared. -/
private theorem diff_of_error (hne : files ≠ [])
    (h : ∀ file ∈ files, ∃ f, currentText tree (directory.child file.1) = .error f) :
    ∃ f, diff tree directory files = .error f := by
  obtain ⟨file, rest, rfl⟩ := List.exists_cons_of_ne_nil hne
  obtain ⟨f, hf⟩ := h file List.mem_cons_self
  exact ⟨f, by rw [diff_cons, hf]; rfl⟩

/-! ### Agreement -/

/-- A directory that is missing and that stands, once the directories on the way to it are made, in a place that is
blocked or that holds a file of those to be written which is as it should be or cannot be read. -/
def Strays (tree : Entry) (directory : Path) (files : Sources) : Prop :=
  (∃ fault, tree.locate directory = .error fault ∧ fault.problem = .missing) ∧
    match tree.ensureDirectories directory with
    | (_, some _) => True
    | (made, none) => ∃ file ∈ files,
        isCurrent made directory file ∨ ∃ fault, currentText made (directory.child file.1) = .error fault

/-- Whether a directory, once it is made, has room for as many files and their temporary names. -/
def HasRoom (tree : Entry) (directory : Path) (files : Sources) : Prop :=
  (tree.ensureDirectories directory).1.entryCount directory + files.length ≤ 10 ^ 8

/-- A directory that has been made is ready if it has room. -/
theorem ready_of_ensureDirectories (hroom : HasRoom tree directory files)
    (h : tree.ensureDirectories directory = (tree', none)) : ∃ here, Ready tree' directory here files.length := by
  obtain ⟨here, hlocate, hdirectory⟩ := found_of_ensureDirectories h
  obtain ⟨hnull, hfrom⟩ := locate_eq_ok_iff.1 hlocate
  refine ⟨here, hasNull_eq_false_iff.1 hnull, ⟨hfrom, hdirectory⟩, ?_⟩
  obtain ⟨entries, hentries⟩ := nodeAt?_eq_directory_iff.1 hdirectory
  rw [HasRoom, h, entryCount, find, hlocate] at hroom
  simp only [bind, Except.bind, hentries] at hroom
  rw [countAt, hentries]
  exact hroom

/-- A free name of a directory has no text. -/
theorem IsFileName.currentText_free (hname : IsFileName name) (hleads : tree.Leads directory.parts here)
    (hnull : ∀ part ∈ directory.parts, '\x00' ∉ part.toList) (hfree : tree.nodeAt? (here ++ [name]) = none) :
    currentText tree (directory.child name) = .ok none := by
  have hbytes : tree.readBytes (directory.child name) = .error ⟨.missing, directory.child name⟩ := by
    rw [readBytes_eq, hname.locate hleads hnull, hfree]
    rfl
  rw [currentText, readText, hbytes]
  rfl

/-- Where a directory has been made, all its files are written exactly if none was there. -/
private theorem agree_of_made (hready : Ready tree' directory here files.length)
    (hnames : ∀ file ∈ files, IsFileName file.1) (hnd : (files.map (·.1)).Nodup)
    (hkeys : diffs.map (·.1) = files.map (·.1)) :
    Agree directory (.ok diffs) (writeFiles directory tree' files).result ↔
      ¬∃ file ∈ files, isCurrent tree' directory file ∨
        ∃ fault, currentText tree' (directory.child file.1) = .error fault := by
  have hagree := agree_writeFiles hready hnames hnd
  cases hdiff : diff tree' directory files with
  | error f =>
    obtain ⟨file, hfile, hf⟩ := exists_error_of_diff hdiff
    rw [hdiff] at hagree
    rw [iff_false_right (not_not_intro ⟨file, hfile, .inr ⟨f, hf⟩⟩)]
    cases hwritten : (writeFiles directory tree' files).result with
    | error f => exact id
    | ok written =>
      rw [hwritten] at hagree
      exact hagree.elim
  | ok diffs' =>
    obtain ⟨hread, hkeys'⟩ := diff_ok hdiff
    rw [hdiff] at hagree
    cases hwritten : (writeFiles directory tree' files).result with
    | error f =>
      rw [hwritten] at hagree
      exact hagree.elim
    | ok written =>
      rw [hwritten] at hagree
      have hpaths : ∀ d : List (String × String), d.map (directory.child ·.1) = (d.map (·.1)).map directory.child :=
        fun d => by rw [List.map_map]; rfl
      rw [Agree] at hagree ⊢
      rw [← hagree, hpaths, hpaths, hkeys, hkeys', ← hpaths, ← hpaths]
      constructor
      · rintro heq ⟨file, hfile, hcurrent | ⟨fault, hfault⟩⟩
        · have hlength := congrArg List.length heq
          rw [List.length_map, List.length_map] at hlength
          have hall := List.filter_eq_self.1 (List.Sublist.eq_of_length List.filter_sublist hlength.symm)
          have := hall file hfile
          rw [hcurrent] at this
          cases this
        · obtain ⟨current, hcurrent⟩ := hread file hfile
          rw [hfault] at hcurrent
          cases hcurrent
      · intro hnone
        rw [List.filter_eq_self.2 fun file hfile => ?_]
        rw [Bool.not_eq_true', Bool.eq_false_iff]
        exact fun hcurrent => hnone ⟨file, hfile, .inl hcurrent⟩

/-- Comparing files and writing them agree exactly if their directory does not stray. -/
theorem agree_iff (hne : files ≠ []) (hnames : ∀ file ∈ files, IsFileName file.1) (hnd : (files.map (·.1)).Nodup)
    (hroom : HasRoom tree directory files) :
    Agree directory (diff tree directory files) (write tree directory files).result ↔ ¬Strays tree directory files := by
  cases hlocate : tree.locate directory with
  | ok found =>
    have hstrays : ¬Strays tree directory files := by
      rintro ⟨⟨fault, hfault, -⟩, -⟩
      rw [hlocate] at hfault
      cases hfault
    rw [iff_true_right hstrays]
    cases found with
    | found here =>
      -- the directory is there, and both go on to its files
      have hensured := ensureDirectories_of_found hlocate
      by_cases hdirectory : tree.nodeAt? here = some .directory
      · rw [if_pos hdirectory] at hensured
        obtain ⟨here, hready⟩ := ready_of_ensureDirectories hroom hensured
        rw [write, hensured]
        exact agree_writeFiles hready hnames hnd
      · rw [if_neg hdirectory] at hensured
        obtain ⟨f, hf⟩ := diff_of_error hne fun file hfile => by
          simpa using currentText_of_error (locate_child_of_found (hnames file hfile) hlocate hdirectory)
        rw [write, hensured, hf]
        trivial
    | free above name =>
      -- the directory is made, and nothing stands in it yet
      have hensured := ensureDirectories_of_free hlocate
      obtain ⟨hfound, -, hempty⟩ := found_emptyDirectory hlocate
      obtain ⟨here, hready⟩ := ready_of_ensureDirectories hroom hensured
      have hhere : here = above ++ [name] := by
        have := (locate_eq_ok_iff.1 hfound).2.symm.trans hready.leads.located
        cases this
        rfl
      have habsent : ∀ file ∈ files, currentText (tree.put (above ++ [name]) .emptyDirectory)
          (directory.child file.1) = .ok none :=
        fun file hfile => (hnames file hfile).currentText_free hready.leads hready.null (by rw [hhere]; exact hempty file.1)
      obtain ⟨diffs, hdiff, hkeys⟩ := diff_of_absent fun file hfile =>
        by simpa using currentText_of_error (locate_child_of_free (hnames file hfile) hlocate)
      rw [write, hensured, hdiff]
      refine (agree_of_made hready hnames hnd hkeys).2 ?_
      rintro ⟨file, hfile, hcurrent | ⟨fault, hfault⟩⟩
      · rw [isCurrent_iff, habsent file hfile] at hcurrent
        cases hcurrent
      · rw [habsent file hfile] at hfault
        cases hfault
  | error fault =>
    by_cases hproblem : fault.problem = .missing
    · -- something is missing on the way: the comparison sees no files, and the writing tries to make the directories
      obtain ⟨diffs, hdiff, hkeys⟩ := diff_of_absent fun file hfile => by
        simpa [hproblem] using currentText_of_error (locate_child_of_error (hnames file hfile) hlocate)
      rw [hdiff, Strays, and_iff_right ⟨fault, hlocate, hproblem⟩, write]
      cases hensured : tree.ensureDirectories directory with
      | mk made fault? =>
        cases fault? with
        | some fault => exact iff_of_false id (not_not_intro trivial)
        | none =>
          obtain ⟨here, hready⟩ := ready_of_ensureDirectories hroom hensured
          exact agree_of_made hready hnames hnd hkeys
    · obtain ⟨f, hf⟩ := diff_of_error hne fun file hfile => by
        simpa [hproblem] using currentText_of_error (locate_child_of_error (hnames file hfile) hlocate)
      rw [write, ensureDirectories_of_error hlocate hproblem, hf]
      refine iff_of_true trivial ?_
      rintro ⟨⟨fault', hfault', hproblem'⟩, -⟩
      rw [hlocate] at hfault'
      cases hfault'
      exact hproblem hproblem'

/-! ### Paths that do not stray -/

private theorem missing_of_locate_error {fault : FileFault} (h : tree.locate p = .error fault)
    (hmissing : fault.problem = .missing) : p.hasNull = false ∧ tree.locateFrom [] p.parts = .error .missing := by
  rw [locate] at h
  split_ifs at h with hnull
  · cases h
    cases hmissing
  · refine ⟨Bool.eq_false_iff.2 hnull, ?_⟩
    cases hfrom : tree.locateFrom [] p.parts with
    | ok place =>
      rw [hfrom] at h
      cases h
    | error problem =>
      rw [hfrom] at h
      cases h
      rw [show problem = .missing from hmissing]

/-- A directory that is missing or free is made empty if its path has no double dots, unless a name in it is too long. -/
private theorem made_of_plain {root : String} (hup : ".." ∉ parts) (hnull : ∀ part ∈ parts, '\x00' ∉ part.toList)
    (hfrom : tree.locateFrom [] parts = .error .missing ∨
      ∃ above name, tree.locateFrom [] parts = .ok (.free above name)) :
    (∃ made here, tree.ensureDirectories ⟨root, parts⟩ = (made, none) ∧ made.Leads parts here ∧
        ∀ name, made.nodeAt? (here ++ [name]) = none) ∨
      ∃ made fault, tree.ensureDirectories ⟨root, parts⟩ = (made, some fault) ∧ fault.problem = .nameTooLong ∧
        ∃ part ∈ parts, maxNameLength < part.utf8ByteSize := by
  induction parts using List.reverseRecOn with
  | nil => obtain hfrom | ⟨above, name, hfrom⟩ := hfrom <;> cases hfrom
  | append_singleton init last ih =>
    have hpath : (⟨root, init ++ [last]⟩ : Path).hasNull = false := hasNull_eq_false_iff.2 hnull
    rw [List.mem_append, not_or, List.mem_singleton] at hup
    rw [List.forall_mem_append] at hnull
    rw [ensureDirectories_eq rfl]
    obtain hmissing | ⟨above, name, hfree⟩ := hfrom
    · -- What is missing is missing further up, or the directory above is free.
      have habove : tree.locateFrom [] init = .error .missing ∨
          ∃ above name, tree.locateFrom [] init = .ok (.free above name) := by
        rw [locateFrom_append (List.cons_ne_nil _ _)] at hmissing
        cases hinit : tree.locateFrom [] init with
        | error problem =>
          rw [hinit] at hmissing
          exact .inl hmissing
        | ok place =>
          cases place with
          | free above name => exact .inr ⟨above, name, rfl⟩
          | found next =>
            -- In a directory a name is not missing but free, or it is too long; in a file nothing is looked up.
            rw [hinit] at hmissing
            simp only at hmissing
            obtain ⟨d, hd⟩ := Option.isSome_iff_exists.1 (isSome_of_found hinit)
            cases d with
            | directory =>
              rw [locateFrom_singleton hd, step, if_neg (Ne.symm hup.2)] at hmissing
              split_ifs at hmissing
              cases hmissing
            | file contents =>
              rw [locateFrom, nodeAt?_eq_file_iff.1 hd] at hmissing
              cases hmissing
      have herror : tree.locate ⟨root, init ++ [last]⟩ = .error ⟨.missing, ⟨root, init ++ [last]⟩⟩ := by
        rw [locate, hpath, hmissing]
        rfl
      rw [makeDirectory_eq, herror]
      obtain ⟨made, here, hensured, hleads, hempty⟩ | ⟨made, fault, hensured, hlong, part, hpart, hsize⟩ :=
        ih hup.1 hnull.1 habove
      · rw [hensured]
        by_cases hfit : last.utf8ByteSize ≤ maxNameLength
        · have hfree : made.locate ⟨root, init ++ [last]⟩ = .ok (.free here last) := by
            refine locate_eq_ok_iff.2 ⟨hpath, ?_⟩
            rw [hleads.concat, step_eq_free_iff]
            exact ⟨⟨rfl, rfl⟩, Ne.symm hup.2, hfit, hempty last⟩
          obtain ⟨hfound, hdirectory, hempty'⟩ := found_emptyDirectory hfree
          refine .inl ⟨_, _, ?_, ⟨(locate_eq_ok_iff.1 hfound).2, hdirectory⟩, hempty'⟩
          simp only [makeDirectory_eq made, hfree]
          rfl
        · have hlong : made.locate ⟨root, init ++ [last]⟩ = .error ⟨.nameTooLong, ⟨root, init ++ [last]⟩⟩ := by
            rw [locate, hpath, hleads.concat, Entry.step, if_neg (Ne.symm hup.2), if_pos (Nat.not_le.1 hfit)]
            rfl
          refine .inr ⟨made, ⟨.nameTooLong, ⟨root, init ++ [last]⟩⟩, ?_, rfl, last, by simp, Nat.not_le.1 hfit⟩
          simp only [makeDirectory_eq made, hlong, remainingFault_of_error hlong]
          rfl
      · refine .inr ⟨made, fault, ?_, hlong, part, List.mem_append_left _ hpart, hsize⟩
        rw [hensured]
        rfl
    · have hlocate : tree.locate ⟨root, init ++ [last]⟩ = .ok (.free above name) := locate_eq_ok_iff.2 ⟨hpath, hfree⟩
      obtain ⟨hfound, hdirectory, hempty⟩ := found_emptyDirectory hlocate
      refine .inl ⟨_, _, ?_, ⟨(locate_eq_ok_iff.1 hfound).2, hdirectory⟩, hempty⟩
      rw [makeDirectory_eq, hlocate]

/-- Where a directory whose path has no double dots cannot be made, nothing is made, unless a name in it is too long. -/
theorem unmade_of_plain {fault : FileFault} (hup : ".." ∉ directory.parts) (hfits : fault.problem ≠ .nameTooLong)
    (h : tree.ensureDirectories directory = (tree', some fault)) : tree' = tree := by
  cases hlocate : tree.locate directory with
  | ok found =>
    cases found with
    | found here =>
      rw [ensureDirectories_of_found hlocate] at h
      exact (Prod.mk.inj h).1.symm
    | free above name =>
      rw [ensureDirectories_of_free hlocate] at h
      cases h
  | error problem =>
    by_cases hmissing : problem.problem = .missing
    · obtain ⟨hnull, hfrom⟩ := missing_of_locate_error hlocate hmissing
      obtain ⟨made, here, hensured, -⟩ | ⟨made, fault', hensured, hlong, -⟩ :=
        made_of_plain hup (hasNull_eq_false_iff.1 hnull) (.inl hfrom)
      · cases h.symm.trans hensured
      · cases h.symm.trans hensured
        exact absurd hlong hfits
    · rw [ensureDirectories_of_error hlocate hmissing] at h
      exact (Prod.mk.inj h).1.symm

/-- A directory does not stray if its path has no double dots and no name that is too long. -/
theorem not_strays (hup : ".." ∉ directory.parts)
    (hfits : ∀ part ∈ directory.parts, part.utf8ByteSize ≤ maxNameLength)
    (hnames : ∀ file ∈ files, IsFileName file.1) : ¬Strays tree directory files := by
  rintro ⟨⟨fault, hlocate, hmissing⟩, hstrays⟩
  obtain ⟨hnull, hfrom⟩ := missing_of_locate_error hlocate hmissing
  have hnull := hasNull_eq_false_iff.1 hnull
  have hmade : ∃ made here, tree.ensureDirectories directory = (made, none) ∧ made.Leads directory.parts here ∧
      ∀ name, made.nodeAt? (here ++ [name]) = none := by
    refine (made_of_plain hup hnull (.inl hfrom)).resolve_right ?_
    rintro ⟨-, -, -, -, part, hpart, hsize⟩
    exact absurd (hfits part hpart) (Nat.not_le.2 hsize)
  obtain ⟨made, here, hensured, hleads, hempty⟩ := hmade
  rw [hensured] at hstrays
  obtain ⟨file, hfile, hstrays⟩ := hstrays
  have habsent := (hnames file hfile).currentText_free hleads hnull (hempty file.1)
  obtain hcurrent | ⟨fault, hfault⟩ := hstrays
  · rw [isCurrent_iff, habsent] at hcurrent
    cases hcurrent
  · rw [habsent] at hfault
    cases hfault

end Output

/-! ### Rounds -/

namespace Round

/-- Whether a round that compares and one that writes agree: both fail, or the files that the one finds to differ are
those that the other has written, with the same texts and diagnostics. -/
def Agree (compared written : Round) : Prop :=
  match compared.result, written.result with
  | .ok c, .ok w => c.sources = w.sources ∧ c.diagnostics = w.diagnostics ∧
      c.diffs.map (w.packageDirectory.child ·.1) = w.changed ∧ (c.stale ↔ w.changed ≠ [])
  | .error _, .error _ => True
  | _, _ => False

private theorem diagnosticsOf_logged (events : List Event) (records : List LogRecord) :
    diagnosticsOf (events ++ records.map .logged) = diagnosticsOf events := by
  have hnone : records.filterMap (Event.diagnostic? ∘ .logged) = [] := List.filterMap_eq_nil_iff.2 fun _ _ => rfl
  rw [diagnosticsOf, List.filterMap_append, List.filterMap_map, hnone, List.append_nil, diagnosticsOf]

/-- A round adds nothing to what becomes of its files. -/
private theorem agree_carryOut (tree : Entry) (events : List Event) (p : Plan) :
    Agree (compare tree events p) (write tree events p) ↔
      Output.Agree p.settings.packageDirectory (Output.diff tree p.settings.packageDirectory p.sources)
        (Output.write tree p.settings.packageDirectory p.sources).result := by
  rw [compare, write]
  cases Output.diff tree p.settings.packageDirectory p.sources with
  | error fault => cases (Output.write tree p.settings.packageDirectory p.sources).result <;> rfl
  | ok diffs =>
    cases (Output.write tree p.settings.packageDirectory p.sources).result with
    | error fault => rfl
    | ok files =>
      simp only [Agree, Output.Agree, finish, diagnosticsOf_logged, true_and, RoundOutcome.changed,
        RoundOutcome.stale, Bool.not_eq_true', List.isEmpty_eq_false_iff]
      constructor
      · exact And.left
      · exact fun h => ⟨h, by rw [← h, ne_eq, ne_eq, List.map_eq_nil_iff]⟩

theorem isFileName_of_mem_builtinFileNames (h : name ∈ builtinFileNames) : Output.IsFileName name := by
  obtain ⟨hstep, hup, hfits, hnull⟩ := builtinFileNames_steps _ h
  exact ⟨hstep, hup, by rw [maxNameLength]; omega, hnull⟩

/-- With the processors that are built in, the files of a plan have names that files can have. -/
theorem isFileName_of_mem_sources {tree : Entry} {current : List String} {request : Request} {p : Plan}
    (hbuiltIn : request.IsBuiltIn) (hplan : (plan tree current request).result = .ok p) :
    ∀ file ∈ p.sources, Output.IsFileName file.1 := fun _ hfile =>
  isFileName_of_mem_builtinFileNames (map_fst_sources_subset hbuiltIn hplan (List.mem_map_of_mem hfile))

/-- With the processors that are built in, a round that compares agrees with one that writes exactly if the package
directory of their plan does not stray. -/
theorem agree_check_generate_iff (tree : Entry) (current : List String) (request : Request) (hbuiltIn : request.IsBuiltIn)
    (hroom : ∀ p, (plan tree current request).result = .ok p →
      Output.HasRoom tree p.settings.packageDirectory p.sources) :
    Agree (check tree current request) (generate tree current request) ↔
      ∀ p, (plan tree current request).result = .ok p →
        ¬Output.Strays tree p.settings.packageDirectory p.sources := by
  rw [check, generate, ofPlan, ofPlan]
  cases hplan : (plan tree current request).result with
  | error fault => exact iff_of_true trivial fun p hp => by cases hp
  | ok p =>
    obtain ⟨root, declarations, -, -, -, -, hsources⟩ := plan_ok_iff.1 hplan
    obtain ⟨hmap, hnd⟩ := renderSources_ok hsources
    have hne : p.sources ≠ [] := by
      rintro hnil
      rw [hnil] at hmap
      simp at hmap
    have hiff := Output.agree_iff hne (isFileName_of_mem_sources hbuiltIn hplan) hnd (hroom p hplan)
    rw [agree_carryOut, hiff]
    constructor
    · rintro hstrays p' ⟨⟩
      exact hstrays
    · exact fun h => h p rfl

/-- A project without sources whose package goes into a given directory, with a package that is up to date below
`generated`. -/
def packageProject (directory : String) : Entry :=
  .directory [("p", .directory [
    (settingsFileName, .file (Text.encode ("output:\n  directory: " ++ directory ++ "\n"))),
    (defaultDirectory, .directory [(defaultPackage, .directory [
      (packageFileName, .file (Text.encode (((renderPackage {} []).toOption).getD "")))])])])]

/-- A request to look after that project with given processors. -/
def packageRequest (processors : List Processor) : Request where
  path := "/p"
  processors := some processors

theorem agree_check_generate_package :
    (packageRequest []).IsBuiltIn ∧
      (∀ p, (plan (packageProject "generated") [] (packageRequest [])).result = .ok p →
        Output.HasRoom (packageProject "generated") p.settings.packageDirectory p.sources) ∧
      (Agree (check (packageProject "generated") [] (packageRequest []))
          (generate (packageProject "generated") [] (packageRequest [])) ↔
        ∀ p, (plan (packageProject "generated") [] (packageRequest [])).result = .ok p →
          ¬Output.Strays (packageProject "generated") p.settings.packageDirectory p.sources) :=
  have hbuiltIn : (packageRequest []).IsBuiltIn := List.nil_subset _
  have hroom : ∀ p, (plan (packageProject "generated") [] (packageRequest [])).result = .ok p →
      Output.HasRoom (packageProject "generated") p.settings.packageDirectory p.sources := by
    have hcount : (plan (packageProject "generated") [] (packageRequest [])).result.toOption.map (fun p =>
        ((packageProject "generated").ensureDirectories p.settings.packageDirectory).1.entryCount
          p.settings.packageDirectory + p.sources.length) = some 2 := by
      decide +kernel
    intro p hp
    rw [hp] at hcount
    exact le_of_eq_of_le (Option.some.inj hcount) (by decide)
  ⟨hbuiltIn, hroom, agree_check_generate_iff _ _ _ hbuiltIn hroom⟩

/-- Where rounds agree and the one finds something stale, the other has changed something. -/
private theorem Agree.changed_ne_nil {compared written : Round} (h : Agree compared written)
    (hstale : compared.result.toOption.map (·.stale) = some true) :
    written.result.toOption.map (·.changed) ≠ some [] := by
  rw [Agree] at h
  intro hchanged
  cases hc : compared.result with
  | error fault =>
    rw [hc] at hstale
    cases hstale
  | ok c =>
    cases hw : written.result with
    | error fault =>
      rw [hw] at hchanged
      cases hchanged
    | ok w =>
      rw [hc, hw] at h
      rw [hc] at hstale
      rw [hw] at hchanged
      exact h.2.2.2.1 (Option.some.inj hstale) (Option.some.inj hchanged)

/-- A round that compares may find a file to differ that the other does not write: the way to the package directory
may lead through a directory that is missing, and back. -/
theorem exists_disagreement :
    ¬∀ (tree : Entry) (current : List String) (request : Request), request.IsBuiltIn →
      Agree (check tree current request) (generate tree current request) := by
  have hresults : ((check (packageProject "missing/../generated") [] (packageRequest [])).result.toOption.map (·.stale),
      (generate (packageProject "missing/../generated") [] (packageRequest [])).result.toOption.map (·.changed)) =
      (some true, some []) := by
    decide +kernel
  obtain ⟨hstale, hchanged⟩ := Prod.mk.inj hresults
  exact fun hall => (hall _ _ _ (List.nil_subset _)).changed_ne_nil hstale hchanged

end Round

end NavFactory
