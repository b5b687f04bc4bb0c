import NavFactory.Proofs.Completion

/-!
# Writes that fail

A file is replaced in two steps: a temporary file is made beside it and moved into its place, and where it cannot be
moved it is removed again, which leaves the tree as it was (`Output.replaceBySteps_eq`).  So a file that is not brought
up to date leaves the tree as it is, and a run over files stops at the first of them with those in front of it completed
(`Output.writeFiles_error_iff`).  Directories that have been made on the way stay when a write fails
(`Output.isInterrupted_write`).
-/

namespace NavFactory

open Entry

variable {tree tree' made : Entry} {place : List String} {name text : String} {directory path p : Path}
  {contents : List UInt8} {files front back rest : Sources} {file : String × String} {written told : List WrittenFile}
  {fault : OutputFault}

/-! ### Steps of a replacement -/

/-- Removes the file that a path leads to, if there is one. -/
def Entry.removeFile (tree : Entry) (p : Path) : Entry :=
  match tree.locate p with
  | .ok (.found place) => tree.erase place
  | _ => tree

/-- A file that has been made is gone when it is removed. -/
theorem Entry.removeFile_of_createFile (h : tree.createFile p contents = .ok tree') : tree'.removeFile p = tree := by
  obtain ⟨above, name, hlocate, rfl⟩ := exists_free_of_createFile h
  obtain ⟨hplace, hfree⟩ := hasPlace_of_free hlocate
  have hnode := nodeAt?_put_file hplace (by simp [hfree]) contents
  have hgrows := grows_put_file hplace (by simp [hfree]) contents
  rw [removeFile, hgrows.locate_free hlocate (by rw [hnode, if_pos rfl]; rfl)]
  exact erase_put hplace hfree _

namespace Output

/-- Puts a text into the place of a file step by step: what becomes of the tree, and whether it went well. -/
def replaceBySteps (tree : Entry) (path : Path) (text : String) : Entry × Except OutputFault Unit :=
  let directory := temporaryDirectory path
  match tree.createTemporary directory path.name (Text.encode text) (tree.entryCount directory) 0 with
  | .error f => (tree, .error (.file f))
  | .ok (temporary, written) =>
    match written.moveFile temporary path with
    | .ok moved => (moved, .ok ())
    | .error f => (written.removeFile temporary, .error (.unwritable path f))

/-- A replacement that fails leaves the tree as it was. -/
theorem replaceBySteps_eq (tree : Entry) (path : Path) (text : String) :
    replaceBySteps tree path text = match replaceFile tree path text with
      | .ok replaced => (replaced, .ok ())
      | .error fault => (tree, .error fault) := by
  rw [replaceBySteps, replaceFile]
  cases hcreated : tree.createTemporary (temporaryDirectory path) path.name (Text.encode text)
      (tree.entryCount (temporaryDirectory path)) 0 with
  | error f => rfl
  | ok created =>
    obtain ⟨temporary, written⟩ := created
    dsimp only
    cases written.moveFile temporary path with
    | ok moved => rfl
    | error f => rw [removeFile_of_createFile (createFile_of_createTemporary hcreated)]

/-- Brings a file up to date step by step: what becomes of the tree, and whether the file was written. -/
def updateBySteps (tree : Entry) (path : Path) (text : String) : Entry × Except OutputFault Bool :=
  match currentText tree path with
  | .error fault => (tree, .error fault)
  | .ok current =>
    if current == some text then (tree, .ok false)
    else match replaceBySteps tree path text with
      | (replaced, .ok _) => (replaced, .ok true)
      | (left, .error fault) => (left, .error fault)

theorem updateBySteps_eq (tree : Entry) (path : Path) (text : String) :
    updateBySteps tree path text = match updateFile tree path text with
      | .ok (updated, changed) => (updated, .ok changed)
      | .error fault => (tree, .error fault) := by
  rw [updateBySteps, updateFile, replaceBySteps_eq]
  cases currentText tree path with
  | error fault => rfl
  | ok current =>
    simp only [bind, Except.bind]
    split_ifs
    · rfl
    · cases replaceFile tree path text <;> rfl

/-! ### Files in front of one that fails -/

/-- Files that are brought up to date behind others find what these have left. -/
theorem writeFiles_append (h : (writeFiles directory tree front).result = .ok told) (rest : Sources) :
    writeFiles directory tree (front ++ rest) =
      let more := writeFiles directory (writeFiles directory tree front).tree rest
      ⟨more.tree, (writeFiles directory tree front).records ++ more.records, more.result.map (told ++ ·)⟩ := by
  induction front generalizing tree told with
  | nil =>
    cases h
    simp only [List.nil_append, writeFiles]
    obtain ⟨_, _, result⟩ := writeFiles directory tree rest
    cases result <;> rfl
  | cons file front ih =>
    obtain ⟨next, changed, others, hupdated, hothers, rfl⟩ := exists_next_of_writeFiles h
    rw [List.cons_append, writeFiles_cons hupdated, writeFiles_cons hupdated, ih hothers]
    dsimp only
    obtain ⟨_, _, result⟩ := writeFiles directory (writeFiles directory next front).tree rest
    cases result <;> rfl

/-- Of every file that has been brought up to date it is logged whether it was written. -/
theorem records_of_writeFiles (h : (writeFiles directory tree files).result = .ok written) :
    (writeFiles directory tree files).records = written.map fun file => updateRecord file.path file.changed := by
  induction files generalizing tree written with
  | nil =>
    cases h
    rfl
  | cons file rest ih =>
    obtain ⟨next, changed, others, hupdated, hothers, rfl⟩ := exists_next_of_writeFiles h
    rw [writeFiles_cons hupdated, List.map_cons, ih hothers]

/-- Files of which one is not brought up to date, but all in front of it are. -/
structure Stops (directory : Path) (tree : Entry) (front : Sources) (file : String × String) (back : Sources)
    (told : List WrittenFile) (fault : OutputFault) (files : Sources) : Prop where
  files : files = front ++ file :: back
  told : (writeFiles directory tree front).result = .ok told
  fails : updateFile (writeFiles directory tree front).tree (directory.child file.1) file.2 = .error fault

/-- A run that stops leaves the tree as it was after the files in front. -/
theorem Stops.writeFiles_eq (h : Stops directory tree front file back told fault files) :
    writeFiles directory tree files =
      ⟨(writeFiles directory tree front).tree, (writeFiles directory tree front).records, .error fault⟩ := by
  obtain ⟨rfl, htold, hfails⟩ := h
  rw [writeFiles_append htold, writeFiles, hfails]
  simp only [behind, List.append_nil]
  rfl

/-- A run over files fails exactly if it stops at one of them. -/
theorem writeFiles_error_iff : (writeFiles directory tree files).result = .error fault ↔
    ∃ front file back told, Stops directory tree front file back told fault files := by
  constructor
  · intro h
    induction files generalizing tree with
    | nil => cases h
    | cons file rest ih =>
      cases hupdated : updateFile tree (directory.child file.1) file.2 with
      | error f =>
        rw [writeFiles, hupdated] at h
        cases h
        exact ⟨[], file, rest, [], rfl, rfl, hupdated⟩
      | ok updated =>
        obtain ⟨next, changed⟩ := updated
        rw [writeFiles_cons hupdated] at h
        obtain ⟨front, stop, back, told, rfl, htold, hfails⟩ := ih (map_error_iff.1 h)
        refine ⟨file :: front, stop, back, ⟨directory.child file.1, changed⟩ :: told, rfl, ?_, ?_⟩
        · rw [writeFiles_cons hupdated, htold]
          rfl
        · rw [writeFiles_cons hupdated]
          exact hfails
  · rintro ⟨front, file, back, told, h⟩
    rw [h.writeFiles_eq]

/-! ### Writes that fail -/

/-- Whether the place of a file is below that of its directory. -/
def IsBelow (directory : Path) (name : String) : Prop :=
  Path.collapse [] directory.parts <+: placeOf directory name ∧ placeOf directory name ≠ Path.collapse [] directory.parts

instance (directory : Path) (name : String) : Decidable (IsBelow directory name) := inferInstanceAs (Decidable (_ ∧ _))

/-- A directory that is made on the way to one without double dots does not stand below that. -/
theorem not_isBelow_of_makes (hup : ".." ∉ directory.parts) (hmakes : Makes directory tree (placeOf directory name)) :
    ¬IsBelow directory name := by
  obtain ⟨parts, hway, hlocate, -⟩ := hmakes
  have hplace : placeOf directory name = parts := by
    rw [← collapse_of_found (locate_eq_ok_iff.1 hlocate).2, Path.collapse_of_notMem fun h => hup (hway.subset h),
      List.nil_append]
  rintro ⟨hbelow, hne⟩
  rw [Path.collapse_of_notMem hup, List.nil_append, hplace] at hbelow hne
  exact hne (hway.eq_of_length_le hbelow.length_le)

/-- What has become of a tree where the directory of files could not be made: some of the directories on the way to it may
have been made, but none if its path has no double dots and no name that is too long. -/
structure IsBlocked (tree : Entry) (directory : Path) (problem : FileFault) (outcome : Outcome) : Prop where
  blocked : tree.ensureDirectories directory = (outcome.tree, some problem)
  records : outcome.records = []
  result : outcome.result =
    .error (if problem.problem == .nullCharacter then .file problem else .directory directory problem)
  untouched : ∀ place, outcome.tree.nodeAt? place = tree.nodeAt? place ∨
    tree.nodeAt? place = none ∧ Makes directory outcome.tree place
  unmade : ".." ∉ directory.parts → problem.problem ≠ .nameTooLong → outcome.tree = tree

/-- What has become of a tree where a file could not be brought up to date: those in front of it are completed, the step
that failed has left no trace, and nothing has happened to the files from it on, unless double dots in the path of the
directory have led to a directory that was made in the place of one of them. -/
structure IsStopped (tree : Entry) (directory : Path) (front : Sources) (file : String × String) (back : Sources)
    (told : List WrittenFile) (fault : OutputFault) (outcome : Outcome) : Prop where
  completed : IsCompleted tree directory front outcome.tree told
  records : outcome.records = told.map fun file => updateRecord file.path file.changed
  failed : updateBySteps outcome.tree (directory.child file.1) file.2 = (outcome.tree, .error fault)
  kept : ∀ other ∈ file :: back,
    outcome.tree.nodeAt? (placeOf directory other.1) = tree.nodeAt? (placeOf directory other.1) ∨
      ".." ∈ directory.parts ∧ tree.nodeAt? (placeOf directory other.1) = none ∧
        Makes directory outcome.tree (placeOf directory other.1)

theorem isBlocked_write {problem : FileFault} (h : tree.ensureDirectories directory = (made, some problem)) :
    IsBlocked tree directory problem (write tree directory files) := by
  have hwrite : write tree directory files =
      ⟨made, [], .error (if problem.problem == .nullCharacter then .file problem else .directory directory problem)⟩ := by
    rw [write, h]
  rw [hwrite]
  exact ⟨h, rfl, rfl, nodeAt?_of_ensureDirectories h, fun hup hfits => unmade_of_plain hup hfits h⟩

theorem isStopped_writeFiles (hdistinct : HaveOwnPlaces directory files)
    (hbelow : ∀ file ∈ files, IsBelow directory file.1)
    (hensured : tree.ensureDirectories directory = (made, none))
    (h : Stops directory made front file back told fault files) :
    IsStopped tree directory front file back told fault (writeFiles directory made files) := by
  rw [h.writeFiles_eq]
  obtain ⟨rfl, htold, hfails⟩ := h
  rw [HaveOwnPlaces, List.map_append, List.nodup_append] at hdistinct
  obtain ⟨hfront, -, hapart⟩ := hdistinct
  have hcompleted := isCompleted_of_writeFiles hensured hfront htold
  refine ⟨hcompleted, records_of_writeFiles htold, by rw [updateBySteps_eq, hfails], fun other hother => ?_⟩
  obtain hsame | ⟨set, hset, -, hplace⟩ | ⟨hfree, hmakes⟩ := hcompleted.untouched (placeOf directory other.1)
  · exact .inl hsame
  · exact absurd hplace.symm (hapart _ (List.mem_map_of_mem hset) _ (List.mem_map_of_mem hother))
  · refine .inr ⟨?_, hfree, hmakes⟩
    by_contra hup
    exact not_isBelow_of_makes hup hmakes (hbelow other (List.mem_append_right _ hother))

/-- A package in which a directory stands in the place of a file. -/
def obstructedTree : Entry :=
  .directory [("pkg", .directory [("a.py", .file (Text.encode "old\n")), ("b.py", .emptyDirectory)])]

end Output

end NavFactory
