import NavFactory.Proofs.Agreement
import NavFactory.Proofs.Encoding

/-!
# Files that stay as they were written

A file that has been brought up to date is read as the text that was written (`Output.currentText_of_updateFile`), and
it stays so while files of other names are written beside it (`Output.Alteration.currentText_eq`).  So a directory whose
files have all been written is left as it is when they are written again, and nothing differs there
(`Output.write_again`).  A text that holds a carriage return is not read back, as reading makes a line feed of it.
-/

namespace NavFactory

open Entry

variable {tree tree' : Entry} {place : List String} {name text : String} {directory p : Path} {contents : List UInt8}
  {files : Sources} {written : List WrittenFile}

namespace Output

/-- A file that has a text stands where its path leads. -/
theorem exists_found_of_currentText (h : currentText tree p = .ok (some text)) :
    ∃ place contents, tree.locate p = .ok (.found place) ∧ tree.nodeAt? place = some (.file contents) := by
  have hbytes : ∃ bytes, tree.readBytes p = .ok bytes := by
    rw [currentText, readText] at h
    cases hbytes : tree.readBytes p with
    | ok bytes => exact ⟨bytes, rfl⟩
    | error f =>
      rw [hbytes] at h
      dsimp only at h
      split_ifs at h
      all_goals cases h
  obtain ⟨bytes, hbytes⟩ := hbytes
  obtain ⟨place, hlocate, hfile⟩ := found_of_readBytes hbytes
  exact ⟨place, bytes, hlocate, hfile⟩

/-- A file that holds a text is read as that text, unless it has a carriage return. -/
theorem readText_of_file (hlocate : tree.locate p = .ok (.found place))
    (hfile : tree.nodeAt? place = some (.file (Text.encode text))) (hbreaks : '\r' ∉ text.toList) :
    tree.readText p = .ok text := by
  have hbytes : tree.readBytes p = .ok (Text.encode text) := by
    rw [readBytes_eq, hlocate]
    simp only [hfile]
  rw [readText, hbytes]
  simp only [textOfBytes_encode hbreaks]

/-- A file that has been brought up to date has the text that it should have. -/
theorem currentText_of_updateFile {changed : Bool} (hbreaks : '\r' ∉ text.toList)
    (h : updateFile tree p text = .ok (tree', changed)) : currentText tree' p = .ok (some text) := by
  obtain ⟨current, hcurrent, h⟩ := bind_eq_ok_iff.1 h
  split_ifs at h with hsame
  · cases h
    rw [hcurrent, beq_iff_eq.1 hsame]
  · obtain ⟨replaced, hreplaced, h⟩ := bind_eq_ok_iff.1 h
    cases h
    obtain ⟨-, hleads, hold, hlocate⟩ := setsFile_of_replaceFile hreplaced
    rw [currentText, readText_of_file hlocate ?_ hbreaks]
    rw [nodeAt?_put_file (.of_append hleads.directory _) hold, if_pos rfl]

/-- The text of a file stays the same while files of other names are written into its directory. -/
theorem Alteration.currentText_eq (h : Alteration directory files tree tree')
    (hnames : ∀ file ∈ files, Path.IsStep file.1) (hname : Path.IsStep name) (hfresh : name ∉ files.map (·.1))
    (hcurrent : currentText tree (directory.child name) = .ok (some text)) :
    currentText tree' (directory.child name) = .ok (some text) := by
  obtain ⟨place, contents, hlocate, hfile⟩ := exists_found_of_currentText hcurrent
  have hsame : tree'.nodeAt? place = tree.nodeAt? place := by
    obtain hsame | ⟨other, otherText, hmem, -, -, hinside⟩ | ⟨hfree, -⟩ := h.place place
    · exact hsame
    · -- The place ends with the name of the file that stands there.
      obtain ⟨there, -, hplace⟩ := hinside (hnames _ hmem)
      obtain ⟨-, hfrom⟩ := locate_eq_ok_iff.1 hlocate
      rw [Path.child_of_isStep hname] at hfrom
      obtain ⟨init, last, here, hparts, hplace', -⟩ := leads_of_file hfrom (by simp [hplace]) hfile
      obtain ⟨-, rfl⟩ : directory.parts = init ∧ name = last := by simpa using hparts
      obtain ⟨-, rfl⟩ : here = there ∧ name = other := by simpa using hplace'.symm.trans hplace
      exact absurd (List.mem_map_of_mem hmem) hfresh
    · rw [hfile] at hfree
      cases hfree
  rw [← hcurrent]
  refine SameAt.currentText ⟨?_, fun place' hplace' => ?_⟩
  · rw [h.grows.locate_found hlocate, hlocate]
  · rw [hlocate] at hplace'
    cases hplace'
    exact hsame

/-- Whether every file has the text that it should have. -/
def UpToDate (tree : Entry) (directory : Path) (files : Sources) : Prop :=
  ∀ file ∈ files, currentText tree (directory.child file.1) = .ok (some file.2)

/-- Behind a file that has been brought up to date the others find what it has left. -/
theorem writeFiles_cons {next : Entry} {changed : Bool} {file : String × String}
    (h : updateFile tree (directory.child file.1) file.2 = .ok (next, changed)) (rest : Sources) :
    writeFiles directory tree (file :: rest) =
      ⟨(writeFiles directory next rest).tree,
        updateRecord (directory.child file.1) changed :: (writeFiles directory next rest).records,
        (writeFiles directory next rest).result.map (⟨directory.child file.1, changed⟩ :: ·)⟩ := by
  rw [writeFiles, h]
  rfl

/-- Where files have all been brought up to date, the first has, and then the others. -/
theorem exists_next_of_writeFiles {file : String × String} {rest : Sources}
    (h : (writeFiles directory tree (file :: rest)).result = .ok written) :
    ∃ next changed others, updateFile tree (directory.child file.1) file.2 = .ok (next, changed) ∧
      (writeFiles directory next rest).result = .ok others ∧ written = ⟨directory.child file.1, changed⟩ :: others := by
  cases hupdated : updateFile tree (directory.child file.1) file.2 with
  | error fault =>
    rw [writeFiles, hupdated] at h
    cases h
  | ok updated =>
    obtain ⟨next, changed⟩ := updated
    rw [writeFiles_cons hupdated] at h
    obtain ⟨others, hothers, rfl⟩ := map_eq_ok_iff.1 h
    exact ⟨next, changed, others, rfl, hothers, rfl⟩

/-- Files that have been brought up to date one after the other are so in the end. -/
theorem upToDate_of_writeFiles (hnames : ∀ file ∈ files, Path.IsStep file.1) (hnd : (files.map (·.1)).Nodup)
    (hbreaks : ∀ file ∈ files, '\r' ∉ file.2.toList) (h : (writeFiles directory tree files).result = .ok written) :
    UpToDate (writeFiles directory tree files).tree directory files := by
  induction files generalizing tree written with
  | nil => simp [UpToDate]
  | cons file rest ih =>
    obtain ⟨hname, hnames⟩ := List.forall_mem_cons.1 hnames
    obtain ⟨hfresh, hnd⟩ := List.nodup_cons.1 hnd
    obtain ⟨hbreak, hbreaks⟩ := List.forall_mem_cons.1 hbreaks
    obtain ⟨next, changed, others, hupdated, hothers, -⟩ := exists_next_of_writeFiles h
    rw [writeFiles_cons hupdated]
    refine List.forall_mem_cons.2 ⟨?_, ih hnames hnd hbreaks hothers⟩
    have halters := (steps_writeFiles (List.Subset.refl rest) directory next).alteration
    exact halters.currentText_eq hnames hname hfresh (currentText_of_updateFile hbreak hupdated)

/-- Files that are up to date are not written. -/
theorem writeFiles_of_upToDate (h : UpToDate tree directory files) :
    (writeFiles directory tree files).tree = tree ∧
      (writeFiles directory tree files).result = .ok (files.map fun file => ⟨directory.child file.1, false⟩) := by
  induction files with
  | nil => exact ⟨rfl, rfl⟩
  | cons file rest ih =>
    obtain ⟨name, text⟩ := file
    obtain ⟨hcurrent, hrest⟩ := List.forall_mem_cons.1 h
    obtain ⟨htree, hresult⟩ := ih hrest
    have hupdated : updateFile tree (directory.child name) text = .ok (tree, false) := by
      rw [updateFile, hcurrent]
      simp [bind, Except.bind]
    rw [writeFiles, hupdated]
    refine ⟨htree, ?_⟩
    simp only [behind, hresult]
    rfl

/-- Files that are up to date do not differ. -/
theorem diff_of_upToDate (h : UpToDate tree directory files) : diff tree directory files = .ok [] := by
  induction files with
  | nil => rfl
  | cons file rest ih =>
    obtain ⟨hcurrent, hrest⟩ := List.forall_mem_cons.1 h
    rw [diff_cons, hcurrent, ih hrest, isCurrent_iff.2 hcurrent]
    rfl

theorem write_of_ensured {made : Entry} (h : tree.ensureDirectories directory = (made, none)) :
    write tree directory files = writeFiles directory made files := by
  rw [write, h]

/-- Where files have been written, their directory is there. -/
theorem exists_ensured_of_write (h : (write tree directory files).result = .ok written) :
    ∃ made, tree.ensureDirectories directory = (made, none) := by
  rw [write] at h
  split at h
  · cases h
  · exact ⟨_, ‹_›⟩

/-- A directory that is there stays as it is when it is made again. -/
theorem ensureDirectories_again {made after : Entry} (h : tree.ensureDirectories directory = (made, none))
    (hgrows : made.Grows after) : after.ensureDirectories directory = (after, none) := by
  obtain ⟨here, hlocate, hdirectory⟩ := found_of_ensureDirectories h
  rw [ensureDirectories_of_found (hgrows.locate_found hlocate), if_pos (hgrows.directory here hdirectory)]

/-- Files that have been written are not written again, and do not differ. -/
theorem write_again (hnames : ∀ file ∈ files, Path.IsStep file.1) (hnd : (files.map (·.1)).Nodup)
    (hbreaks : ∀ file ∈ files, '\r' ∉ file.2.toList) (h : (write tree directory files).result = .ok written) :
    (∃ again, (write (write tree directory files).tree directory files).result = .ok again ∧
        ∀ file ∈ again, file.changed = false) ∧
      diff (write tree directory files).tree directory files = .ok [] := by
  obtain ⟨made, hensured⟩ := exists_ensured_of_write h
  rw [write_of_ensured hensured] at h ⊢
  have hcurrent := upToDate_of_writeFiles hnames hnd hbreaks h
  have hgrows := (steps_writeFiles (List.Subset.refl files) directory made).alteration.grows
  rw [write_of_ensured (ensureDirectories_again hensured hgrows)]
  refine ⟨⟨_, (writeFiles_of_upToDate hcurrent).2, fun file hfile => ?_⟩, diff_of_upToDate hcurrent⟩
  obtain ⟨source, -, rfl⟩ := List.mem_map.1 hfile
  rfl

end Output

end NavFactory
