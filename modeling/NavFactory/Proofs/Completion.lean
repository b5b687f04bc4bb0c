import NavFactory.Proofs.Hiding
import NavFactory.Proofs.Persistence

/-!
# Files that have been written

Each file stands at the place that its path spells.  Where it is brought up to date, either its bytes are read as its
text already and nothing happens, or its place is set (`Output.updateFile_ok`); and a run over files in places of their
own sets those that were not read as their texts, and nothing else (`Output.writeFiles_ok`).  Plain names that have been
written are steps into the directory, so their places are their own (`Output.haveOwnPlaces_of_isStep`).  What is there
is read with its newlines as line feeds, what is written keeps them: so a file may be taken for its text although its
bytes are others (`Output.IsMistaken`), and this is all that a write can get wrong (`Output.isFaithful_write_iff`).
-/

namespace NavFactory

open Entry

variable {tree tree' : Entry} {place : List String} {name text : String} {directory path p : Path}
  {contents : List UInt8} {files : Sources} {file : String × String} {written : List WrittenFile} {changed : Bool}

/-! ### Places of files -/

/-- A file that is set stands at the place that its path spells; what stood there before was found by the path. -/
theorem Entry.SetsFile.atPlace (h : tree.SetsFile path contents tree') (hplace : Path.collapse [] path.parts = place) :
    tree.HasPlace place ∧ tree.nodeAt? place ≠ some .directory ∧ tree' = tree.put place (.file contents) ∧
      ((tree.nodeAt? place).isSome → tree.locate path = .ok (.found place)) := by
  obtain ⟨hparts, hleads, hold, hlocate⟩ := h
  rename_i parts here last
  obtain ⟨hnull, hfrom⟩ := locate_eq_ok_iff.1 hlocate
  obtain rfl : here ++ [last] = place := (collapse_of_found hfrom).symm.trans hplace
  refine ⟨.of_append hleads.directory last, hold, rfl, fun hthere => ?_⟩
  have hgrows := grows_put_file (.of_append hleads.directory last) hold contents
  rw [hparts, (hgrows.leads hleads).concat, step_eq_found_iff] at hfrom
  obtain ⟨-, heq⟩ | ⟨hup, hfits, -⟩ := hfrom
  · have hlength := congrArg List.length heq
    rw [List.length_append, List.length_dropLast, List.length_singleton] at hlength
    omega
  · rw [hleads.locate hparts (hasNull_eq_false_iff.1 hnull) hup hfits, if_pos hthere]

namespace Output

/-- The place that the path of a file spells. -/
def placeOf (directory : Path) (name : String) : List String := Path.collapse [] (directory.child name).parts

/-- Whether the bytes in the place of a file are read as its text. -/
def isRead (tree : Entry) (directory : Path) (file : String × String) : Bool :=
  match tree.nodeAt? (placeOf directory file.1) with
  | some (.file bytes) => decide (textOfBytes bytes = .ok file.2)
  | _ => false

theorem isRead_iff : isRead tree directory file = true ↔
    ∃ bytes, tree.nodeAt? (placeOf directory file.1) = some (.file bytes) ∧ textOfBytes bytes = .ok file.2 := by
  rw [isRead]
  cases tree.nodeAt? (placeOf directory file.1) with
  | none => simp
  | some node => cases node <;> simp

theorem isRead_congr (h : tree'.nodeAt? (placeOf directory file.1) = tree.nodeAt? (placeOf directory file.1)) :
    isRead tree' directory file = isRead tree directory file := by
  rw [isRead, isRead, h]

/-- Sets the place of a file to its text. -/
def setFile (directory : Path) (tree : Entry) (file : String × String) : Entry :=
  tree.put (placeOf directory file.1) (.file (Text.encode file.2))

theorem nodeAt?_setFile (hplace : tree.HasPlace (placeOf directory file.1))
    (hold : tree.nodeAt? (placeOf directory file.1) ≠ some .directory) (names : List String) :
    (setFile directory tree file).nodeAt? names =
      if names = placeOf directory file.1 then some (.file (Text.encode file.2)) else tree.nodeAt? names :=
  nodeAt?_put_file hplace hold _ names

/-! ### Single files -/

theorem currentText_of_found (hlocate : tree.locate p = .ok (.found place))
    (hfile : tree.nodeAt? place = some (.file contents)) :
    currentText tree p = .ok (some text) ↔ textOfBytes contents = .ok text := by
  rw [currentText, readText, readBytes_eq, hlocate]
  simp only [hfile]
  cases textOfBytes contents <;> simp

/-- A file that is brought up to date is read as its text already, and nothing happens, or its place is set. -/
theorem updateFile_ok (h : updateFile tree (directory.child file.1) file.2 = .ok (tree', changed)) :
    (isRead tree directory file = true ∧ changed = false ∧ tree' = tree) ∨
      (isRead tree directory file = false ∧ changed = true ∧ tree' = setFile directory tree file ∧
        tree.HasPlace (placeOf directory file.1) ∧ tree.nodeAt? (placeOf directory file.1) ≠ some .directory) := by
  obtain ⟨current, hcurrent, h⟩ := bind_eq_ok_iff.1 h
  split_ifs at h with hsame
  · cases h
    rw [beq_iff_eq.1 hsame] at hcurrent
    obtain ⟨place, bytes, hlocate, hfile⟩ := exists_found_of_currentText hcurrent
    have hplace : placeOf directory file.1 = place := collapse_of_found (locate_eq_ok_iff.1 hlocate).2
    refine .inl ⟨isRead_iff.2 ⟨bytes, ?_, (currentText_of_found hlocate hfile).1 hcurrent⟩, rfl, rfl⟩
    rw [hplace, hfile]
  · obtain ⟨replaced, hreplaced, h⟩ := bind_eq_ok_iff.1 h
    cases h
    obtain ⟨hplace, hold, htree, hfound⟩ := (setsFile_of_replaceFile hreplaced).atPlace rfl
    refine .inr ⟨?_, rfl, htree, hplace, hold⟩
    rw [Bool.eq_false_iff, ne_eq, isRead_iff]
    rintro ⟨bytes, hfile, hread⟩
    have hlocate := hfound (Option.isSome_of_eq_some hfile)
    rw [(currentText_of_found hlocate hfile).2 hread] at hcurrent
    cases hcurrent
    exact hsame (beq_self_eq_true _)

/-! ### Runs over files -/

/-- What becomes of a tree in which those of several files are set that are not read as their texts. -/
structure IsRewritten (directory : Path) (files : Sources) (tree tree' : Entry) : Prop where
  set : ∀ file ∈ files, isRead tree directory file = false →
    tree'.nodeAt? (placeOf directory file.1) = some (.file (Text.encode file.2))
  same : ∀ place, (∀ file ∈ files, isRead tree directory file = false → place ≠ placeOf directory file.1) →
    tree'.nodeAt? place = tree.nodeAt? place

/-- Whether files have places of their own. -/
def HaveOwnPlaces (directory : Path) (files : Sources) : Prop := (files.map fun file => placeOf directory file.1).Nodup

theorem IsRewritten.kept (h : IsRewritten directory files tree tree') (hdistinct : HaveOwnPlaces directory files)
    (hmem : file ∈ files) (hread : isRead tree directory file = true) :
    tree'.nodeAt? (placeOf directory file.1) = tree.nodeAt? (placeOf directory file.1) := by
  refine h.same _ fun other hother hchanged heq => ?_
  obtain rfl := List.inj_on_of_nodup_map hdistinct hmem hother heq
  rw [hread] at hchanged
  cases hchanged

private theorem isRewritten_cons_kept (hread : isRead tree directory file = true)
    (h : IsRewritten directory files tree tree') : IsRewritten directory (file :: files) tree tree' where
  set := List.forall_mem_cons.2 ⟨fun hchanged => absurd (hread.symm.trans hchanged) (by decide), h.set⟩
  same place hplace := h.same place (List.forall_mem_cons.1 hplace).2

private theorem isRewritten_cons_set (hchanged : isRead tree directory file = false)
    (hplace : tree.HasPlace (placeOf directory file.1))
    (hold : tree.nodeAt? (placeOf directory file.1) ≠ some .directory)
    (hsame : ∀ other ∈ files, isRead (setFile directory tree file) directory other = isRead tree directory other)
    (hfresh : placeOf directory file.1 ∉ files.map fun file => placeOf directory file.1)
    (h : IsRewritten directory files (setFile directory tree file) tree') :
    IsRewritten directory (file :: files) tree tree' where
  set := by
    refine List.forall_mem_cons.2 ⟨fun _ => ?_, ?_⟩
    · have hothers : ∀ other ∈ files, isRead (setFile directory tree file) directory other = false →
          placeOf directory file.1 ≠ placeOf directory other.1 :=
        fun other hother _ heq => hfresh (List.mem_map.2 ⟨other, hother, heq.symm⟩)
      rw [h.same _ hothers, nodeAt?_setFile hplace hold, if_pos rfl]
    · exact fun other hother hread => h.set other hother ((hsame other hother).trans hread)
  same place hothers := by
    obtain ⟨hfirst, hothers⟩ := List.forall_mem_cons.1 hothers
    rw [h.same place fun other hother hread => hothers other hother ((hsame other hother).symm.trans hread),
      nodeAt?_setFile hplace hold, if_neg (hfirst hchanged)]

/-- Files in places of their own that are all brought up to date: those that were not read as their texts are set, and it
is told which they are. -/
theorem writeFiles_ok (hdistinct : HaveOwnPlaces directory files)
    (h : (writeFiles directory tree files).result = .ok written) :
    (writeFiles directory tree files).tree = (files.filter (!isRead tree directory ·)).foldl (setFile directory) tree ∧
      written = files.map (fun file => ⟨directory.child file.1, !isRead tree directory file⟩) ∧
      IsRewritten directory files tree (writeFiles directory tree files).tree := by
  induction files generalizing tree written with
  | nil =>
    cases h
    exact ⟨rfl, rfl, by simp, fun _ _ => rfl⟩
  | cons file rest ih =>
    obtain ⟨hfresh, hdistinct⟩ := List.nodup_cons.1 hdistinct
    obtain ⟨next, changed, others, hupdated, hothers, rfl⟩ := exists_next_of_writeFiles h
    obtain ⟨htree, hwritten, hrewritten⟩ := ih hdistinct hothers
    rw [writeFiles_cons hupdated]
    simp only [List.filter_cons, List.map_cons]
    obtain ⟨hread, rfl, rfl⟩ | ⟨hchanged, rfl, rfl, hplace, hold⟩ := updateFile_ok hupdated
    · rw [hread]
      exact ⟨htree, by rw [hwritten]; rfl, isRewritten_cons_kept hread hrewritten⟩
    · -- setting the file leaves the places of the others as they were
      have hsame : ∀ other ∈ rest,
          isRead (setFile directory tree file) directory other = isRead tree directory other := by
        intro other hother
        refine isRead_congr ?_
        rw [nodeAt?_setFile hplace hold, if_neg fun heq => hfresh (List.mem_map.2 ⟨other, hother, heq⟩)]
      have hfilter : rest.filter (!isRead (setFile directory tree file) directory ·) =
          rest.filter (!isRead tree directory ·) := List.filter_congr fun other hother => by rw [hsame other hother]
      have hreport : rest.map (fun other => (⟨directory.child other.1,
            !isRead (setFile directory tree file) directory other⟩ : WrittenFile)) =
          rest.map fun other => ⟨directory.child other.1, !isRead tree directory other⟩ :=
        List.map_congr_left fun other hother => by rw [hsame other hother]
      rw [hchanged]
      refine ⟨?_, ?_, isRewritten_cons_set hchanged hplace hold hsame hfresh hrewritten⟩
      · rw [htree, hfilter]
        rfl
      · rw [hwritten, hreport]
        rfl

/-! ### Plain names -/

/-- A plain name is a single step of a path, or it is empty or a dot and names no step. -/
theorem isStep_or_child_eq (hplain : '/' ∉ name.toList) :
    Path.IsStep name ∨ ∀ directory : Path, directory.child name = directory := by
  have hparts : Text.parts '/' name = [name] := Text.parts_of_notMem hplain
  by_cases hstep : name ∈ Path.steps name
  · exact .inl (Path.isStep_of_mem_steps hstep)
  · obtain rfl | rfl : name = "" ∨ name = "." := by
      rw [Path.steps, hparts, List.mem_filter] at hstep
      simpa [or_iff_not_imp_left] using hstep
    · exact .inr fun directory => by simp [Path.child, show Path.ofText "" = ⟨"", []⟩ by decide, Path.join_relative]
    · exact .inr fun directory => by simp [Path.child, show Path.ofText "." = ⟨"", []⟩ by decide, Path.join_relative]

/-- What is a directory is not brought up to date. -/
theorem updateFile_of_directory (hlocate : tree.locate p = .ok (.found here))
    (hdirectory : tree.nodeAt? here = some .directory) (text : String) :
    updateFile tree p text = .error (.unreadable p (.file ⟨.isDirectory, p⟩)) := by
  rw [updateFile, currentText_of_directory hlocate hdirectory]
  rfl

/-- A plain name whose file is brought up to date in a directory is a step into it. -/
theorem isStep_of_updateFile (hplain : '/' ∉ name.toList) (hlocate : tree.locate directory = .ok (.found here))
    (hdirectory : tree.nodeAt? here = some .directory)
    (h : updateFile tree (directory.child name) text = .ok (tree', changed)) : Path.IsStep name ∧ name ≠ ".." := by
  obtain hstep | hchild := isStep_or_child_eq hplain
  · refine ⟨hstep, ?_⟩
    rintro rfl
    obtain ⟨hnull, hfrom⟩ := locate_eq_ok_iff.1 hlocate
    have hleads : tree.Leads directory.parts here := ⟨hfrom, hdirectory⟩
    have habove : tree.nodeAt? here.dropLast = some .directory := by
      obtain rfl | ⟨above, last, rfl⟩ := List.eq_nil_or_concat' here
      · exact hdirectory
      · rw [List.dropLast_concat]
        exact nodeAt?_of_below (List.cons_ne_nil last []) (by rw [hdirectory]; rfl)
    have hup : tree.locate (directory.child "..") = .ok (.found here.dropLast) := by
      rw [Path.child_of_isStep hstep]
      refine locate_eq_ok_iff.2 ⟨?_, hleads.concat ".."⟩
      exact hasNull_eq_false_iff.2 (List.forall_mem_append.2 ⟨hasNull_eq_false_iff.1 hnull, by decide⟩)
    rw [updateFile_of_directory hup habove] at h
    cases h
  · rw [hchild, updateFile_of_directory hlocate hdirectory] at h
    cases h

theorem isStep_of_writeFiles (hplain : ∀ file ∈ files, '/' ∉ file.1.toList)
    (hlocate : tree.locate directory = .ok (.found here)) (hdirectory : tree.nodeAt? here = some .directory)
    (h : (writeFiles directory tree files).result = .ok written) :
    ∀ file ∈ files, Path.IsStep file.1 ∧ file.1 ≠ ".." := by
  induction files generalizing tree written with
  | nil => simp
  | cons file rest ih =>
    obtain ⟨hfile, hplain⟩ := List.forall_mem_cons.1 hplain
    obtain ⟨next, changed, others, hupdated, hothers, -⟩ := exists_next_of_writeFiles h
    have hsteps : Steps directory [file] tree next := steps_of_updateFile (List.mem_singleton_self _) hupdated
    have hgrows := hsteps.alteration.grows
    exact List.forall_mem_cons.2 ⟨isStep_of_updateFile hfile hlocate hdirectory hupdated,
      ih hplain (hgrows.locate_found hlocate) (hgrows.directory here hdirectory) hothers⟩

/-- The place of a step into a directory is in the place of the directory. -/
theorem placeOf_of_isStep (hstep : Path.IsStep name) (hup : name ≠ "..") (directory : Path) :
    placeOf directory name = Path.collapse [] directory.parts ++ [name] := by
  rw [placeOf, Path.child_of_isStep hstep, Path.collapse_append, Path.collapse_of_notMem (by simpa using hup.symm)]

theorem haveOwnPlaces_of_isStep (hsteps : ∀ file ∈ files, Path.IsStep file.1 ∧ file.1 ≠ "..")
    (hnd : (files.map (·.1)).Nodup) : HaveOwnPlaces directory files := by
  have hplaces : files.map (fun file => placeOf directory file.1) =
      (files.map (·.1)).map fun name => Path.collapse [] directory.parts ++ [name] := by
    rw [List.map_map]
    exact List.map_congr_left fun file hfile => placeOf_of_isStep (hsteps file hfile).1 (hsteps file hfile).2 directory
  rw [HaveOwnPlaces, hplaces]
  exact hnd.map fun a b hab => by simpa using hab

/-! ### Bytes and texts -/

/-- Whether the bytes in the place of a file are those of its text. -/
def IsExact (tree : Entry) (directory : Path) (file : String × String) : Prop :=
  tree.nodeAt? (placeOf directory file.1) = some (.file (Text.encode file.2))

instance (tree : Entry) (directory : Path) (file : String × String) : Decidable (IsExact tree directory file) :=
  inferInstanceAs (Decidable (_ = _))

/-- Whether the bytes in the place of a file are those of a text with a carriage return, which is the text of the file or
differs from it by the spelling of newlines only. -/
def IsMistaken (tree : Entry) (directory : Path) (file : String × String) : Prop :=
  ∃ old : String, tree.nodeAt? (placeOf directory file.1) = some (.file (Text.encode old)) ∧ '\r' ∈ old.toList ∧
    (old = file.2 ∨ Text.normalizeBreaks old.toList = file.2.toList)

theorem isRead_iff_encode : isRead tree directory file = true ↔
    ∃ old : String, tree.nodeAt? (placeOf directory file.1) = some (.file (Text.encode old)) ∧
      Text.normalizeBreaks old.toList = file.2.toList := by
  simp only [isRead_iff, textOfBytes_eq_ok_iff]
  constructor
  · rintro ⟨_, hfile, old, rfl, htext⟩
    exact ⟨old, hfile, htext.symm⟩
  · rintro ⟨old, hfile, htext⟩
    exact ⟨_, hfile, old, rfl, htext.symm⟩

theorem encode_injective {s t : String} (h : Text.encode s = Text.encode t) : s = t := by
  have hs := Text.decode_encode s
  rw [h, Text.decode_encode] at hs
  exact (Except.ok.inj hs).symm

/-- Reading tells whether bytes are those of a text, unless they are mistaken. -/
theorem isRead_iff_isExact_iff :
    (isRead tree directory file = true ↔ IsExact tree directory file) ↔ ¬IsMistaken tree directory file := by
  rw [isRead_iff_encode]
  constructor
  · rintro hiff ⟨old, hold, hbreak, rfl | htext⟩
    · obtain ⟨old, -, htext⟩ := hiff.2 hold
      exact Text.notMem_normalizeBreaks old.toList (htext ▸ hbreak)
    · have hexact : IsExact tree directory file := hiff.1 ⟨old, hold, htext⟩
      rw [IsExact, hold] at hexact
      obtain rfl : old = file.2 := encode_injective (by simpa using hexact)
      exact Text.notMem_normalizeBreaks _ (htext ▸ hbreak)
  · intro hmistaken
    constructor
    · rintro ⟨old, hold, htext⟩
      have hbreak : '\r' ∉ old.toList := fun hbreak => hmistaken ⟨old, hold, hbreak, .inr htext⟩
      rw [Text.normalizeBreaks_of_not_mem hbreak, String.toList_inj] at htext
      rwa [IsExact, ← htext]
    · intro hexact
      have hbreak : '\r' ∉ file.2.toList := fun hbreak => hmistaken ⟨file.2, hexact, hbreak, .inl rfl⟩
      exact ⟨file.2, hexact, Text.normalizeBreaks_of_not_mem hbreak⟩

/-! ### Whole runs -/

/-- Making a directory leaves every place as it is but those on the way to it that were free. -/
theorem nodeAt?_of_ensureDirectories {made : Entry} {fault? : Option FileFault}
    (h : tree.ensureDirectories directory = (made, fault?)) (place : List String) :
    made.nodeAt? place = tree.nodeAt? place ∨ tree.nodeAt? place = none ∧ Makes directory made place := by
  have hsteps : Steps directory [] tree (tree.ensureDirectories directory).1 :=
    steps_ensureDirectoriesFrom [] tree _ (by simp)
  rw [h] at hsteps
  obtain hsame | ⟨_, _, hmem, -, -, -⟩ | hmade := hsteps.alteration.place place
  · exact .inl hsame
  · cases hmem
  · exact .inr hmade

theorem isRead_of_ensureDirectories {made : Entry} {fault? : Option FileFault}
    (h : tree.ensureDirectories directory = (made, fault?)) (file : String × String) :
    isRead made directory file = isRead tree directory file := by
  obtain hsame | ⟨hfree, ⟨_, -, -, hdirectory⟩⟩ := nodeAt?_of_ensureDirectories h (placeOf directory file.1)
  · exact isRead_congr hsame
  · rw [isRead, isRead, hdirectory, hfree]

/-- What has become of a tree, and what is told, where files have been written: those that were not read as their texts
are set, in their directory, and nothing else has changed but for directories that were made. -/
structure IsCompleted (tree : Entry) (directory : Path) (files : Sources) (after : Entry)
    (written : List WrittenFile) : Prop where
  folds : after = (files.filter (!isRead tree directory ·)).foldl (setFile directory) (tree.ensureDirectories directory).1
  reported : written = files.map fun file => ⟨directory.child file.1, !isRead tree directory file⟩
  set : ∀ file ∈ files, isRead tree directory file = false → IsExact after directory file
  kept : ∀ file ∈ files, isRead tree directory file = true →
    after.nodeAt? (placeOf directory file.1) = tree.nodeAt? (placeOf directory file.1)
  untouched : ∀ place, after.nodeAt? place = tree.nodeAt? place ∨
    (∃ file ∈ files, isRead tree directory file = false ∧ place = placeOf directory file.1) ∨
    tree.nodeAt? place = none ∧ Makes directory after place

theorem isCompleted_of_writeFiles {made : Entry} (hensured : tree.ensureDirectories directory = (made, none))
    (hdistinct : HaveOwnPlaces directory files) (h : (writeFiles directory made files).result = .ok written) :
    IsCompleted tree directory files (writeFiles directory made files).tree written := by
  have hgrows : made.Grows (writeFiles directory made files).tree :=
    (steps_writeFiles (List.Subset.refl files) directory made).alteration.grows
  obtain ⟨htree, hwritten, hrewritten⟩ := writeFiles_ok hdistinct h
  simp only [isRead_of_ensureDirectories hensured] at htree hwritten
  refine ⟨by rw [htree, hensured], hwritten, fun file hmem hread => ?_, fun file hmem hread => ?_, fun place => ?_⟩
  · exact hrewritten.set file hmem ((isRead_of_ensureDirectories hensured file).trans hread)
  · rw [hrewritten.kept hdistinct hmem ((isRead_of_ensureDirectories hensured file).trans hread)]
    obtain hsame | ⟨hfree, -⟩ := nodeAt?_of_ensureDirectories hensured (placeOf directory file.1)
    · exact hsame
    · rw [isRead, hfree] at hread
      cases hread
  · by_cases hchanged : ∃ file ∈ files, isRead tree directory file = false ∧ place = placeOf directory file.1
    · exact .inr (.inl hchanged)
    · have hsame := hrewritten.same place fun file hmem hread heq =>
        hchanged ⟨file, hmem, (isRead_of_ensureDirectories hensured file).symm.trans hread, heq⟩
      rw [hsame]
      refine (nodeAt?_of_ensureDirectories hensured place).imp_right ?_
      rintro ⟨hfree, hmade⟩
      exact .inr ⟨hfree, hmade.mono hgrows⟩

/-- Plain names that have been written are completed. -/
theorem isCompleted_of_write (hplain : ∀ file ∈ files, '/' ∉ file.1.toList) (hnd : (files.map (·.1)).Nodup)
    (h : (write tree directory files).result = .ok written) :
    IsCompleted tree directory files (write tree directory files).tree written := by
  obtain ⟨made, hensured⟩ := exists_ensured_of_write h
  rw [write_of_ensured hensured] at h ⊢
  obtain ⟨here, hlocate, hdirectory⟩ := found_of_ensureDirectories hensured
  have hsteps := isStep_of_writeFiles hplain hlocate hdirectory h
  exact isCompleted_of_writeFiles hensured (haveOwnPlaces_of_isStep hsteps hnd) h

/-- Whether what is told about files, and what has become of a tree, is so: every file has the bytes of its text, those
that had them are told to be unchanged, and nothing else has changed but for directories that were made. -/
structure IsFaithful (tree : Entry) (directory : Path) (files : Sources) (after : Entry)
    (written : List WrittenFile) : Prop where
  exact : ∀ file ∈ files, IsExact after directory file
  reported : written = files.map fun file => ⟨directory.child file.1, !decide (IsExact tree directory file)⟩
  untouched : ∀ place, after.nodeAt? place = tree.nodeAt? place ∨
    (∃ file ∈ files, ¬IsExact tree directory file ∧ place = placeOf directory file.1) ∨
    tree.nodeAt? place = none ∧ Makes directory after place

/-- A write is faithful exactly if reading tells which files have the bytes of their texts. -/
theorem IsCompleted.isFaithful_iff {after : Entry} (h : IsCompleted tree directory files after written) :
    IsFaithful tree directory files after written ↔
      ∀ file ∈ files, (isRead tree directory file = true ↔ IsExact tree directory file) := by
  constructor
  · intro hfaithful file hmem
    constructor
    · intro hread
      rw [IsExact, ← h.kept file hmem hread]
      exact hfaithful.exact file hmem
    · intro hexact
      have hreport := List.map_inj_left.1 (h.reported.symm.trans hfaithful.reported) file hmem
      simpa [hexact] using hreport
  · intro hread
    have hchanged : ∀ file ∈ files, isRead tree directory file = false ↔ ¬IsExact tree directory file :=
      fun file hmem => by rw [← hread file hmem, Bool.not_eq_true]
    refine ⟨fun file hmem => ?_, ?_, fun place => ?_⟩
    · by_cases hexact : IsExact tree directory file
      · rw [IsExact, h.kept file hmem ((hread file hmem).2 hexact)]
        exact hexact
      · exact h.set file hmem ((hchanged file hmem).2 hexact)
    · rw [h.reported]
      refine List.map_congr_left fun file hmem => ?_
      rw [show isRead tree directory file = decide (IsExact tree directory file) from
        Bool.eq_iff_iff.2 ((hread file hmem).trans decide_eq_true_iff.symm)]
    · refine (h.untouched place).imp_right (Or.imp_left ?_)
      rintro ⟨file, hmem, hread', hplace⟩
      exact ⟨file, hmem, (hchanged file hmem).1 hread', hplace⟩

/-- Whether files that are written again are all found unchanged, and none of them differs. -/
def IsSettled (tree : Entry) (directory : Path) (files : Sources) : Prop :=
  (∃ again, (write tree directory files).result = .ok again ∧ ∀ file ∈ again, file.changed = false) ∧
    diff tree directory files = .ok []

/-- Files that have been written are settled exactly if none of their texts has a carriage return, as reading makes a line
feed of it. -/
theorem isSettled_write_iff (hplain : ∀ file ∈ files, '/' ∉ file.1.toList) (hnd : (files.map (·.1)).Nodup)
    (h : (write tree directory files).result = .ok written) :
    IsSettled (write tree directory files).tree directory files ↔ ∀ file ∈ files, '\r' ∉ file.2.toList := by
  constructor
  · rintro ⟨⟨again, hagain, hunchanged⟩, -⟩ file hmem
    have hcompleted := isCompleted_of_write hplain hnd hagain
    have hread : isRead (write tree directory files).tree directory file = true := by
      have hreport := hunchanged ⟨directory.child file.1, _⟩ (hcompleted.reported ▸ List.mem_map_of_mem hmem)
      simpa using hreport
    obtain ⟨old, -, htext⟩ := isRead_iff_encode.1 hread
    exact htext ▸ Text.notMem_normalizeBreaks old.toList
  · intro hbreaks
    obtain ⟨made, hensured⟩ := exists_ensured_of_write h
    obtain ⟨here, hlocate, hdirectory⟩ := found_of_ensureDirectories hensured
    have hsteps := isStep_of_writeFiles hplain hlocate hdirectory (write_of_ensured hensured ▸ h)
    exact write_again (fun file hmem => (hsteps file hmem).1) hnd hbreaks h

/-- A write of plain names that ends well sets the files that are not read as their texts.  It does what it tells exactly
if no file is mistaken for its text by the spelling of its newlines, and it is settled exactly if no text has a carriage
return. -/
theorem isFaithful_write_iff (hplain : ∀ file ∈ files, '/' ∉ file.1.toList) (hnd : (files.map (·.1)).Nodup)
    (h : (write tree directory files).result = .ok written) :
    IsCompleted tree directory files (write tree directory files).tree written ∧
      (IsFaithful tree directory files (write tree directory files).tree written ↔
        ∀ file ∈ files, ¬IsMistaken tree directory file) ∧
      (IsSettled (write tree directory files).tree directory files ↔ ∀ file ∈ files, '\r' ∉ file.2.toList) := by
  have hcompleted := isCompleted_of_write hplain hnd h
  refine ⟨hcompleted, ?_, isSettled_write_iff hplain hnd h⟩
  rw [hcompleted.isFaithful_iff]
  exact forall₂_congr fun file _ => isRead_iff_isExact_iff

/-- A package with a file that has given bytes. -/
def packageTree (text : String) : Entry := .directory [("pkg", .directory [("a.py", .file (Text.encode text))])]

/-- The directory of that package. -/
def packagePath : Path := ⟨"/", ["pkg"]⟩

theorem isFaithful_write_iff_package :
    let tree := packageTree "a\n"
    let files : Sources := [("a.py", "a\n"), ("b.py", "b\n")]
    let written : List WrittenFile := [⟨packagePath.child "a.py", false⟩, ⟨packagePath.child "b.py", true⟩]
    (∀ file ∈ files, '/' ∉ file.1.toList) ∧ (files.map (·.1)).Nodup ∧
      (write tree packagePath files).result = .ok written ∧
      IsCompleted tree packagePath files (write tree packagePath files).tree written ∧
      (IsFaithful tree packagePath files (write tree packagePath files).tree written ↔
        ∀ file ∈ files, ¬IsMistaken tree packagePath file) ∧
      (IsSettled (write tree packagePath files).tree packagePath files ↔ ∀ file ∈ files, '\r' ∉ file.2.toList) := by
  intro tree files written
  have hplain : ∀ file ∈ files, '/' ∉ file.1.toList := by decide
  have hnd : (files.map (·.1)).Nodup := by decide
  have hwritten : (write tree packagePath files).result = .ok written := by decide +kernel
  exact ⟨hplain, hnd, hwritten, isFaithful_write_iff hplain hnd hwritten⟩

/-- A write may leave other bytes than those of a text, and a second write may write a file again: what is there is read
with every newline as a line feed, and what is written keeps its newlines. -/
theorem exists_mistaken :
    (¬∀ (tree : Entry) (directory : Path) (files : Sources) (written : List WrittenFile),
      (∀ file ∈ files, '/' ∉ file.1.toList) → (files.map (·.1)).Nodup →
      (write tree directory files).result = .ok written →
      IsFaithful tree directory files (write tree directory files).tree written) ∧
    ¬∀ (tree : Entry) (directory : Path) (files : Sources) (written : List WrittenFile),
      (∀ file ∈ files, '/' ∉ file.1.toList) → (files.map (·.1)).Nodup →
      (write tree directory files).result = .ok written →
      IsSettled (write tree directory files).tree directory files := by
  constructor
  · intro hall
    have hwritten : (write (packageTree "a\r\n") packagePath [("a.py", "a\n")]).result =
        .ok [⟨packagePath.child "a.py", false⟩] := by
      decide +kernel
    have hexact := (hall _ _ _ _ (by decide) (by decide) hwritten).exact ("a.py", "a\n") (by decide)
    revert hexact
    decide +kernel
  · intro hall
    have hwritten : (write (packageTree "a\n") packagePath [("b.py", "b\r\n")]).result =
        .ok [⟨packagePath.child "b.py", true⟩] := by
      decide +kernel
    have hsettled := hall _ _ _ _ (by decide) (by decide) hwritten
    exact absurd ((isSettled_write_iff (by decide) (by decide) hwritten).1 hsettled) (by decide)

end Output

end NavFactory
