import NavFactory.Proofs.Changes
import NavFactory.Proofs.ImportNames

/-!
# Files that are brought up to date

In a directory that is there, a file is brought up to date exactly if what stands in its place can be read
(`Output.Ready.updateFile`).  Of the names that are tried for a temporary file one is free, since they are all
different; it fits, since eight digits are enough.  The other files of the directory keep their texts.
-/

namespace NavFactory

open Entry

variable {tree tree' : Entry} {place here parts : List String} {name text : String} {directory path p : Path}
  {contents : List UInt8} {room : Nat}

/-! ### Temporary names -/

/-- The number of a temporary file in its name. -/
private def digitsOf (n : Nat) : String :=
  String.ofList (List.replicate (8 - (toString n).length) '0') ++ toString n

private theorem temporaryName_eq (name : String) (n : Nat) :
    temporaryName name n = "." ++ name ++ "." ++ digitsOf n ++ ".tmp" := by
  simp only [temporaryName, digitsOf, String.append_assoc]

private theorem ofDigitChars_digitsOf (n : Nat) : Nat.ofDigitChars 10 (digitsOf n).toList 0 = n := by
  rw [digitsOf, String.toList_append, Nat.ofDigitChars_append, String.toList_ofList, Nat.ofDigitChars_replicate_zero,
    Nat.mul_zero, Nat.toString_eq_ofList_toDigits, String.toList_ofList, Nat.ofDigitChars_ten_toDigits]

/-- The names of temporary files are all different. -/
theorem Entry.temporaryName_injective (name : String) : Function.Injective (temporaryName name) := by
  intro m n h
  rw [temporaryName_eq, temporaryName_eq, String.append_left_inj, String.append_right_inj] at h
  rw [← ofDigitChars_digitsOf m, h, ofDigitChars_digitsOf]

private theorem isDigit_of_mem_digitsOf {n : Nat} {c : Char} (h : c ∈ (digitsOf n).toList) : c.isDigit = true := by
  rw [digitsOf, String.toList_append, List.mem_append, String.toList_ofList, Nat.toString_eq_ofList_toDigits,
    String.toList_ofList] at h
  obtain h | h := h
  · rw [List.eq_of_mem_replicate h]
    rfl
  · exact Nat.isDigit_of_mem_toDigits (by decide) (by decide) h

private theorem utf8Len_of_isDigit {cs : List Char} (h : ∀ c ∈ cs, c.isDigit = true) :
    String.utf8Len cs = cs.length := by
  induction cs with
  | nil => rfl
  | cons c cs ih =>
    have hc : c.utf8Size = 1 := by
      have := h c List.mem_cons_self
      rw [Char.utf8Size_eq_one_iff]
      simp only [Char.isDigit, Bool.and_eq_true, decide_eq_true_eq] at this
      exact UInt32.le_trans this.2 (by decide)
    simp [hc, ih fun c' hc' => h c' (List.mem_cons_of_mem _ hc')]

private theorem utf8ByteSize_digitsOf (n : Nat) : (digitsOf n).utf8ByteSize = max 8 (Nat.toDigits 10 n).length := by
  have hlength : (toString n).length = (Nat.toDigits 10 n).length := by
    rw [Nat.toString_eq_ofList_toDigits, String.length_ofList]
  rw [← String.ofList_toList (s := digitsOf n), String.utf8ByteSize_ofList,
    utf8Len_of_isDigit fun _ => isDigit_of_mem_digitsOf, digitsOf, String.toList_append, List.length_append,
    String.toList_ofList, List.length_replicate, String.length_toList, hlength]
  omega

private theorem utf8ByteSize_temporaryName_eq (name : String) (n : Nat) :
    (temporaryName name n).utf8ByteSize = name.utf8ByteSize + 6 + max 8 (Nat.toDigits 10 n).length := by
  rw [temporaryName_eq, String.utf8ByteSize_append, String.utf8ByteSize_append, String.utf8ByteSize_append,
    String.utf8ByteSize_append, utf8ByteSize_digitsOf]
  have hdot : ".".utf8ByteSize = 1 := rfl
  have hsuffix : ".tmp".utf8ByteSize = 4 := rfl
  omega

theorem Entry.utf8ByteSize_temporaryName {n : Nat} (h : n < 10 ^ 8) (name : String) :
    (temporaryName name n).utf8ByteSize = name.utf8ByteSize + 14 := by
  have hlength : (Nat.toDigits 10 n).length ≤ 8 := (Nat.length_toDigits_le_iff (by decide) (by decide)).2 h
  rw [utf8ByteSize_temporaryName_eq]
  omega

/-- A later temporary name is not shorter. -/
theorem Entry.utf8ByteSize_temporaryName_mono {m n : Nat} (h : m ≤ n) (name : String) :
    (temporaryName name m).utf8ByteSize ≤ (temporaryName name n).utf8ByteSize := by
  have hdigits : 0 < (Nat.toDigits 10 n).length := Nat.length_toDigits_pos
  have hlength : (Nat.toDigits 10 m).length ≤ (Nat.toDigits 10 n).length :=
    (Nat.length_toDigits_le_iff (by decide) hdigits).2
      (Nat.lt_of_le_of_lt h ((Nat.length_toDigits_le_iff (by decide) hdigits).1 le_rfl))
  rw [utf8ByteSize_temporaryName_eq, utf8ByteSize_temporaryName_eq]
  omega

theorem Entry.null_notMem_temporaryName (h : '\x00' ∉ name.toList) (n : Nat) :
    '\x00' ∉ (temporaryName name n).toList := by
  rw [temporaryName_eq]
  simp only [String.toList_append, List.mem_append, not_or]
  refine ⟨⟨⟨⟨by decide, h⟩, by decide⟩, fun hmem => ?_⟩, by decide⟩
  have := isDigit_of_mem_digitsOf hmem
  revert this
  decide

theorem Entry.temporaryName_ne_parent (name : String) (n : Nat) : temporaryName name n ≠ ".." := by
  intro h
  have := congrArg String.length h
  rw [temporaryName_eq] at this
  simp only [String.length_append] at this
  have hsuffix : ".tmp".length = 4 := rfl
  have hup : "..".length = 2 := rfl
  omega

/-! ### Reading -/

/-- The bytes of a file are those at the place that its path leads to. -/
theorem Entry.readBytes_eq (tree : Entry) (p : Path) : tree.readBytes p = match tree.locate p with
    | .error f => .error f
    | .ok (.free ..) => .error ⟨.missing, p⟩
    | .ok (.found place) => match tree.nodeAt? place with
      | some (.file contents) => .ok contents
      | some .directory => .error ⟨.isDirectory, p⟩
      | none => .error ⟨.missing, p⟩ := by
  rw [readBytes, find]
  cases tree.locate p with
  | error f => rfl
  | ok found =>
    cases found with
    | free above name => rfl
    | found place =>
      simp only [bind, Except.bind, nodeAt?]
      cases tree.at? place with
      | none => rfl
      | some d => cases d <;> rfl

/-- A file whose bytes are had stands where its path leads. -/
theorem Entry.found_of_readBytes (h : tree.readBytes p = .ok contents) :
    ∃ place, tree.locate p = .ok (.found place) ∧ tree.nodeAt? place = some (.file contents) := by
  rw [readBytes_eq] at h
  cases hlocate : tree.locate p with
  | error f =>
    rw [hlocate] at h
    cases h
  | ok found =>
    rw [hlocate] at h
    cases found with
    | free above name => cases h
    | found place =>
      refine ⟨place, rfl, ?_⟩
      dsimp only at h
      split at h
      · rename_i hnode
        cases h
        exact hnode
      · cases h
      · cases h

theorem Entry.SameAt.readBytes (h : tree.SameAt tree' p) : tree'.readBytes p = tree.readBytes p := by
  rw [readBytes_eq, readBytes_eq, h.locate]
  cases hfound : tree.locate p with
  | error f => rfl
  | ok found =>
    cases found with
    | free above name => rfl
    | found place => simp only [h.node place hfound]

theorem Entry.SameAt.readText (h : tree.SameAt tree' p) : tree'.readText p = tree.readText p := by
  rw [Entry.readText, Entry.readText, h.readBytes]

theorem Entry.SameAt.currentText (h : tree.SameAt tree' p) : Output.currentText tree' p = Output.currentText tree p := by
  rw [Output.currentText, Output.currentText, h.readText]

/-! ### Directories that are ready -/

/-- A name that a file can have beside a temporary one. -/
structure Output.IsFileName (name : String) : Prop where
  step : Path.IsStep name
  ne_parent : name ≠ ".."
  fits : name.utf8ByteSize + 14 ≤ maxNameLength
  null : '\x00' ∉ name.toList

/-- How many entries the directory at a place has. -/
def Entry.countAt (tree : Entry) (here : List String) : Nat :=
  match tree.at? here with
  | some d => d.entries.length
  | none => 0

/-- A directory that is there and has room for more files. -/
structure Output.Ready (tree : Entry) (directory : Path) (here : List String) (room : Nat) : Prop where
  null : ∀ part ∈ directory.parts, '\x00' ∉ part.toList
  leads : tree.Leads directory.parts here
  room : tree.countAt here + room ≤ 10 ^ 8

namespace Output

/-- A file of a directory is found in it, or its name is free there. -/
theorem IsFileName.locate (hname : IsFileName name) (hleads : tree.Leads directory.parts here)
    (hnull : ∀ part ∈ directory.parts, '\x00' ∉ part.toList) : tree.locate (directory.child name) =
      .ok (if (tree.nodeAt? (here ++ [name])).isSome then .found (here ++ [name]) else .free here name) := by
  have hfits := hname.fits
  refine hleads.locate (by rw [Path.child_of_isStep hname.step]) ?_ hname.ne_parent (by omega)
  rw [Path.child_of_isStep hname.step]
  exact List.forall_mem_append.2 ⟨hnull, by simpa using hname.null⟩

theorem Ready.locate (hready : Ready tree directory here room) (hname : IsFileName name) :
    tree.locate (directory.child name) =
      .ok (if (tree.nodeAt? (here ++ [name])).isSome then .found (here ++ [name]) else .free here name) :=
  hname.locate hready.leads hready.null

/-- The other files of a directory keep their texts when one is set. -/
theorem Ready.currentText_put {other : String} (hready : Ready tree directory here room) (hother : IsFileName other)
    (hne : other ≠ name) (hold : tree.nodeAt? (here ++ [name]) ≠ some .directory)
    (hready' : Ready (tree.put (here ++ [name]) (.file contents)) directory here room) :
    currentText (tree.put (here ++ [name]) (.file contents)) (directory.child other) =
      currentText tree (directory.child other) := by
  have hnode := nodeAt?_put_file (.of_append hready.leads.directory name) hold contents
  have hsame : (tree.put (here ++ [name]) (.file contents)).nodeAt? (here ++ [other]) =
      tree.nodeAt? (here ++ [other]) := by
    rw [hnode, if_neg (by simpa using hne)]
  refine SameAt.currentText ⟨?_, fun place hplace => ?_⟩
  · rw [hready.locate hother, hready'.locate hother, hsame]
  · rw [hready.locate hother] at hplace
    split_ifs at hplace
    · cases hplace
      exact hsame
    · cases hplace

theorem Ready.fewer (hready : Ready tree directory here (room + 1)) : Ready tree directory here room :=
  ⟨hready.null, hready.leads, Nat.le_trans (Nat.le_succ _) hready.room⟩

/-- Setting a file leaves a directory ready for one file less. -/
theorem Ready.put (hready : Ready tree directory here (room + 1)) (name : String)
    (hold : tree.nodeAt? (here ++ [name]) ≠ some .directory) (contents : List UInt8) :
    Ready (tree.put (here ++ [name]) (.file contents)) directory here room := by
  have hplace : tree.HasPlace (here ++ [name]) := .of_append hready.leads.directory name
  refine ⟨hready.null, (grows_put_file hplace hold contents).leads hready.leads, ?_⟩
  obtain ⟨entries, hentries⟩ := nodeAt?_eq_directory_iff.1 hready.leads.directory
  have hroom := hready.room
  have hlength := length_setEntry_le name (.file contents) entries
  rw [countAt, hentries] at hroom
  rw [countAt, at?_put_concat hentries]
  simp only [Entry.entries] at hroom ⊢
  omega

/-! ### Writing a file -/

theorem entryCount_of_leads {folder : Path} (hleads : tree.Leads folder.parts here)
    (hfolder : ∀ part ∈ folder.parts, '\x00' ∉ part.toList) : tree.entryCount folder = tree.countAt here := by
  obtain ⟨entries, hentries⟩ := nodeAt?_eq_directory_iff.1 hleads.directory
  rw [entryCount, find, locate_eq_ok_iff.2 ⟨hasNull_eq_false_iff.2 hfolder, hleads.located⟩, countAt, hentries]
  simp only [bind, Except.bind, hentries]

/-- There are more temporary names than entries of a directory. -/
theorem exists_free_temporary (hdirectory : tree.nodeAt? here = some .directory) (name : String) :
    ∃ n ≤ tree.countAt here, tree.nodeAt? (here ++ [temporaryName name n]) = none := by
  obtain ⟨entries, hentries⟩ := nodeAt?_eq_directory_iff.1 hdirectory
  obtain ⟨n, hn, hnotMem⟩ := exists_free (temporaryName_injective name) (entries.map (·.1))
  refine ⟨n, by simpa [countAt, hentries, Entry.entries] using hn, ?_⟩
  rw [nodeAt?_eq_none_iff, at?_append, hentries, Option.bind_some, at?_cons, child?, Entry.entries,
    List.lookup_eq_none_iff.2 fun entry hentry => ?_]
  · rfl
  · rw [bne_iff_ne]
    intro heq
    exact hnotMem (heq ▸ List.mem_map_of_mem hentry)

section Temporary

variable {folder : Path} (hleads : tree.Leads folder.parts here)
  (hfolder : ∀ part ∈ folder.parts, '\x00' ∉ part.toList) (hname : '\x00' ∉ name.toList)

include hleads hfolder hname

private theorem createFile_temporary {n : Nat} (hfits : (temporaryName name n).utf8ByteSize ≤ maxNameLength)
    (contents : List UInt8) : tree.createFile (folder / ⟨"", [temporaryName name n]⟩) contents =
      if (tree.nodeAt? (here ++ [temporaryName name n])).isSome then
        .error ⟨.occupied, folder / ⟨"", [temporaryName name n]⟩⟩
      else .ok (tree.put (here ++ [temporaryName name n]) (.file contents)) := by
  rw [createFile, Path.join_relative _ _ rfl, hleads.locate rfl
    (List.forall_mem_append.2 ⟨hfolder, by simpa using null_notMem_temporaryName hname n⟩)
    (temporaryName_ne_parent name n) hfits]
  split_ifs <;> rfl

/-- A temporary file is made if one of the names that are tried is free and not too long. -/
theorem createTemporary_ok (contents : List UInt8) {fuel n k : Nat} (hk : k ≤ fuel)
    (hfits : (temporaryName name (n + k)).utf8ByteSize ≤ maxNameLength)
    (hfree : tree.nodeAt? (here ++ [temporaryName name (n + k)]) = none) :
    ∃ temporary tree', tree.createTemporary folder name contents fuel n = .ok (temporary, tree') := by
  have hfirst : (temporaryName name n).utf8ByteSize ≤ maxNameLength :=
    (utf8ByteSize_temporaryName_mono (Nat.le_add_right n k) name).trans hfits
  have hcreate := createFile_temporary hleads hfolder hname hfirst contents
  induction fuel generalizing n k with
  | zero =>
    obtain rfl := Nat.le_zero.1 hk
    rw [createTemporary, hcreate, if_neg (by simp [show tree.nodeAt? (here ++ [temporaryName name n]) = none from hfree])]
    exact ⟨_, _, rfl⟩
  | succ fuel ih =>
    rw [createTemporary, hcreate]
    split_ifs with hthere
    · cases k with
      | zero => simp [show tree.nodeAt? (here ++ [temporaryName name n]) = none from hfree] at hthere
      | succ k =>
        rw [Nat.add_comm k 1, ← Nat.add_assoc] at hfits hfree
        have hnext : (temporaryName name (n + 1)).utf8ByteSize ≤ maxNameLength :=
          (utf8ByteSize_temporaryName_mono (Nat.le_add_right (n + 1) k) name).trans hfits
        exact ih (Nat.le_of_succ_le_succ hk) hfits hfree hnext (createFile_temporary hleads hfolder hname hnext contents)
    · exact ⟨_, _, rfl⟩

end Temporary

/-- A temporary file can be moved to a name where no directory stands. -/
private theorem moveFile_ok {temporary : Path} (htemporary : tree.locate temporary = .ok (.found place))
    (hfile : tree.nodeAt? place = some (.file contents)) (hleads : tree.Leads directory.parts here)
    (hnull : ∀ part ∈ directory.parts, '\x00' ∉ part.toList) (hname : IsFileName name)
    (hold : tree.nodeAt? (here ++ [name]) ≠ some .directory) :
    ∃ tree', tree.moveFile temporary (directory.child name) = .ok tree' := by
  rw [moveFile, htemporary]
  simp only [bind, Except.bind, nodeAt?_eq_file_iff.1 hfile, hname.locate hleads hnull]
  by_cases hthere : (tree.nodeAt? (here ++ [name])).isSome
  · simp only [if_pos hthere]
    cases hat : tree.at? (here ++ [name]) with
    | none => simp [nodeAt?, hat] at hthere
    | some d =>
      cases d with
      | file old => exact ⟨_, rfl⟩
      | directory entries => exact absurd (nodeAt?_eq_directory_iff.2 ⟨entries, hat⟩) hold
  · simp only [if_neg hthere]
    exact ⟨_, rfl⟩

/-- In a directory that is ready a file can be replaced. -/
private theorem replaceFile_ok (hready : Ready tree directory here (room + 1)) (hname : IsFileName name)
    (hold : tree.nodeAt? (here ++ [name]) ≠ some .directory) (text : String) :
    ∃ tree', replaceFile tree (directory.child name) text = .ok tree' := by
  obtain ⟨hself, -, hsub⟩ := hready.leads.self
  have hchild := Path.child_of_isStep hname.step directory
  have hfolder : temporaryDirectory (directory.child name) = ⟨directory.root, here⟩ := by
    rw [temporaryDirectory, Path.parent, hchild, List.dropLast_concat, collapse_of_found hready.leads.located]
  have hlast : (directory.child name).name = name := by
    rw [Path.name, hchild, List.getLastD_concat]
  have hnull : ∀ part ∈ here, '\x00' ∉ part.toList := fun part hpart => hready.null part (hsub hpart)
  have hcount : tree.entryCount ⟨directory.root, here⟩ = tree.countAt here := entryCount_of_leads hself hnull
  have hroom := hready.room
  obtain ⟨k, hk, hfree⟩ := exists_free_temporary hready.leads.directory name
  have hfits : (temporaryName name (0 + k)).utf8ByteSize ≤ maxNameLength := by
    rw [Nat.zero_add, utf8ByteSize_temporaryName (by omega)]
    exact hname.fits
  have hcreated : ∃ temporary written, tree.createTemporary ⟨directory.root, here⟩ name (Text.encode text)
      (tree.countAt here) 0 = .ok (temporary, written) :=
    createTemporary_ok hself hnull hname.null _ hk hfits (by rwa [Nat.zero_add])
  obtain ⟨temporary, written, hcreated⟩ := hcreated
  rw [replaceFile, hfolder, hlast, hcount, hcreated]
  obtain ⟨above, last, hlocate, rfl⟩ := exists_free_of_createFile (createFile_of_createTemporary hcreated)
  obtain ⟨hplace, hplaceFree⟩ := hasPlace_of_free hlocate
  have hgrows := grows_put_file hplace (by simp [hplaceFree]) (Text.encode text)
  have hnode := nodeAt?_put_file hplace (by simp [hplaceFree]) (Text.encode text)
  have hmade : (tree.put (above ++ [last]) (.file (Text.encode text))).nodeAt? (above ++ [last]) =
      some (.file (Text.encode text)) := by
    rw [hnode, if_pos rfl]
  have hmoved := moveFile_ok (hgrows.locate_free hlocate (by rw [hmade]; rfl)) hmade (hgrows.leads hready.leads)
    hready.null hname (by rw [hnode]; split_ifs <;> simp [hold])
  obtain ⟨tree', hmoved⟩ := hmoved
  exact ⟨tree', by simp only [hmoved]⟩

/-- Where a directory stands no text can be read. -/
theorem currentText_of_directory (hlocate : tree.locate p = .ok (.found here))
    (hdirectory : tree.nodeAt? here = some .directory) :
    currentText tree p = .error (.unreadable p (.file ⟨.isDirectory, p⟩)) := by
  have hbytes : tree.readBytes p = .error ⟨.isDirectory, p⟩ := by
    rw [readBytes_eq, hlocate]
    simp only [hdirectory]
  rw [currentText, readText, hbytes]
  rfl

/-- What stands in the place of a file whose text is known is no directory. -/
private theorem ne_directory_of_currentText (hready : Ready tree directory here room) (hname : IsFileName name)
    {current : Option String} (h : currentText tree (directory.child name) = .ok current) :
    tree.nodeAt? (here ++ [name]) ≠ some .directory := by
  intro hdirectory
  have hlocate : tree.locate (directory.child name) = .ok (.found (here ++ [name])) := by
    rw [hready.locate hname, if_pos (by simp [hdirectory])]
  rw [currentText_of_directory hlocate hdirectory] at h
  cases h

/-- A file of a directory that is ready is brought up to date exactly if what stands in its place can be read. -/
theorem Ready.updateFile (hready : Ready tree directory here (room + 1)) (hname : IsFileName name) (text : String) :
    match currentText tree (directory.child name) with
    | .error f => updateFile tree (directory.child name) text = .error f
    | .ok current =>
      if current = some text then updateFile tree (directory.child name) text = .ok (tree, false)
      else tree.nodeAt? (here ++ [name]) ≠ some .directory ∧ updateFile tree (directory.child name) text =
        .ok (tree.put (here ++ [name]) (.file (Text.encode text)), true) := by
  cases hcurrent : currentText tree (directory.child name) with
  | error f =>
    rw [Output.updateFile, hcurrent]
    rfl
  | ok current =>
    have hold := ne_directory_of_currentText hready hname hcurrent
    dsimp only
    split_ifs with hsame
    · rw [Output.updateFile, hcurrent, hsame]
      simp [bind, Except.bind]
    · refine ⟨hold, ?_⟩
      obtain ⟨tree', hreplaced⟩ := replaceFile_ok hready hname hold text
      obtain ⟨hparts, hleads, -, -⟩ := setsFile_of_replaceFile hreplaced
      rename_i parts there last
      rw [Path.child_of_isStep hname.step] at hparts
      obtain ⟨rfl, rfl⟩ : directory.parts = parts ∧ name = last := by simpa using hparts
      obtain rfl := hready.leads.eq hleads
      rw [Output.updateFile, hcurrent]
      simp [bind, Except.bind, hsame, hreplaced]

/-- A file whose text is another one is replaced. -/
theorem Ready.updateFile_of_ne (hready : Ready tree directory here (room + 1)) (hname : IsFileName name)
    {current : Option String} (hcurrent : currentText tree (directory.child name) = .ok current)
    (hne : current ≠ some text) : tree.nodeAt? (here ++ [name]) ≠ some .directory ∧
      Output.updateFile tree (directory.child name) text =
        .ok (tree.put (here ++ [name]) (.file (Text.encode text)), true) := by
  have hupdate := hready.updateFile hname text
  rw [hcurrent] at hupdate
  dsimp only at hupdate
  rwa [if_neg hne] at hupdate

end Output

end NavFactory
