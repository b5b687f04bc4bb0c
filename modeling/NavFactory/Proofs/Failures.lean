import NavFactory.Proofs.Interruption
import NavFactory.Proofs.Stages

/-!
# Failures that are let out

Comparing files and writing them fail with an explanation, but for two things that are let out as they come: a null
character in a path, and a temporary file that cannot be made (`Output.write_raw_iff`, `Output.diff_raw_iff`).  The
latter happens where the directory of a file is missing, or the name of the file leaves no room for a temporary one.
-/

namespace NavFactory

open Entry

variable {tree tree' made : Entry} {here : List String} {text : String} {directory path temporary : Path}
  {contents : List UInt8} {files : Sources} {fault : OutputFault}

/-- Whether a fault of files is let out as the file operation gives it. -/
def OutputFault.IsRaw (fault : OutputFault) : Prop := RoundFault.isGeneration (.output fault) = false

instance (fault : OutputFault) : Decidable fault.IsRaw := inferInstanceAs (Decidable (_ = _))

theorem OutputFault.isRaw_iff : fault.IsRaw ↔ ∃ f, fault = .file f := by
  cases fault <;> simp [IsRaw, RoundFault.isGeneration]

namespace Output

/-! ### Reading -/

/-- A file that is looked for is read, missing or explained, unless its path holds a null character. -/
theorem currentText_raw_iff : FailsWith OutputFault.IsRaw (currentText tree path) ↔ path.hasNull = true := by
  constructor
  · rintro ⟨fault, hfault, hraw⟩
    obtain ⟨f, rfl⟩ := OutputFault.isRaw_iff.1 hraw
    by_contra hnull
    exact currentText_ne_file (Bool.eq_false_iff.2 hnull) f hfault
  · intro hnull
    refine ⟨.file ⟨.nullCharacter, path⟩, ?_, rfl⟩
    rw [currentText, readText_eq_nullCharacter_iff.2 ⟨hnull, rfl⟩]
    rfl

/-! ### Temporary files -/

/-- Whether a temporary file can be made for a file: the directory of its path without double dots is there, and a
temporary name is free in it that is not too long. -/
def HasTemporary (tree : Entry) (path : Path) : Prop :=
  ∃ here n, tree.Leads (temporaryDirectory path).parts here ∧
    (temporaryName path.name n).utf8ByteSize ≤ maxNameLength ∧ tree.nodeAt? (here ++ [temporaryName path.name n]) = none

/-- In a directory that is there, with less than a hundred million entries, there is room for a temporary file exactly if
the name of the file leaves fourteen bytes for it. -/
theorem hasTemporary_iff_of_leads (hleads : tree.Leads (temporaryDirectory path).parts here)
    (hroom : tree.countAt here < 10 ^ 8) : HasTemporary tree path ↔ path.name.utf8ByteSize + 14 ≤ maxNameLength := by
  constructor
  · rintro ⟨-, n, -, hfits, -⟩
    rw [← utf8ByteSize_temporaryName (show 0 < 10 ^ 8 by decide)]
    exact (utf8ByteSize_temporaryName_mono (Nat.zero_le n) _).trans hfits
  · intro hfits
    obtain ⟨n, hn, hfree⟩ := exists_free_temporary hleads.directory path.name
    exact ⟨here, n, hleads, by rwa [utf8ByteSize_temporaryName (by omega)], hfree⟩

private theorem exists_name_of_createTemporary {folder : Path} {name : String} {fuel n : Nat}
    (h : tree.createTemporary folder name contents fuel n = .ok (temporary, tree')) :
    ∃ m, temporary = folder / ⟨"", [temporaryName name m]⟩ := by
  induction fuel generalizing n with
  | zero =>
    rw [createTemporary] at h
    obtain ⟨_, -, h⟩ := map_eq_ok_iff.1 h
    exact ⟨n, (Prod.mk.inj h).1.symm⟩
  | succ fuel ih =>
    rw [createTemporary] at h
    split at h
    · cases h
      exact ⟨n, rfl⟩
    · split_ifs at h
      exact ih h

private theorem null_notMem_temporaryDirectory (hnull : path.hasNull = false) :
    (∀ part ∈ (temporaryDirectory path).parts, '\x00' ∉ part.toList) ∧ '\x00' ∉ path.name.toList := by
  rw [hasNull_eq_false_iff] at hnull
  constructor
  · intro part hpart
    have hmem := Path.collapse_subset [] path.parts.dropLast hpart
    rw [List.nil_append] at hmem
    exact hnull part (List.dropLast_subset _ hmem)
  · obtain hparts | ⟨init, last, hparts⟩ := List.eq_nil_or_concat' path.parts
    · rw [Path.name, hparts]
      decide
    · rw [Path.name, hparts, List.getLastD_concat]
      exact hnull last (by simp [hparts])

/-- A temporary file is made exactly where there is room for it. -/
theorem createTemporary_ok_iff (hnull : path.hasNull = false) (contents : List UInt8) :
    (∃ temporary written, tree.createTemporary (temporaryDirectory path) path.name contents
        (tree.entryCount (temporaryDirectory path)) 0 = .ok (temporary, written)) ↔ HasTemporary tree path := by
  obtain ⟨hfolder, hname⟩ := null_notMem_temporaryDirectory hnull
  constructor
  · rintro ⟨temporary, written, hcreated⟩
    obtain ⟨n, rfl⟩ := exists_name_of_createTemporary hcreated
    obtain ⟨above, name, hlocate, -⟩ := exists_free_of_createFile (createFile_of_createTemporary hcreated)
    rw [Path.join_relative _ _ rfl] at hlocate
    obtain ⟨hparts, hleads, -, hfits, hfree⟩ := free_of_locateFrom (locate_eq_ok_iff.1 hlocate).2
    rw [List.dropLast_concat] at hparts hleads
    obtain rfl : temporaryName path.name n = name := by simpa using hparts
    exact ⟨above, n, hleads, hfits, hfree⟩
  · rintro ⟨here, n, hleads, hfits, hfree⟩
    obtain ⟨k, hk, hkfree⟩ := exists_free_temporary hleads.directory path.name
    rw [entryCount_of_leads hleads hfolder]
    -- one of the two names is among those that are tried
    have hfirst : ∃ m ≤ tree.countAt here, (temporaryName path.name m).utf8ByteSize ≤ maxNameLength ∧
        tree.nodeAt? (here ++ [temporaryName path.name m]) = none := by
      rcases Nat.le_total k n with hkn | hnk
      · exact ⟨k, hk, (utf8ByteSize_temporaryName_mono hkn _).trans hfits, hkfree⟩
      · exact ⟨n, hnk.trans hk, hfits, hfree⟩
    obtain ⟨m, hm, hmfits, hmfree⟩ := hfirst
    rw [← Nat.zero_add m] at hmfits hmfree
    exact createTemporary_ok hleads hfolder hname contents hm hmfits hmfree

/-! ### Single files -/

theorem replaceFile_raw_iff (hnull : path.hasNull = false) :
    FailsWith OutputFault.IsRaw (replaceFile tree path text) ↔ ¬HasTemporary tree path := by
  rw [← createTemporary_ok_iff hnull (Text.encode text), replaceFile]
  cases tree.createTemporary (temporaryDirectory path) path.name (Text.encode text)
      (tree.entryCount (temporaryDirectory path)) 0 with
  | error f => exact iff_of_true ⟨.file f, rfl, rfl⟩ (by simp)
  | ok created =>
    obtain ⟨temporary, written⟩ := created
    refine iff_of_false ?_ (not_not_intro ⟨temporary, written, rfl⟩)
    dsimp only
    cases written.moveFile temporary path with
    | ok moved => exact not_failsWith_ok
    | error f =>
      rintro ⟨_, ⟨⟩, hraw⟩
      cases hraw

/-- Whether the path of a file holds a null character, or the file differs from its text and there is no room for a
temporary one. -/
def IsUnkept (tree : Entry) (path : Path) (text : String) : Prop :=
  path.hasNull = true ∨ ∃ current, currentText tree path = .ok current ∧ current ≠ some text ∧ ¬HasTemporary tree path

/-- A file is brought up to date, or it is explained why not, unless it is unkept. -/
theorem updateFile_raw_iff : FailsWith OutputFault.IsRaw (updateFile tree path text) ↔ IsUnkept tree path text := by
  rw [updateFile, failsWith_bind_iff, currentText_raw_iff]
  refine or_congr_right (exists_congr fun current => and_congr_right fun hcurrent => ?_)
  have hnull : path.hasNull = false := by
    by_contra hnull
    have hraw : FailsWith OutputFault.IsRaw (currentText tree path) :=
      currentText_raw_iff.2 ((Bool.not_eq_false _).mp hnull)
    rw [hcurrent] at hraw
    exact not_failsWith_ok hraw
  split_ifs with hsame
  · exact iff_of_false not_failsWith_ok fun h => h.1 (beq_iff_eq.1 hsame)
  · rw [failsWith_bind_iff, replaceFile_raw_iff hnull, and_iff_right (by simpa using hsame)]
    simp [not_failsWith_ok]

/-! ### Writing and comparing -/

/-- Files that are not all written, and it is not explained why: the path of their directory holds a null character, or the
directory is there in the end and a file that is come to is unkept. -/
inductive LetsOut (tree : Entry) (directory : Path) (files : Sources) : Prop
  | directory (hnull : directory.hasNull = true)
  | file {made : Entry} {front back : Sources} {file : String × String} {told : List WrittenFile}
      (hensured : tree.ensureDirectories directory = (made, none)) (hfiles : files = front ++ file :: back)
      (htold : (writeFiles directory made front).result = .ok told)
      (h : IsUnkept (writeFiles directory made front).tree (directory.child file.1) file.2)

theorem ensureDirectories_null_iff {f : FileFault} (h : tree.ensureDirectories directory = (made, some f)) :
    f.problem = .nullCharacter ↔ directory.hasNull = true := by
  constructor
  · intro hproblem
    by_contra hnull
    refine ensureDirectoriesFrom_ne_null (fun part hpart => ?_) h hproblem
    exact hasNull_eq_false_iff.1 (Bool.eq_false_iff.2 hnull) part (List.mem_reverse.1 hpart)
  · intro hnull
    have hlocate : tree.locate directory = .error ⟨.nullCharacter, directory⟩ := by rw [locate, if_pos hnull]
    rw [ensureDirectories_of_error hlocate (by simp)] at h
    cases h
    rfl

theorem writeFiles_raw_iff : FailsWith OutputFault.IsRaw (writeFiles directory tree files).result ↔
    ∃ front file back told, files = front ++ file :: back ∧ (writeFiles directory tree front).result = .ok told ∧
      FailsWith OutputFault.IsRaw (updateFile (writeFiles directory tree front).tree (directory.child file.1) file.2) := by
  simp only [FailsWith, writeFiles_error_iff]
  constructor
  · rintro ⟨fault, ⟨front, file, back, told, hfiles, htold, hfails⟩, hraw⟩
    exact ⟨front, file, back, told, hfiles, htold, fault, hfails, hraw⟩
  · rintro ⟨front, file, back, told, hfiles, htold, fault, hfails, hraw⟩
    exact ⟨fault, ⟨front, file, back, told, hfiles, htold, hfails⟩, hraw⟩

theorem write_raw_iff :
    FailsWith OutputFault.IsRaw (write tree directory files).result ↔ LetsOut tree directory files := by
  cases hensured : tree.ensureDirectories directory with
  | mk made problem? =>
    cases problem? with
    | some f =>
      have hnull := ensureDirectories_null_iff hensured
      rw [write, hensured, failsWith_error]
      constructor
      · intro hraw
        refine .directory (hnull.1 ?_)
        by_contra hproblem
        rw [if_neg (by simpa using hproblem)] at hraw
        cases hraw
      · intro h
        cases h with
        | directory h =>
          rw [if_pos (beq_iff_eq.2 (hnull.2 h))]
          rfl
        | file h => cases hensured.symm.trans h
    | none =>
      rw [write_of_ensured hensured, writeFiles_raw_iff]
      simp only [updateFile_raw_iff]
      constructor
      · rintro ⟨front, file, back, told, hfiles, htold, h⟩
        exact .file hensured hfiles htold h
      · intro h
        cases h with
        | directory hnull =>
          obtain ⟨here, hlocate, -⟩ := found_of_ensureDirectories hensured
          rw [(locate_eq_ok_iff.1 hlocate).1] at hnull
          cases hnull
        | file h hfiles htold hunkept =>
          cases hensured.symm.trans h
          exact ⟨_, _, _, _, hfiles, htold, hunkept⟩

theorem diff_raw_iff : FailsWith OutputFault.IsRaw (diff tree directory files) ↔
    ∃ front file back, files = front ++ file :: back ∧
      (∀ other ∈ front, ∃ current, currentText tree (directory.child other.1) = .ok current) ∧
      (directory.child file.1).hasNull = true := by
  induction files with
  | nil => exact iff_of_false not_failsWith_ok (by simp)
  | cons file rest ih =>
    rw [diff]
    simp only [failsWith_bind_iff, currentText_raw_iff, ih, not_failsWith_ok, and_false, exists_false, or_false]
    constructor
    · rintro (hnull | ⟨current, hcurrent, front, other, back, rfl, hfront, hnull⟩)
      · exact ⟨[], file, rest, rfl, by simp, hnull⟩
      · exact ⟨file :: front, other, back, rfl, List.forall_mem_cons.2 ⟨⟨current, hcurrent⟩, hfront⟩, hnull⟩
    · rintro ⟨front, other, back, hfiles, hfront, hnull⟩
      cases front with
      | nil =>
        obtain ⟨rfl, rfl⟩ := List.cons.inj hfiles
        exact .inl hnull
      | cons first front =>
        obtain ⟨rfl, rfl⟩ := List.cons.inj hfiles
        obtain ⟨⟨current, hcurrent⟩, hfront⟩ := List.forall_mem_cons.1 hfront
        exact .inr ⟨current, hcurrent, front, other, back, rfl, hfront, hnull⟩

end Output

end NavFactory
