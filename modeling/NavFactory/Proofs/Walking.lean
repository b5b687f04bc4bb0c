import NavFactory.Manifest
import NavFactory.Proofs.Changes
import NavFactory.Proofs.Sorting

/-!
# What a walk lists

A walk lists a file exactly if it enters every directory on the way to it and takes the file for a source.  So an empty
directory changes nothing about what is listed (`sourcePaths_put_emptyDirectory`).  Of the paths that are listed only
some may matter: a file that is not listed, or is listed by a path that does not matter, changes nothing about those
that do (`sourcePaths_put_file`).
-/

namespace NavFactory

open Entry

variable {rules : List IgnoreRule} {tree e new d : Entry} {entries : List (String × Entry)} {names place : List String}
  {name path above : String} {contents : List UInt8} {keep : String → Bool}

/-! ### Setting a name -/

/-- Setting a name puts it behind all others or replaces the first entry of that name. -/
theorem Entry.setEntry_cases (name : String) (new : Entry) (entries : List (String × Entry)) :
    entries.lookup name = none ∧ setEntry name new entries = entries ++ [(name, new)] ∨
      ∃ front old back, entries.lookup name = some old ∧ entries = front ++ (name, old) :: back ∧
        setEntry name new entries = front ++ (name, new) :: back := by
  induction entries with
  | nil => exact .inl ⟨rfl, rfl⟩
  | cons entry rest ih =>
    obtain ⟨m, c⟩ := entry
    by_cases hm : name = m
    · subst hm
      exact .inr ⟨[], c, rest, by simp, rfl, by simp [setEntry]⟩
    · rw [List.lookup_cons, beq_eq_false_iff_ne.2 hm, setEntry, if_neg (by simpa using hm)]
      obtain ⟨hfree, hset⟩ | ⟨front, old, back, hold, hentries, hset⟩ := ih
      · exact .inl ⟨hfree, by rw [hset, List.cons_append]⟩
      · exact .inr ⟨(m, c) :: front, old, back, hold, by rw [hentries, List.cons_append], by rw [hset, List.cons_append]⟩

theorem Entry.isDirectory_put (hplace : place ≠ []) (e new : Entry) : (e.put place new).isDirectory = e.isDirectory := by
  obtain ⟨name, rest, rfl⟩ := List.exists_cons_of_ne_nil hplace
  cases e with
  | file contents => rfl
  | directory entries =>
    cases rest with
    | nil => rfl
    | cons second rest =>
      rw [put]
      · cases entries.lookup name <;> rfl
      · simp

/-! ### Names that a walk comes to -/

/-- Whether a walk enters every directory that names lead through. -/
def reaches (rules : List IgnoreRule) (above : String) : List String → Bool
  | [] => true
  | name :: rest => entersDirectory rules above name && reaches rules (below above name) rest

/-- Whether a walk lists the file of a name in the directory that names lead to. -/
def lists (rules : List IgnoreRule) (names : List String) (name : String) : Bool :=
  reaches rules "" names && isSource rules (names.foldl below "") name

/-! ### Walks through changed directories -/

private theorem subdirectoryPaths_append (rules : List IgnoreRule) (above : String)
    (front back : List (String × Entry)) : subdirectoryPaths rules above (front ++ back) =
      subdirectoryPaths rules above front ++ subdirectoryPaths rules above back := by
  induction front with
  | nil => rw [subdirectoryPaths, List.nil_append, List.nil_append]
  | cons entry front ih =>
    obtain ⟨name, e⟩ := entry
    rw [List.cons_append, subdirectoryPaths, subdirectoryPaths, ih]
    split_ifs <;> rfl

/-- What is kept of the paths that are listed in a directory is kept of each of its subdirectories. -/
private theorem filter_sourcePaths (keep : String → Bool) (rules : List IgnoreRule) (above : String)
    (entries : List (String × Entry)) : (sourcePaths rules above (.directory entries)).filter keep =
      ((sourceNames rules above entries).map (below above)).filter keep ++
        (sortBy (fun a b => a.1 < b.1) ((subdirectoryPaths rules above entries).map
          (Prod.map id (List.filter keep)))).flatMap (·.2) := by
  have hsort : (sortBy (fun a b => a.1 < b.1) (subdirectoryPaths rules above entries)).map
      (Prod.map id (List.filter keep)) = _ := map_sortBy (Prod.map id (List.filter keep))
        (fun a b : String × List String => decide (a.1 < b.1)) (subdirectoryPaths rules above entries)
  rw [sourcePaths, List.filter_append, List.filter_flatMap, ← hsort, List.flatMap_map]
  rfl

/-- Replacing an entry by another of its kind changes nothing about the paths that are kept if it does not below it. -/
private theorem sourcePaths_replace {front back : List (String × Entry)} {old : Entry}
    (hkind : new.isDirectory = old.isDirectory)
    (hbelow : entersDirectory rules above name = true →
      (sourcePaths rules (below above name) new).filter keep = (sourcePaths rules (below above name) old).filter keep) :
    (sourcePaths rules above (.directory (front ++ (name, new) :: back))).filter keep =
      (sourcePaths rules above (.directory (front ++ (name, old) :: back))).filter keep := by
  have hnames : sourceNames rules above (front ++ (name, new) :: back) =
      sourceNames rules above (front ++ (name, old) :: back) := by
    simp only [sourceNames, List.filter_append, List.filter_cons, hkind]
    split_ifs <;> simp
  have hpaths : (subdirectoryPaths rules above (front ++ (name, new) :: back)).map (Prod.map id (List.filter keep)) =
      (subdirectoryPaths rules above (front ++ (name, old) :: back)).map (Prod.map id (List.filter keep)) := by
    rw [subdirectoryPaths_append, subdirectoryPaths_append, subdirectoryPaths, subdirectoryPaths, hkind]
    split_ifs with henters
    · simp [hbelow (Bool.and_eq_true_iff.1 henters).2]
    · rfl
  rw [filter_sourcePaths, filter_sourcePaths, hnames, hpaths]

/-- A file that is no source or whose path is not kept changes nothing about the paths that are. -/
private theorem sourcePaths_append_file
    (hdropped : isSource rules above name = false ∨ keep (below above name) = false) (contents : List UInt8)
    (entries : List (String × Entry)) :
    (sourcePaths rules above (.directory (entries ++ [(name, .file contents)]))).filter keep =
      (sourcePaths rules above (.directory entries)).filter keep := by
  have hpaths : subdirectoryPaths rules above (entries ++ [(name, .file contents)]) =
      subdirectoryPaths rules above entries := by
    simp [subdirectoryPaths_append, subdirectoryPaths, isDirectory]
  have hnames : ((sourceNames rules above (entries ++ [(name, .file contents)])).map (below above)).filter keep =
      ((sourceNames rules above entries).map (below above)).filter keep := by
    cases hsource : isSource rules above name with
    | false => simp [sourceNames, hsource, isDirectory]
    | true =>
      have hkeep := hdropped.resolve_left (by simp [hsource])
      have hkey : ∀ a b : String, decide (a < b) = true ↔ id a < id b := fun _ _ => decide_eq_true_iff
      obtain ⟨front, back, hwith, hwithout, -⟩ := exists_sortBy_append hkey
        ((entries.filter fun entry => !entry.2.isDirectory && isSource rules above entry.1).map (·.1)) [] name
      rw [List.append_nil] at hwithout
      have hadded : sourceNames rules above (entries ++ [(name, .file contents)]) = front ++ name :: back := by
        rw [← hwith, sourceNames, sortTexts, List.filter_append, List.map_append]
        simp [hsource, isDirectory]
      rw [hadded, sourceNames, sortTexts, hwithout]
      simp [hkeep]
  rw [filter_sourcePaths, filter_sourcePaths, hpaths, hnames]

/-- An empty directory changes nothing. -/
private theorem sourcePaths_append_emptyDirectory (rules : List IgnoreRule) (above name : String)
    (entries : List (String × Entry)) :
    sourcePaths rules above (.directory (entries ++ [(name, .emptyDirectory)])) =
      sourcePaths rules above (.directory entries) := by
  have hnames : sourceNames rules above (entries ++ [(name, .emptyDirectory)]) = sourceNames rules above entries := by
    simp [sourceNames, emptyDirectory, isDirectory]
  rw [sourcePaths, sourcePaths, subdirectoryPaths_append, hnames, subdirectoryPaths, subdirectoryPaths]
  split_ifs
  · have hnothing : sourcePaths rules (below above name) emptyDirectory = [] := by
      simp [emptyDirectory, sourcePaths, sourceNames, subdirectoryPaths, sortTexts, sortBy]
    have hkey : ∀ a b : String × List String, decide (a.1 < b.1) = true ↔ a.1 < b.1 := fun _ _ => decide_eq_true_iff
    obtain ⟨front, back, hwith, hwithout, -⟩ := exists_sortBy_append hkey
      (subdirectoryPaths rules above entries) [] (name, sourcePaths rules (below above name) emptyDirectory)
    rw [List.append_nil] at hwithout
    rw [hwith, hwithout]
    simp [hnothing]
  · rw [List.append_nil]

/-- What is set in a directory that a walk comes to matters only there. -/
private theorem sourcePaths_put_concat (hat : tree.at? names = some d)
    (hleaf : reaches rules above names = true →
      (sourcePaths rules (names.foldl below above) (d.put [name] new)).filter keep =
        (sourcePaths rules (names.foldl below above) d).filter keep) :
    (sourcePaths rules above (tree.put (names ++ [name]) new)).filter keep =
      (sourcePaths rules above tree).filter keep := by
  induction names generalizing tree above with
  | nil =>
    rw [at?_nil] at hat
    cases hat
    exact hleaf rfl
  | cons first rest ih =>
    rw [at?_cons] at hat
    obtain ⟨c, hc, hat⟩ := Option.bind_eq_some_iff.1 hat
    cases tree with
    | file contents => cases hc
    | directory entries =>
      have hlookup : entries.lookup first = some c := hc
      rw [List.cons_append, put_below hlookup (by simp)]
      obtain ⟨hfree, -⟩ | ⟨front, old, back, hold, hentries, hset⟩ :=
        setEntry_cases first (c.put (rest ++ [name]) new) entries
      · rw [hlookup] at hfree
        cases hfree
      · obtain rfl : old = c := Option.some.inj (hold.symm.trans hlookup)
        rw [hset, hentries]
        refine sourcePaths_replace (isDirectory_put (by simp) old new) fun henters => ih hat fun hreaches => hleaf ?_
        rw [reaches, henters, hreaches]
        rfl

/-- A file that is not listed or whose path is not kept changes nothing about the paths that are. -/
theorem sourcePaths_put_file (hplace : tree.HasPlace (names ++ [name]))
    (hold : tree.nodeAt? (names ++ [name]) ≠ some .directory)
    (hdropped : lists rules names name = false ∨ keep ((names ++ [name]).foldl below "") = false)
    (contents : List UInt8) : (sourcePaths rules "" (tree.put (names ++ [name]) (.file contents))).filter keep =
      (sourcePaths rules "" tree).filter keep := by
  have hparent := hplace.parent
  rw [List.dropLast_concat, nodeAt?_eq_directory_iff] at hparent
  obtain ⟨entries, hat⟩ := hparent
  refine sourcePaths_put_concat hat fun hreaches => ?_
  rw [lists, hreaches, Bool.true_and, List.foldl_append] at hdropped
  rw [nodeAt?, at?_append, hat, Option.bind_some, at?_cons] at hold
  obtain ⟨-, hset⟩ | ⟨front, old, back, hlookup, hentries, hset⟩ := setEntry_cases name (.file contents) entries
  · rw [put, hset]
    exact sourcePaths_append_file hdropped contents entries
  · have hkind : old.isDirectory = false := by
      cases old with
      | file _ => rfl
      | directory entries' =>
        rw [child?, Entry.entries, hlookup] at hold
        simp [node] at hold
    rw [put, hset, hentries]
    refine sourcePaths_replace hkind.symm fun _ => ?_
    cases old with
    | file _ => rfl
    | directory entries' => cases hkind

/-- A directory that is made where nothing was changes nothing about what is listed. -/
theorem sourcePaths_put_emptyDirectory (hplace : tree.HasPlace (names ++ [name]))
    (hfree : tree.nodeAt? (names ++ [name]) = none) (rules : List IgnoreRule) (keep : String → Bool) :
    (sourcePaths rules "" (tree.put (names ++ [name]) .emptyDirectory)).filter keep =
      (sourcePaths rules "" tree).filter keep := by
  have hparent := hplace.parent
  rw [List.dropLast_concat, nodeAt?_eq_directory_iff] at hparent
  obtain ⟨entries, hat⟩ := hparent
  refine sourcePaths_put_concat hat fun _ => ?_
  rw [nodeAt?_eq_none_iff, at?_append, hat, Option.bind_some, at?_cons, child?, Entry.entries] at hfree
  obtain ⟨-, hset⟩ | ⟨front, old, back, hlookup, -⟩ := setEntry_cases name .emptyDirectory entries
  · rw [put, hset, sourcePaths_append_emptyDirectory]
  · rw [hlookup] at hfree
    simp at hfree

/-! ### Trees with proper names -/

mutual

/-- Whether the names in every directory of an entry are steps of a path, and no two of a directory are the same. -/
def Entry.isProper : Entry → Bool
  | .file _ => true
  | .directory entries => decide (entries.map (·.1)).Nodup && areProper entries

/-- Whether all of several entries are proper and named by a step of a path that does not lead upwards. -/
def Entry.areProper : List (String × Entry) → Bool
  | [] => true
  | (name, e) :: rest => decide (Path.IsStep name) && decide (name ≠ "..") && isProper e && areProper rest

end

theorem Entry.areProper_iff : areProper entries = true ↔
    ∀ entry ∈ entries, Path.IsStep entry.1 ∧ entry.1 ≠ ".." ∧ entry.2.isProper = true := by
  induction entries with
  | nil => simp [areProper]
  | cons entry rest ih =>
    obtain ⟨name, e⟩ := entry
    rw [areProper, List.forall_mem_cons, ← ih]
    simp [and_assoc]

theorem Path.mem_steps_of_isStep (h : Path.IsStep name) : name ∈ Path.steps name := by
  rw [show Path.steps name = [name] from congrArg Path.parts h]
  exact List.mem_singleton_self name

/-- A single step of a path holds no slash. -/
theorem Path.slash_notMem_of_isStep (h : Path.IsStep name) : '/' ∉ name.toList :=
  Text.notMem_of_mem_parts (List.mem_of_mem_filter (mem_steps_of_isStep h))

theorem Path.ne_empty_of_isStep (h : Path.IsStep name) : name ≠ "" := by
  rintro rfl
  revert h
  decide

private theorem Path.root_ofText {text : String} (h : text.toList.head? ≠ some '/') : (Path.ofText text).root = "" := by
  rw [ofText]
  split
  · rename_i htext
    simp [htext] at h
  · rename_i htext
    simp [htext] at h
  · rename_i htext
    simp [htext] at h
  · rfl

/-- The steps of a path are steps. -/
theorem Path.isStep_of_mem_steps {text : String} (h : name ∈ steps text) : IsStep name := by
  obtain ⟨hpart, hkept⟩ := List.mem_filter.1 h
  have hslash := Text.notMem_of_mem_parts hpart
  have hroot : (ofText name).root = "" := root_ofText fun hhead => hslash (List.mem_of_mem_head? hhead)
  have hparts : Text.parts '/' name = [name] := Text.parts_of_notMem hslash
  have hsteps : (ofText name).parts = [name] := by
    change steps name = [name]
    rw [steps, hparts]
    simpa using hkept
  rw [IsStep, ← hroot, ← hsteps]

/-- Joined steps are taken apart again. -/
theorem Path.steps_intercalate (h : ∀ name ∈ names, IsStep name) : steps ("/".intercalate names) = names := by
  by_cases hne : names = []
  · subst hne
    decide
  have hkept : ∀ name ∈ names, (!name.isEmpty && name != ".") = true := fun name hname =>
    (List.mem_filter.1 (mem_steps_of_isStep (h name hname))).2
  have hslash : ∀ name ∈ names, '/' ∉ name.toList := fun name hname => slash_notMem_of_isStep (h name hname)
  rw [steps, show "/" = String.singleton '/' from rfl, Text.parts_intercalate hslash hne, List.filter_eq_self.2 hkept]

/-- Joined steps do not begin with a slash. -/
theorem Path.head_intercalate (h : ∀ name ∈ names, IsStep name) : ("/".intercalate names).toList.head? ≠ some '/' := by
  cases names with
  | nil => decide
  | cons first rest =>
    have hfirst := h first List.mem_cons_self
    obtain ⟨c, cs, hc⟩ := List.exists_cons_of_ne_nil (by simpa using ne_empty_of_isStep hfirst : first.toList ≠ [])
    have hslash : c ≠ '/' := by
      rintro rfl
      exact slash_notMem_of_isStep hfirst (by rw [hc]; exact List.mem_cons_self)
    cases rest <;> simpa [String.toList_intercalate, hc] using hslash

private theorem foldl_below_of_ne (hne : name ≠ "") (names : List String) :
    names.foldl below name = "/".intercalate (name :: names) := by
  induction names generalizing name with
  | nil => simp
  | cons next rest ih =>
    rw [List.foldl_cons, below, if_neg (by simpa using hne), ih]
    · simp [String.append_assoc]
    · intro h
      simp [String.append_eq_empty_iff] at h

/-- Names that are not empty are joined by slashes. -/
theorem foldl_below (h : ∀ name ∈ names, name ≠ "") : names.foldl below "" = "/".intercalate names := by
  cases names with
  | nil => rfl
  | cons first rest => exact foldl_below_of_ne (h first List.mem_cons_self) rest

/-- The path of proper names leads through them. -/
theorem Path.ofText_foldl_below (h : ∀ name ∈ names, Path.IsStep name) :
    Path.ofText (names.foldl below "") = ⟨"", names⟩ := by
  rw [foldl_below fun name hname => ne_empty_of_isStep (h name hname)]
  exact Path.mk.injEq _ _ _ _ ▸ ⟨root_ofText (head_intercalate h), steps_intercalate h⟩

/-! ### Files that are listed -/

/-- The paths that are listed for a name are those of the directory of that name. -/
theorem exists_of_mem_subdirectoryPaths {paths : List String}
    (h : (name, paths) ∈ subdirectoryPaths rules above entries) :
    ∃ c, (name, c) ∈ entries ∧ entersDirectory rules above name = true ∧
      paths = sourcePaths rules (below above name) c := by
  induction entries with
  | nil => cases h
  | cons entry rest ih =>
    obtain ⟨m, c⟩ := entry
    rw [subdirectoryPaths] at h
    split_ifs at h with henters
    · rcases List.mem_cons.1 h with heq | h
      · obtain ⟨rfl, rfl⟩ := Prod.mk.inj heq
        exact ⟨c, List.mem_cons_self, (Bool.and_eq_true_iff.1 henters).2, rfl⟩
      · obtain ⟨c', hc', hrest⟩ := ih h
        exact ⟨c', List.mem_cons_of_mem _ hc', hrest⟩
    · obtain ⟨c', hc', hrest⟩ := ih h
      exact ⟨c', List.mem_cons_of_mem _ hc', hrest⟩

/-- Every path that a walk through a proper entry lists belongs to a file that the walk comes to. -/
theorem exists_of_mem_sourcePaths {e : Entry} {above path : String} (hproper : e.isProper = true)
    (h : path ∈ sourcePaths rules above e) : ∃ names name contents, e.at? (names ++ [name]) = some (.file contents) ∧
      (∀ n ∈ names ++ [name], Path.IsStep n ∧ n ≠ "..") ∧ reaches rules above names = true ∧
      isSource rules (names.foldl below above) name = true ∧ path = (names ++ [name]).foldl below above := by
  cases e with
  | file contents => simp [sourcePaths] at h
  | directory entries =>
    rw [isProper, Bool.and_eq_true_iff, decide_eq_true_iff, areProper_iff] at hproper
    obtain ⟨hnd, hproper⟩ := hproper
    rw [sourcePaths, List.mem_append] at h
    obtain h | h := h
    · -- a file of the directory itself
      obtain ⟨name, hname, rfl⟩ := List.mem_map.1 h
      rw [sourceNames, sortTexts, mem_sortBy] at hname
      obtain ⟨⟨m, c⟩, hc, rfl⟩ := List.mem_map.1 hname
      obtain ⟨hc, hsource⟩ := List.mem_filter.1 hc
      obtain ⟨hkind, hsource⟩ := Bool.and_eq_true_iff.1 hsource
      obtain ⟨hstep, hup, -⟩ := hproper _ hc
      cases c with
      | directory entries' => cases hkind
      | file contents =>
        refine ⟨[], m, contents, ?_, by simpa using ⟨hstep, hup⟩, rfl, hsource, rfl⟩
        rw [List.nil_append, at?_cons, child?, Entry.entries, (lookup_eq_some_iff_mem hnd).2 hc, Option.bind_some, at?_nil]
    · -- a file below one of its subdirectories
      obtain ⟨⟨m, paths⟩, hpaths, hpath⟩ := List.mem_flatMap.1 h
      obtain ⟨c, hc, henters, rfl⟩ := exists_of_mem_subdirectoryPaths (mem_sortBy.1 hpaths)
      obtain ⟨hstep, hup, hbelow⟩ := hproper _ hc
      have hsize : sizeOf c < sizeOf (directory entries) := by
        have := List.sizeOf_lt_of_mem hc
        simp only [Prod.mk.sizeOf_spec, directory.sizeOf_spec] at this ⊢
        omega
      obtain ⟨names, name, contents, hat, hsteps, hreaches, hsource, rfl⟩ := exists_of_mem_sourcePaths hbelow hpath
      refine ⟨m :: names, name, contents, ?_, ?_, ?_, hsource, rfl⟩
      · rw [List.cons_append, at?_cons, child?, Entry.entries, (lookup_eq_some_iff_mem hnd).2 hc, Option.bind_some, hat]
      · exact List.forall_mem_cons.2 ⟨⟨hstep, hup⟩, hsteps⟩
      · rw [reaches, henters, hreaches]
        rfl
termination_by sizeOf e

end NavFactory
