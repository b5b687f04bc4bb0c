import Mathlib.Data.List.Infix
import NavFactory.Proofs.Hiding

/-!
# What a scan finds

A walk comes to exactly the files that a plain filter keeps: those that are sources themselves and no directory on the
way to which is passed over (`IsSelected`).  They come in an order that their paths alone determine (`Precedes`), so that
a manifest does not depend on the order in which directories list their entries (`scan_filters`).
-/

namespace NavFactory

open Entry

variable {rules : List IgnoreRule} {tree tree' e e' : Entry} {entries : List (String × Entry)}
  {names front : List String} {name path above text : String} {contents : List UInt8} {p root : Path}
  {current excludes : List String} {manifest : Manifest} {records : List LogRecord}

/-! ### The order of files -/

/-- Whether a file comes before another, given the names that lead to them: the files of a directory come by name, and
then those of its subdirectories by name. -/
inductive Precedes : List String → List String → Prop
  | files {a b : String} : a < b → Precedes [a] [b]
  | fileFirst {a b : String} {bs : List String} : bs ≠ [] → Precedes [a] (b :: bs)
  | directories {a b : String} {as bs : List String} : a < b → as ≠ [] → bs ≠ [] → Precedes (a :: as) (b :: bs)
  | inside {a : String} {as bs : List String} : Precedes as bs → Precedes (a :: as) (a :: bs)

theorem Precedes.ne_nil {p q : List String} (h : Precedes p q) : p ≠ [] ∧ q ≠ [] := by
  cases h <;> simp

theorem Precedes.asymm {p q : List String} (h : Precedes p q) : ¬Precedes q p := by
  induction h with
  | files hlt =>
    intro h'
    cases h' with
    | files hgt => exact lt_asymm hlt hgt
    | fileFirst hne => exact hne rfl
    | directories _ hne => exact hne rfl
    | inside hnil => exact hnil.ne_nil.1 rfl
  | fileFirst hne =>
    intro h'
    cases h' with
    | files => exact hne rfl
    | fileFirst hnil => exact hnil rfl
    | directories _ _ hnil => exact hnil rfl
    | inside hnil => exact hnil.ne_nil.2 rfl
  | directories hlt has hbs =>
    intro h'
    cases h' with
    | files => exact has rfl
    | fileFirst => exact hbs rfl
    | directories hgt => exact lt_asymm hlt hgt
    | inside => exact lt_irrefl _ hlt
  | inside hbelow ih =>
    intro h'
    cases h' with
    | files hlt => exact lt_irrefl _ hlt
    | fileFirst => exact hbelow.ne_nil.2 rfl
    | directories hlt => exact lt_irrefl _ hlt
    | inside habove => exact ih habove

/-- A list in the order of files is determined by its elements. -/
theorem eq_of_precedes {α : Type} (path : α → List String) {l l' : List α}
    (hl : l.Pairwise fun x y => Precedes (path x) (path y)) (hl' : l'.Pairwise fun x y => Precedes (path x) (path y))
    (hmem : ∀ x, x ∈ l ↔ x ∈ l') : l = l' := by
  -- nothing precedes itself, so that neither list repeats an element
  have hnodup : ∀ {m : List α}, (m.Pairwise fun x y => Precedes (path x) (path y)) → m.Nodup := fun hm =>
    hm.imp fun h heq => (heq ▸ h).asymm (heq ▸ h)
  have hperm : l.Perm l' := (List.perm_ext_iff_of_nodup (hnodup hl) (hnodup hl')).2 hmem
  exact hperm.eq_of_pairwise (fun x y _ _ h h' => absurd h' h.asymm) hl hl'

/-! ### Paths of places -/

/-- The path that names spell. -/
def spelled (names : List String) : String := "/".intercalate names

theorem pathParts_spelled (h : ∀ n ∈ names, Path.IsStep n) (hne : names ≠ []) : pathParts (spelled names) = names := by
  have hslash : ∀ n ∈ names, '/' ∉ n.toList := fun n hn => Path.slash_notMem_of_isStep (h n hn)
  exact Text.parts_intercalate hslash hne

theorem foldl_below_spelled (h : ∀ n ∈ names, Path.IsStep n) : names.foldl below "" = spelled names :=
  foldl_below fun n hn => Path.ne_empty_of_isStep (h n hn)

/-- The directories on the way to a place, without that at which the way starts. -/
def directoriesTo (names : List String) : List (List String) := names.dropLast.inits.filter (!·.isEmpty)

theorem mem_directoriesTo {directory : List String} :
    directory ∈ directoriesTo names ↔ directory ≠ [] ∧ directory <+: names.dropLast := by
  simp [directoriesTo, and_comm]

/-! ### The walk -/

private theorem mem_of_lookup {c : Entry} (h : (directory entries).child? name = some c) : (name, c) ∈ entries := by
  obtain ⟨l, l', hsplit, -⟩ := List.lookup_eq_some_iff.1 h
  rw [Entry.entries] at hsplit
  rw [hsplit]
  exact List.mem_append_right _ List.mem_cons_self

private theorem mem_subdirectoryPaths {c : Entry} (hc : (name, c) ∈ entries) (hkind : c.isDirectory = true)
    (henters : entersDirectory rules above name = true) :
    (name, sourcePaths rules (below above name) c) ∈ subdirectoryPaths rules above entries := by
  induction entries with
  | nil => cases hc
  | cons entry rest ih =>
    obtain ⟨m, d⟩ := entry
    rw [subdirectoryPaths]
    rcases List.mem_cons.1 hc with heq | hc
    · obtain ⟨rfl, rfl⟩ := Prod.mk.inj heq
      rw [hkind, henters]
      exact List.mem_cons_self
    · split_ifs
      · exact List.mem_cons_of_mem _ (ih hc)
      · exact ih hc

/-- A walk lists every source that it comes to. -/
theorem mem_sourcePaths_of_file (hat : e.nodeAt? (front ++ [name]) = some (.file contents))
    (hreaches : reaches rules above front = true) (hsource : isSource rules (front.foldl below above) name = true) :
    (front ++ [name]).foldl below above ∈ sourcePaths rules above e := by
  induction front generalizing e above with
  | nil =>
    rw [List.nil_append, nodeAt?_cons] at hat
    obtain ⟨c, hc, hfile⟩ := Option.bind_eq_some_iff.1 hat
    rw [nodeAt?_nil, Option.some.injEq, node_eq_file_iff] at hfile
    subst hfile
    cases e with
    | file _ => cases hc
    | directory entries =>
      rw [sourcePaths, List.mem_append]
      left
      refine List.mem_map.2 ⟨name, ?_, rfl⟩
      rw [sourceNames, sortTexts, mem_sortBy]
      exact List.mem_map.2 ⟨_, List.mem_filter.2 ⟨mem_of_lookup hc, hsource⟩, rfl⟩
  | cons first rest ih =>
    rw [List.cons_append, nodeAt?_cons] at hat
    obtain ⟨c, hc, hbelow⟩ := Option.bind_eq_some_iff.1 hat
    rw [reaches, Bool.and_eq_true_iff] at hreaches
    obtain ⟨henters, hreaches⟩ := hreaches
    cases e with
    | file _ => cases hc
    | directory entries =>
      have hkind : c.isDirectory = true := by
        have hthere : (c.nodeAt? ([] ++ (rest ++ [name]))).isSome := by
          rw [List.nil_append, hbelow]
          rfl
        have hnode : c.nodeAt? [] = some .directory := nodeAt?_of_below (by simp) hthere
        obtain ⟨_, rfl⟩ := node_eq_directory_iff.1 (by simpa using hnode)
        rfl
      rw [sourcePaths, List.mem_append]
      right
      refine List.mem_flatMap.2 ⟨_, mem_sortBy.2 (mem_subdirectoryPaths (mem_of_lookup hc) hkind henters), ?_⟩
      exact ih hbelow hreaches hsource

private theorem nodup_subdirectoryPaths (hnd : (entries.map (·.1)).Nodup) (rules : List IgnoreRule) (above : String) :
    ((subdirectoryPaths rules above entries).map (·.1)).Nodup := by
  have hsub : (subdirectoryPaths rules above entries).map (·.1) |>.Sublist (entries.map (·.1)) := by
    clear hnd
    induction entries with
    | nil => exact List.Sublist.refl _
    | cons entry rest ih =>
      obtain ⟨m, d⟩ := entry
      rw [subdirectoryPaths]
      split_ifs
      · exact ih.cons_cons m
      · exact ih.cons m
  exact hnd.sublist hsub

private theorem pairwise_sourceNames (hnd : (entries.map (·.1)).Nodup) (rules : List IgnoreRule) (above : String) :
    (sourceNames rules above entries).Pairwise (· < ·) := by
  have hkey : ∀ a b : String, decide (a < b) = true ↔ id a < id b := fun _ _ => decide_eq_true_iff
  refine pairwise_lt_sortBy hkey ?_
  rw [List.map_id]
  exact hnd.sublist (List.filter_sublist.map _)

/-- Whether steps lead from a path on to another. -/
private def Continues (above path : String) (names : List String) : Prop :=
  (∀ n ∈ names, Path.IsStep n) ∧ path = names.foldl below above

private theorem Continues.cons {above path : String} (hstep : Path.IsStep name)
    (h : Continues (below above name) path names) : Continues above path (name :: names) :=
  ⟨List.forall_mem_cons.2 ⟨hstep, h.1⟩, h.2⟩

/-- The paths that a walk lists come in the order of files. -/
private theorem pairwise_sourcePaths {e : Entry} {above : String} (hproper : e.isProper = true) :
    (sourcePaths rules above e).Pairwise fun p q =>
      ∃ ps qs, Continues above p ps ∧ Continues above q qs ∧ Precedes ps qs := by
  cases e with
  | file contents => simp [sourcePaths]
  | directory entries =>
    have hentries := hproper
    rw [isProper, Bool.and_eq_true_iff, decide_eq_true_iff, areProper_iff] at hentries
    obtain ⟨hnd, hentries⟩ := hentries
    have hfile : ∀ name ∈ sourceNames rules above entries, Continues above (below above name) [name] := by
      intro name hname
      rw [sourceNames, sortTexts, mem_sortBy] at hname
      obtain ⟨entry, hentry, rfl⟩ := List.mem_map.1 hname
      exact ⟨by simpa using (hentries _ (List.mem_of_mem_filter hentry)).1, rfl⟩
    -- what is listed for a subdirectory continues its name
    have hinside : ∀ x ∈ subdirectoryPaths rules above entries, ∀ path ∈ x.2,
        ∃ names ≠ [], Continues above path (x.1 :: names) := by
      intro x hx path hpath
      obtain ⟨c, hc, -, hpaths⟩ := exists_of_mem_subdirectoryPaths hx
      obtain ⟨hstep, -, hbelow⟩ := hentries _ hc
      rw [hpaths] at hpath
      obtain ⟨front, name, contents, -, hsteps, -, -, rfl⟩ := exists_of_mem_sourcePaths hbelow hpath
      exact ⟨front ++ [name], by simp, .cons hstep ⟨fun n hn => (hsteps n hn).1, rfl⟩⟩
    rw [sourcePaths, List.pairwise_append, List.pairwise_map, List.pairwise_flatMap]
    refine ⟨?files, ⟨?below, ?between⟩, ?across⟩
    case files =>
      refine (pairwise_sourceNames hnd rules above).imp_of_mem fun {a b} ha hb hlt => ?_
      exact ⟨[a], [b], hfile a ha, hfile b hb, .files hlt⟩
    case below =>
      intro x hx
      obtain ⟨c, hc, -, hpaths⟩ := exists_of_mem_subdirectoryPaths (mem_sortBy.1 hx)
      obtain ⟨hstep, -, hbelow⟩ := hentries _ hc
      have hsize : sizeOf c < sizeOf (directory entries) := by
        have := List.sizeOf_lt_of_mem hc
        simp only [Prod.mk.sizeOf_spec, directory.sizeOf_spec] at this ⊢
        omega
      rw [hpaths]
      refine (pairwise_sourcePaths hbelow).imp ?_
      rintro p q ⟨ps, qs, hps, hqs, hprecedes⟩
      exact ⟨x.1 :: ps, x.1 :: qs, hps.cons hstep, hqs.cons hstep, .inside hprecedes⟩
    case between =>
      -- the names of two subdirectories decide about all that is listed for them
      have hkey : ∀ a b : String × List String, decide (a.1 < b.1) = true ↔ a.1 < b.1 := fun _ _ =>
        decide_eq_true_iff
      refine (pairwise_lt_sortBy hkey (nodup_subdirectoryPaths hnd rules above)).imp_of_mem fun {x y} hx hy hlt => ?_
      intro p hp q hq
      obtain ⟨ps, hps, hpath⟩ := hinside x (mem_sortBy.1 hx) p hp
      obtain ⟨qs, hqs, hpath'⟩ := hinside y (mem_sortBy.1 hy) q hq
      exact ⟨x.1 :: ps, y.1 :: qs, hpath, hpath', .directories hlt hps hqs⟩
    case across =>
      intro p hp q hq
      obtain ⟨name, hname, rfl⟩ := List.mem_map.1 hp
      obtain ⟨x, hx, hq⟩ := List.mem_flatMap.1 hq
      obtain ⟨qs, hqs, hpath⟩ := hinside x (mem_sortBy.1 hx) q hq
      exact ⟨[name], x.1 :: qs, hfile name hname, hpath, .fileFirst hqs⟩
termination_by sizeOf e

/-- The names that lead somewhere in a proper entry are steps. -/
theorem Entry.isStep_of_nodeAt? {n : Node} (hproper : e.isProper = true) (h : e.nodeAt? names = some n) :
    ∀ name ∈ names, Path.IsStep name := by
  intro name hname
  obtain ⟨before, after, rfl⟩ := List.append_of_mem hname
  have hthere : (e.nodeAt? (before ++ [name])).isSome :=
    isSome_above (Option.isSome_of_eq_some h) ⟨after, by simp⟩
  exact (isStep_of_isSome hproper hthere).1

/-- A walk lists exactly the sources that it comes to. -/
theorem mem_sourcePaths_iff (hproper : e.isProper = true) : path ∈ sourcePaths rules "" e ↔
    ∃ front name contents, e.nodeAt? (front ++ [name]) = some (.file contents) ∧ lists rules front name = true ∧
      path = spelled (front ++ [name]) := by
  constructor
  · intro h
    obtain ⟨front, name, contents, hat, hsteps, hreaches, hsource, rfl⟩ := exists_of_mem_sourcePaths hproper h
    refine ⟨front, name, contents, nodeAt?_eq_file_iff.2 hat, ?_, foldl_below_spelled fun n hn => (hsteps n hn).1⟩
    rw [lists, hreaches, hsource]
    rfl
  · rintro ⟨front, name, contents, hat, hlists, rfl⟩
    rw [lists, Bool.and_eq_true_iff] at hlists
    rw [← foldl_below_spelled (isStep_of_nodeAt? hproper hat)]
    exact mem_sourcePaths_of_file hat hlists.1 hlists.2

/-- What is listed comes in the order of files. -/
theorem pairwise_precedes_sourcePaths (hproper : e.isProper = true) (rules : List IgnoreRule) :
    (sourcePaths rules "" e).Pairwise fun p q => Precedes (pathParts p) (pathParts q) := by
  refine (pairwise_sourcePaths hproper).imp ?_
  rintro _ _ ⟨ps, qs, ⟨hps, rfl⟩, ⟨hqs, rfl⟩, hprecedes⟩
  rw [foldl_below_spelled hps, foldl_below_spelled hqs, pathParts_spelled hps hprecedes.ne_nil.1,
    pathParts_spelled hqs hprecedes.ne_nil.2]
  exact hprecedes

/-! ### The filter -/

/-- Whether a directory of a name is known to hold no sources. -/
def IsForeign (name : String) : Prop := name ∈ excludedDirectories ∨ ".egg-info".toList <:+ name.toList

instance : Decidable (IsForeign name) := inferInstanceAs (Decidable (_ ∨ _))

/-- What a plain filter asks of the names that lead to a file: it is a module, and neither it nor a directory on the way to
it is to be left out. -/
structure IsSelected (rules : List IgnoreRule) (names : List String) : Prop where
  suffix : sourceSuffix.toList <:+ (names.getLastD "").toList
  directories : ∀ directory ∈ directoriesTo names,
    ¬IsForeign (directory.getLastD "") ∧ isIgnored rules (spelled directory) true = false
  kept : isIgnored rules (spelled names) false = false
  module : (moduleNameOf? (spelled names)).isSome

theorem entersDirectory_iff : entersDirectory rules above name = true ↔
    ¬IsForeign name ∧ isIgnored rules (below above name) true = false := by
  have hsuffix : ".egg-info".toList.isSuffixOf name.toList = false ↔ ¬".egg-info".toList <:+ name.toList := by
    rw [← List.isSuffixOf_iff_suffix, Bool.not_eq_true]
  rw [entersDirectory, Bool.and_eq_true_iff, Bool.and_eq_true_iff, Bool.not_eq_true', Bool.not_eq_true',
    Bool.not_eq_true', hsuffix, IsForeign, not_or, List.contains_eq_mem, decide_eq_false_iff_not]

/-- A walk comes to a place if it enters each of the directories on the way. -/
theorem reaches_iff (hsteps : ∀ n ∈ front, Path.IsStep n) : reaches rules "" front = true ↔
    ∀ directory, directory ≠ [] → directory <+: front →
      ¬IsForeign (directory.getLastD "") ∧ isIgnored rules (spelled directory) true = false := by
  induction front using List.reverseRecOn with
  | nil =>
    refine iff_of_true rfl fun directory hne hway => ?_
    exact absurd (List.prefix_nil.1 hway) hne
  | append_singleton front name ih =>
    have hlast : below (front.foldl below "") name = spelled (front ++ [name]) := by
      rw [← foldl_below_spelled hsteps, List.foldl_concat]
    rw [reaches_append, Bool.and_eq_true_iff, ih fun n hn => hsteps n (List.mem_append_left _ hn), reaches, reaches,
      Bool.and_true, entersDirectory_iff, hlast]
    constructor
    · rintro ⟨hfront, hname⟩ directory hne hway
      rcases List.prefix_concat_iff.1 hway with rfl | hway
      · simpa using hname
      · exact hfront directory hne hway
    · intro h
      refine ⟨fun directory hne hway => h directory hne (hway.trans (List.prefix_append _ _)), ?_⟩
      simpa using h (front ++ [name]) (by simp) (List.prefix_refl _)

/-- Of the modules, the walk lists those that the filter keeps. -/
theorem isSelected_iff (hsteps : ∀ n ∈ front ++ [name], Path.IsStep n) : IsSelected rules (front ++ [name]) ↔
    lists rules front name = true ∧ (moduleNameOf? (spelled (front ++ [name]))).isSome := by
  have hlast : below (front.foldl below "") name = spelled (front ++ [name]) := by
    rw [← foldl_below_spelled hsteps, List.foldl_concat]
  have hsource : isSource rules (front.foldl below "") name = true ↔
      sourceSuffix.toList <:+ name.toList ∧ isIgnored rules (spelled (front ++ [name])) false = false := by
    rw [isSource, hlast, Bool.and_eq_true_iff, List.isSuffixOf_iff_suffix, Bool.not_eq_true']
  rw [lists, Bool.and_eq_true_iff, reaches_iff fun n hn => hsteps n (List.mem_append_left _ hn), hsource]
  constructor
  · rintro ⟨hsuffix, hdirectories, hkept, hmodule⟩
    refine ⟨⟨fun directory hne hway => hdirectories directory ?_, by simpa using hsuffix, hkept⟩, hmodule⟩
    exact mem_directoriesTo.2 ⟨hne, by simpa using hway⟩
  · rintro ⟨⟨hdirectories, hsuffix, hkept⟩, hmodule⟩
    refine ⟨by simpa using hsuffix, fun directory hdirectory => ?_, hkept, hmodule⟩
    obtain ⟨hne, hway⟩ := mem_directoriesTo.1 hdirectory
    exact hdirectories directory hne (by simpa using hway)

/-- Names lead from a directory to a file. -/
theorem ne_nil_of_file (hkind : e.isDirectory = true) (hat : e.nodeAt? names = some (.file contents)) :
    names ≠ [] := by
  rintro rfl
  rw [nodeAt?_nil, Option.some.injEq, node_eq_file_iff] at hat
  rw [hat] at hkind
  cases hkind

/-- The files of a manifest are those that the filter keeps. -/
theorem mem_files_iff (hproper : e.isProper = true) (hkind : e.isDirectory = true) {f : SourceFile} :
    f ∈ (sourcePaths rules "" e).filterMap (sourceFile? tree root) ↔
      ∃ names contents, e.nodeAt? names = some (.file contents) ∧ IsSelected rules names ∧
        sourceFile? tree root (spelled names) = some f := by
  rw [List.mem_filterMap]
  constructor
  · rintro ⟨path, hpath, hf⟩
    obtain ⟨front, name, contents, hat, hlists, rfl⟩ := (mem_sourcePaths_iff hproper).1 hpath
    have hmodule : (moduleNameOf? (spelled (front ++ [name]))).isSome := by
      obtain ⟨module, hmodule, -⟩ := Option.map_eq_some_iff.1 hf
      rw [hmodule]
      rfl
    have hsteps := isStep_of_nodeAt? hproper hat
    exact ⟨front ++ [name], contents, hat, (isSelected_iff hsteps).2 ⟨hlists, hmodule⟩, hf⟩
  · rintro ⟨names, contents, hat, hselected, hf⟩
    obtain ⟨front, name, rfl⟩ := (List.eq_nil_or_concat' names).resolve_left (ne_nil_of_file hkind hat)
    have hsteps := isStep_of_nodeAt? hproper hat
    have hlists := ((isSelected_iff hsteps).1 hselected).1
    exact ⟨_, (mem_sourcePaths_iff hproper).2 ⟨front, name, contents, hat, hlists, rfl⟩, hf⟩

/-- The path of a source file spells the names that lead to it. -/
theorem path_of_sourceFile? {f : SourceFile} (hproper : e.isProper = true) (hkind : e.isDirectory = true)
    (hat : e.nodeAt? names = some (.file contents)) (hf : sourceFile? tree root (spelled names) = some f) :
    f.path = spelled names ∧ pathParts f.path = names := by
  obtain ⟨module, -, rfl⟩ := Option.map_eq_some_iff.1 hf
  exact ⟨rfl, pathParts_spelled (isStep_of_nodeAt? hproper hat) (ne_nil_of_file hkind hat)⟩

/-- A file is in a manifest exactly if the filter keeps it. -/
theorem exists_mem_files_iff (hproper : e.isProper = true) (hkind : e.isDirectory = true)
    (hat : e.nodeAt? names = some (.file contents)) :
    (∃ f ∈ (sourcePaths rules "" e).filterMap (sourceFile? tree root), f.path = spelled names) ↔
      IsSelected rules names := by
  constructor
  · rintro ⟨f, hf, hpath⟩
    obtain ⟨names', contents', hat', hselected, hf⟩ := (mem_files_iff hproper hkind).1 hf
    obtain ⟨-, hnames'⟩ := path_of_sourceFile? hproper hkind hat' hf
    have hnames : pathParts f.path = names := by
      rw [hpath]
      exact pathParts_spelled (isStep_of_nodeAt? hproper hat) (ne_nil_of_file hkind hat)
    rwa [← hnames, hnames']
  · intro hselected
    obtain ⟨module, hmodule⟩ := Option.isSome_iff_exists.1 hselected.module
    have hf : sourceFile? tree root (spelled names) = some _ := Option.map_eq_some_iff.2 ⟨module, hmodule, rfl⟩
    exact ⟨_, (mem_files_iff hproper hkind).2 ⟨names, contents, hat, hselected, hf⟩,
      (path_of_sourceFile? hproper hkind hat hf).1⟩

/-- The files of a manifest come in the order of their paths. -/
theorem pairwise_precedes_files (hproper : e.isProper = true) (rules : List IgnoreRule) (tree : Entry) (root : Path) :
    ((sourcePaths rules "" e).filterMap (sourceFile? tree root)).Pairwise fun f g =>
      Precedes (pathParts f.path) (pathParts g.path) := by
  rw [List.pairwise_filterMap]
  refine (pairwise_precedes_sourcePaths hproper rules).imp fun {p q} hprecedes f hf g hg => ?_
  obtain ⟨_, -, rfl⟩ := Option.map_eq_some_iff.1 hf
  obtain ⟨_, -, rfl⟩ := Option.map_eq_some_iff.1 hg
  exact hprecedes

/-! ### Trees that differ in their listing -/

/-- Whether the same stands at every place of two trees, in whatever order their directories list it. -/
def Entry.Alike (tree tree' : Entry) : Prop := ∀ names, tree'.nodeAt? names = tree.nodeAt? names

namespace Entry.Alike

private theorem locateFrom_eq (h : tree.Alike tree') (here parts : List String) :
    tree'.locateFrom here parts = tree.locateFrom here parts := by
  -- what a step finds depends on the places of the tree only
  induction parts generalizing here with
  | nil => rw [locateFrom, locateFrom]
  | cons name rest ih =>
    have hstep : tree'.step here name = tree.step here name := by rw [step, step, h]
    by_cases hhere : tree.nodeAt? here = some .directory
    · rw [locateFrom_cons hhere, locateFrom_cons ((h here).trans hhere), hstep]
      cases tree.step here name with
      | error problem => rfl
      | ok found =>
        cases found with
        | found next => exact ih next
        | free above name => rfl
    · have hnode := h here
      rw [nodeAt?, nodeAt?] at hnode
      rw [locateFrom, locateFrom]
      rw [nodeAt?] at hhere
      cases hat : tree.at? here with
      | none =>
        rw [hat, Option.map_none, Option.map_eq_none_iff] at hnode
        rw [hnode]
      | some d =>
        rw [hat, Option.map_some] at hnode hhere
        obtain ⟨d', hat', hkind⟩ := Option.map_eq_some_iff.1 hnode
        rw [hat']
        cases d with
        | directory entries => exact absurd rfl hhere
        | file contents =>
          rw [node_eq_file_iff.1 hkind]

theorem sameAt (h : tree.Alike tree') (p : Path) : tree.SameAt tree' p where
  locate := by rw [Entry.locate, Entry.locate, locateFrom_eq h]
  node place _ := h place

theorem hasDirectory_eq (h : tree.Alike tree') (p : Path) : tree'.hasDirectory p = tree.hasDirectory p :=
  hasDirectory_congr (h.sameAt p).locate fun place _ => by rw [kindAt?, kindAt?, h]

theorem load_eq (h : tree.Alike tree') (current : List String) (p : Path) :
    Settings.load tree' current p = Settings.load tree current p := by
  have hpath : Settings.pathFor tree' current p = Settings.pathFor tree current p := by
    simp only [Settings.pathFor, h.hasDirectory_eq]
  rw [Settings.load, Settings.load, hpath]
  cases Settings.pathFor tree current p with
  | error fault => rfl
  | ok file => simp only [hasEntry_congr (h.sameAt file).locate, (h.sameAt file).readText]

theorem scanRules_eq (h : tree.Alike tree') (root : Path) (excludes : List String) :
    scanRules tree' root excludes = scanRules tree root excludes := by
  have hignore : ignoreFileRules tree' root = ignoreFileRules tree root := by
    simp only [ignoreFileRules, hasEntry_congr (h.sameAt _).locate, (h.sameAt _).readText]
  have hsettings : settingsRules tree' root = settingsRules tree root := by
    rw [settingsRules, settingsRules, h.load_eq]
  rw [scanRules, scanRules, hignore, hsettings]

/-- A walk lists the same in trees that differ only in their listing. -/
theorem sourcePaths_eq (h : e.Alike e') (hproper : e.isProper = true) (hproper' : e'.isProper = true)
    (rules : List IgnoreRule) : sourcePaths rules "" e' = sourcePaths rules "" e := by
  refine eq_of_precedes pathParts (pairwise_precedes_sourcePaths hproper' rules)
    (pairwise_precedes_sourcePaths hproper rules) ?_
  intro path
  simp only [mem_sourcePaths_iff hproper', mem_sourcePaths_iff hproper, h _]

theorem symm (h : tree.Alike tree') : tree'.Alike tree := fun names => (h names).symm

private theorem exists_find (h : tree.Alike tree') (hproper : tree.isProper = true) (hproper' : tree'.isProper = true)
    (hfind : tree.find root = .ok e) :
    ∃ e', tree'.find root = .ok e' ∧ e.Alike e' ∧ e.isProper = true ∧ e'.isProper = true := by
  obtain ⟨place, hlocate, hat⟩ := find_eq_ok_iff.1 hfind
  have hnode := h place
  rw [nodeAt?, nodeAt?, hat, Option.map_some] at hnode
  obtain ⟨e', hat', -⟩ := Option.map_eq_some_iff.1 hnode
  have halike : e.Alike e' := by
    intro names
    have hbelow := h (place ++ names)
    rwa [nodeAt?_append hat', nodeAt?_append hat] at hbelow
  have hfind' : tree'.find root = .ok e' := find_eq_ok_iff.2 ⟨place, (h.sameAt root).locate.trans hlocate, hat'⟩
  exact ⟨e', hfind', halike, isProper_of_at? hproper hat, isProper_of_at? hproper' hat'⟩

/-- A scan finds the same in trees that differ only in their listing. -/
theorem scan_eq (h : tree.Alike tree') (hproper : tree.isProper = true) (hproper' : tree'.isProper = true)
    (current excludes : List String) (text : String) :
    scan tree' current excludes text = scan tree current excludes text := by
  rw [scan, scan]
  cases resolvePath current (Path.ofText text) with
  | error fault => rfl
  | ok root =>
    have hfiles : ∀ paths, sourceFiles tree' root paths = sourceFiles tree root paths := by
      intro paths
      have hfile : sourceFile? tree' root = sourceFile? tree root := by
        funext path
        simp only [sourceFile?, (h.sameAt _).readBytes]
      rw [sourceFiles, sourceFiles, hfile]
    simp only [hasEntry_congr (h.sameAt root).locate, h.hasDirectory_eq, h.scanRules_eq, hfiles]
    cases hfind : tree.find root with
    | ok e =>
      obtain ⟨e', hfind', halike, he, he'⟩ := h.exists_find hproper hproper' hfind
      simp only [hfind', halike.sourcePaths_eq he he']
    | error fault =>
      -- a root that one tree does not have is not in the other
      cases hfind' : tree'.find root with
      | ok e' =>
        obtain ⟨e, hfound, -⟩ := h.symm.exists_find hproper' hproper hfind'
        rw [hfind] at hfound
        cases hfound
      | error fault' => rfl

end Entry.Alike

/-! ### Scans -/

/-- No two files of a manifest have the same path. -/
theorem nodup_paths_files (hproper : e.isProper = true) (rules : List IgnoreRule) (tree : Entry) (root : Path) :
    (((sourcePaths rules "" e).filterMap (sourceFile? tree root)).map (·.path)).Nodup := by
  refine List.pairwise_map.2 ((pairwise_precedes_files hproper rules tree root).imp fun {f g} hprecedes heq => ?_)
  rw [heq] at hprecedes
  exact hprecedes.asymm hprecedes

/-- A scan whose rules can be read finds exactly the files that the filter keeps, each of them once and in the order of their
paths, however the directories list what they hold. -/
theorem scan_filters (hproper : tree.isProper = true) (hresolved : resolvePath current (Path.ofText text) = .ok root)
    (hfind : tree.find root = .ok (.directory entries)) (hrules : scanRules tree root excludes = .ok rules) :
    ∃ manifest records, scan tree current excludes text = .ok (manifest, records) ∧ manifest.root = root ∧
      (∀ f, f ∈ manifest.files ↔ ∃ names contents, (directory entries).nodeAt? names = some (.file contents) ∧
        IsSelected rules names ∧ sourceFile? tree root (spelled names) = some f) ∧
      manifest.files.Pairwise (fun f g => Precedes (pathParts f.path) (pathParts g.path)) ∧
      (manifest.files.map (·.path)).Nodup ∧
      ∀ tree' : Entry, tree'.isProper = true → tree.Alike tree' →
        scan tree' current excludes text = .ok (manifest, records) := by
  have hentries : (directory entries).isProper = true := isProper_of_find hproper hfind
  let files := (sourcePaths rules "" (directory entries)).filterMap (sourceFile? tree root)
  obtain ⟨records, hscan⟩ : ∃ records, scan tree current excludes text = .ok (⟨root, files⟩, records) :=
    scan_ok_iff.2 ⟨rules, entries, hresolved, hrules, hfind, rfl⟩
  refine ⟨⟨root, files⟩, records, hscan, rfl, fun f => mem_files_iff hentries rfl,
    pairwise_precedes_files hentries rules tree root, nodup_paths_files hentries rules tree root, ?_⟩
  intro tree' hproper' halike
  rw [halike.scan_eq hproper hproper', hscan]

/-- A project that lists its files in no order, with ignored, generated and unimportable ones among them. -/
def unsortedProject : Entry :=
  .directory [("p", .directory [
    ("views", .directory [("pay.py", .file []), ("pay_old.py", .file []), ("cart_old.py", .file []), ("cart.py", .file [])]),
    ("build", .directory [("setup.py", .file [])]),
    ("app.egg-info", .directory [("meta.py", .file [])]),
    ("drafts", .directory [("pay.py", .file [])]),
    ("setup.py", .file []), ("two words.py", .file []), ("notes.txt", .file []), ("app.py", .file []),
    (ignoreFileName, .file (Text.encode "drafts/\n*_old.py\n!cart_old.py\n"))])]

theorem scan_filters_unsorted :
    (unsortedProject.isProper = true ∧ resolvePath [] (Path.ofText "/p") = .ok (.absolute ["p"]) ∧
      (∃ entries, unsortedProject.find (.absolute ["p"]) = .ok (.directory entries)) ∧
      ∃ rules, scanRules unsortedProject (.absolute ["p"]) ["/setup.py"] = .ok rules) ∧
    ∃ manifest records, scan unsortedProject [] ["/setup.py"] "/p" = .ok (manifest, records) ∧
      manifest.files.map (·.path) = ["app.py", "views/cart.py", "views/cart_old.py", "views/pay.py"] ∧
      ∀ tree' : Entry, tree'.isProper = true → unsortedProject.Alike tree' →
        scan tree' [] ["/setup.py"] "/p" = .ok (manifest, records) := by
  have hproper : unsortedProject.isProper = true := by decide
  have hresolved : resolvePath [] (Path.ofText "/p") = .ok (.absolute ["p"]) := by decide
  have hfind : ∃ entries, unsortedProject.find (.absolute ["p"]) = .ok (.directory entries) := ⟨_, rfl⟩
  have hrules : scanRules unsortedProject (.absolute ["p"]) ["/setup.py"] = .ok [
      ⟨"drafts", true, false, false, false⟩, ⟨"*_old.py", false, false, false, false⟩,
      ⟨"cart_old.py", false, false, true, false⟩, ⟨"setup.py", false, true, false, false⟩] := by decide +kernel
  obtain ⟨entries, hentries⟩ := hfind
  obtain ⟨manifest, records, hscan, -, -, -, -, hlisting⟩ := scan_filters hproper hresolved hentries hrules
  refine ⟨⟨hproper, hresolved, ⟨entries, hentries⟩, ⟨_, hrules⟩⟩, manifest, records, hscan, ?_, hlisting⟩
  have hpaths : (scan unsortedProject [] ["/setup.py"] "/p").toOption.map (·.1.files.map (·.path)) =
      some ["app.py", "views/cart.py", "views/cart_old.py", "views/pay.py"] := by decide +kernel
  rw [hscan] at hpaths
  exact Option.some.inj hpaths

end NavFactory
