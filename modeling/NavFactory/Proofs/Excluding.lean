import NavFactory.Proofs.Filtering

/-!
# Patterns that are added to a scan

A pattern that comes with a scan is never taken back: it stands behind the rules of the source root, and it is not
negated.  So a scan with further patterns finds what the scan without them finds, but for the files that a pattern
covers (`scan_excluding`).
-/

namespace NavFactory

open Entry

variable {rules extra : List IgnoreRule} {tree : Entry} {names : List String} {text path : String} {root : Path}
  {current excludes excludes' : List String} {manifest : Manifest} {records : List LogRecord} {isDirectory : Bool}

/-! ### Rules that are added -/

/-- No rule of a list of patterns takes anything back. -/
theorem IgnoreRule.negated_of_mem_ofPatterns {rule : IgnoreRule} {patterns : List String}
    (h : rule ∈ IgnoreRule.ofPatterns patterns) : rule.negated = false := by
  obtain ⟨pattern, -, hrule⟩ := List.mem_filterMap.1 h
  rw [IgnoreRule.ofPattern?] at hrule
  split at hrule
  · cases hrule
  · cases hrule
    rfl

/-- Behind rules that take nothing back, a path is ignored if it was before or if one of them is about it. -/
theorem isIgnored_append (hextra : ∀ rule ∈ extra, rule.negated = false) :
    isIgnored (rules ++ extra) path isDirectory =
      (isIgnored rules path isDirectory || extra.any (·.applies path isDirectory)) := by
  induction extra using List.reverseRecOn with
  | nil => rw [List.append_nil, List.any_nil, Bool.or_false]
  | append_singleton extra rule ih =>
    obtain ⟨hbefore, hrule⟩ := List.forall_mem_append.1 hextra
    rw [← List.append_assoc, isIgnored, List.foldl_concat, ← isIgnored, ih hbefore, hrule rule List.mem_cons_self]
    simp only [List.any_append, List.any_cons, List.any_nil]
    cases rule.applies path isDirectory <;> simp

/-! ### Files that patterns cover -/

/-- Whether a rule is about a file or about a directory on the way to it. -/
def IsCovered (rules : List IgnoreRule) (names : List String) : Prop :=
  ∃ rule ∈ rules, rule.applies (spelled names) false = true ∨
    ∃ directory ∈ directoriesTo names, rule.applies (spelled directory) true = true

instance : Decidable (IsCovered rules names) :=
  inferInstanceAs (Decidable (∃ rule ∈ rules, _ ∨ ∃ directory ∈ directoriesTo names, _))

/-- Fewer rules cover fewer files. -/
theorem IsCovered.mono (hsubset : rules ⊆ extra) (h : IsCovered rules names) : IsCovered extra names := by
  obtain ⟨rule, hrule, habout⟩ := h
  exact ⟨rule, hsubset hrule, habout⟩

/-- Of the files that a filter keeps, further rules that take nothing back leave those that none of them covers. -/
theorem isSelected_append_iff (hextra : ∀ rule ∈ extra, rule.negated = false) :
    IsSelected (rules ++ extra) names ↔ IsSelected rules names ∧ ¬IsCovered extra names := by
  have hkept : ∀ path isDirectory, isIgnored (rules ++ extra) path isDirectory = false ↔
      isIgnored rules path isDirectory = false ∧ ∀ rule ∈ extra, ¬rule.applies path isDirectory = true := by
    intro path isDirectory
    rw [isIgnored_append hextra, Bool.or_eq_false_iff, List.any_eq_false]
  constructor
  · rintro ⟨hsuffix, hdirectories, hfile, hmodule⟩
    refine ⟨⟨hsuffix, fun directory hdirectory => ?_, ((hkept _ _).1 hfile).1, hmodule⟩, ?_⟩
    · exact (hdirectories directory hdirectory).imp_right fun h => ((hkept _ _).1 h).1
    · rintro ⟨rule, hrule, habout | ⟨directory, hdirectory, habout⟩⟩
      · exact ((hkept _ _).1 hfile).2 rule hrule habout
      · exact ((hkept _ _).1 (hdirectories directory hdirectory).2).2 rule hrule habout
  · rintro ⟨⟨hsuffix, hdirectories, hfile, hmodule⟩, huncovered⟩
    refine ⟨hsuffix, fun directory hdirectory => ⟨(hdirectories directory hdirectory).1, ?_⟩, ?_, hmodule⟩
    · refine (hkept _ _).2 ⟨(hdirectories directory hdirectory).2, fun rule hrule habout => huncovered ?_⟩
      exact ⟨rule, hrule, .inr ⟨directory, hdirectory, habout⟩⟩
    · exact (hkept _ _).2 ⟨hfile, fun rule hrule habout => huncovered ⟨rule, hrule, .inl habout⟩⟩

/-- The rules of a scan are those of the source root, and behind them those of the patterns that come with the scan. -/
theorem scanRules_eq_ok_iff : scanRules tree root excludes = .ok rules ↔
    ∃ own, scanRules tree root [] = .ok own ∧ rules = own ++ IgnoreRule.ofPatterns excludes := by
  rw [scanRules, scanRules]
  cases ignoreFileRules tree root with
  | error fault => simp [bind, Except.bind]
  | ok ignored =>
    cases settingsRules tree root with
    | error fault => simp [bind, Except.bind]
    | ok fromSettings => simp [bind, Except.bind, IgnoreRule.ofPatterns, eq_comm]

/-! ### Manifests -/

/-- What is left of a manifest without the files that patterns cover. -/
def Manifest.without (manifest : Manifest) (patterns : List String) : Manifest where
  root := manifest.root
  files := manifest.files.filter fun f => ¬IsCovered (IgnoreRule.ofPatterns patterns) (pathParts f.path)

/-- More patterns leave less. -/
theorem Manifest.sublist_without (manifest : Manifest) (hsubset : excludes ⊆ excludes') :
    (manifest.without excludes').files.Sublist (manifest.without excludes).files := by
  have hrules : IgnoreRule.ofPatterns excludes ⊆ IgnoreRule.ofPatterns excludes' := List.filterMap_subset _ hsubset
  refine List.monotone_filter_right manifest.files fun f hf => ?_
  rw [decide_eq_true_iff] at hf ⊢
  exact fun hcovered => hf (hcovered.mono hrules)

/-- The order of the patterns and their repetition do not matter. -/
theorem Manifest.without_congr (manifest : Manifest) (hsubset : excludes ⊆ excludes') (hsuperset : excludes' ⊆ excludes) :
    manifest.without excludes = manifest.without excludes' := by
  have hfiles : (manifest.without excludes).files = (manifest.without excludes').files :=
    (manifest.sublist_without hsuperset).antisymm (manifest.sublist_without hsubset)
  rw [Manifest.mk.injEq]
  exact ⟨rfl, hfiles⟩

/-- A scan with further patterns finds what is left of the manifest without them. -/
theorem scan_without (hproper : tree.isProper = true) (h : scan tree current [] text = .ok (manifest, records))
    (excludes : List String) : ∃ records', scan tree current excludes text = .ok (manifest.without excludes, records') := by
  obtain ⟨own, entries, hresolved, hown, hfind, hfiles⟩ := scan_ok_iff.1 ⟨records, h⟩
  have hentries : (directory entries).isProper = true := isProper_of_find hproper hfind
  have hextra : ∀ rule ∈ IgnoreRule.ofPatterns excludes, rule.negated = false := fun rule hrule =>
    IgnoreRule.negated_of_mem_ofPatterns hrule
  have hrules : scanRules tree manifest.root excludes = .ok (own ++ IgnoreRule.ofPatterns excludes) :=
    scanRules_eq_ok_iff.2 ⟨own, hown, rfl⟩
  refine scan_ok_iff.2 ⟨_, entries, hresolved, hrules, hfind, ?_⟩
  -- both lists come in the order of files, so it is enough to compare their elements
  refine eq_of_precedes (fun f => pathParts f.path) ?_
    (pairwise_precedes_files hentries (own ++ IgnoreRule.ofPatterns excludes) tree manifest.root) ?_
  · rw [Manifest.without, hfiles]
    exact (pairwise_precedes_files hentries own tree manifest.root).filter _
  · intro f
    rw [Manifest.without, hfiles, List.mem_filter, mem_files_iff hentries rfl, mem_files_iff hentries rfl,
      decide_eq_true_iff]
    have hparts : ∀ {names : List String} {contents : List UInt8},
        (directory entries).nodeAt? names = some (.file contents) →
        sourceFile? tree manifest.root (spelled names) = some f → pathParts f.path = names := fun hat hf =>
      (path_of_sourceFile? hentries rfl hat hf).2
    constructor
    · rintro ⟨⟨names, contents, hat, hselected, hf⟩, huncovered⟩
      rw [hparts hat hf] at huncovered
      exact ⟨names, contents, hat, (isSelected_append_iff hextra).2 ⟨hselected, huncovered⟩, hf⟩
    · rintro ⟨names, contents, hat, hselected, hf⟩
      obtain ⟨hselected, huncovered⟩ := (isSelected_append_iff hextra).1 hselected
      refine ⟨⟨names, contents, hat, hselected, hf⟩, ?_⟩
      rwa [hparts hat hf]

/-- Patterns that come with a scan only remove files, namely those that a pattern is about or that lie below a directory
that one is about, so that the order of the patterns and their repetition do not matter and more patterns leave less. -/
theorem scan_excluding (hproper : tree.isProper = true) (h : scan tree current [] text = .ok (manifest, records)) :
    (∀ excludes, ∃ records', scan tree current excludes text = .ok (manifest.without excludes, records')) ∧
    (∀ excludes excludes' found found' logged logged', scan tree current excludes text = .ok (found, logged) →
      scan tree current excludes' text = .ok (found', logged') → excludes ⊆ excludes' →
      found'.files.Sublist found.files ∧ (excludes' ⊆ excludes → found' = found)) := by
  refine ⟨scan_without hproper h, ?_⟩
  intro excludes excludes' found found' logged logged' hscan hscan' hsubset
  obtain ⟨_, hwithout⟩ := scan_without hproper h excludes
  obtain ⟨_, hwithout'⟩ := scan_without hproper h excludes'
  rw [hscan] at hwithout
  rw [hscan'] at hwithout'
  cases hwithout
  cases hwithout'
  exact ⟨manifest.sublist_without hsubset, fun hsuperset => manifest.without_congr hsuperset hsubset⟩

theorem scan_excluding_unsorted :
    (unsortedProject.isProper = true ∧ ∃ manifest records, scan unsortedProject [] [] "/p" = .ok (manifest, records)) ∧
    ∃ found, (∃ records, scan unsortedProject [] ["cart_old.py", "/setup.py"] "/p" = .ok (found, records)) ∧
      (∃ records, scan unsortedProject [] ["/setup.py", "cart_old.py", "/setup.py"] "/p" = .ok (found, records)) ∧
      found.files.map (·.path) = ["app.py", "views/cart.py", "views/pay.py"] := by
  have hproper : unsortedProject.isProper = true := by decide
  have hreadable : (scan unsortedProject [] [] "/p").toOption.map (·.1.files.map (·.path)) =
      some ["app.py", "setup.py", "views/cart.py", "views/cart_old.py", "views/pay.py"] := by decide +kernel
  cases hscan : scan unsortedProject [] [] "/p" with
  | error fault =>
    rw [hscan] at hreadable
    cases hreadable
  | ok scanned =>
    obtain ⟨manifest, records⟩ := scanned
    obtain ⟨hwithout, hsame⟩ := scan_excluding hproper hscan
    obtain ⟨records₁, hfirst⟩ := hwithout ["cart_old.py", "/setup.py"]
    obtain ⟨records₂, hsecond⟩ := hwithout ["/setup.py", "cart_old.py", "/setup.py"]
    have heq := (hsame _ _ _ _ _ _ hfirst hsecond (by decide)).2 (by decide)
    rw [heq] at hsecond
    refine ⟨⟨hproper, manifest, records, rfl⟩, _, ⟨records₁, hfirst⟩, ⟨records₂, hsecond⟩, ?_⟩
    have hpaths : (scan unsortedProject [] ["cart_old.py", "/setup.py"] "/p").toOption.map (·.1.files.map (·.path)) =
        some ["app.py", "views/cart.py", "views/pay.py"] := by decide +kernel
    rw [hfirst] at hpaths
    exact Option.some.inj hpaths

end NavFactory
