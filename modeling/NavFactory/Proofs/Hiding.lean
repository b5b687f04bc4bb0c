import NavFactory.Proofs.Roots

/-!
# Packages that are hidden from scans

A round leaves its own package out of the scans of its source roots by a pattern that spells the path of the output.
A pattern without special characters stands for nothing but the path that it spells (`Glob.matchesText_self`), and a
path of identifiers has none, so that the pattern ends every walk in front of the package (`reaches_eq_false`).  There
is no such pattern where the source root lies below the output directory, and so a file of the package comes to light
exactly there (`Settings.exists_below_packageDirectory_iff`).
-/

namespace NavFactory

open Entry

/-! ### Patterns without special characters -/

namespace Glob

/-- Whether no character of a text is special in a pattern. -/
def IsLiteral (cs : List Char) : Prop := ∀ c ∈ cs, c ≠ '*' ∧ c ≠ '?' ∧ c ≠ '['

private theorem piecesOf_literal {cs : List Char} (h : IsLiteral cs) {fuel : Nat} (hfuel : cs.length < fuel) :
    piecesOf fuel cs = cs.map .exactly := by
  induction cs generalizing fuel with
  | nil => cases fuel <;> rfl
  | cons c rest ih =>
    obtain ⟨⟨hstar, hquestion, hbracket⟩, hrest⟩ := List.forall_mem_cons.1 h
    obtain ⟨fuel, rfl⟩ := Nat.exists_eq_add_one_of_ne_zero (Nat.ne_zero_of_lt hfuel)
    rw [piecesOf, ih hrest (by rw [List.length_cons] at hfuel; omega), List.map_cons]
    · exact hstar
    · exact hquestion
    · exact hbracket

private theorem accepts_exactly (cs : List Char) : accepts (cs.map .exactly) cs = true := by
  induction cs with
  | nil => rfl
  | cons c rest ih => simp [accepts, pieceHolds, ih]

/-- A text without special characters stands for itself. -/
theorem matchesText_self {text : String} (h : IsLiteral text.toList) : matchesText text text = true := by
  rw [matchesText, ofText, piecesOf_literal h (by rw [String.length_toList]; omega), accepts_exactly]

end Glob

namespace IgnoreRule

/-- The rule about a single directory: it is bound to the root and limited to directories. -/
def forDirectory (path : String) : IgnoreRule := ⟨path, true, true, false, path.toList.contains '/'⟩

theorem ofPattern?_forDirectory (path : String) : ofPattern? ("/" ++ path ++ "/") = some (forDirectory path) := by
  have hchars : ("/" ++ path ++ "/").toList = '/' :: (path.toList ++ ['/']) := by simp
  have htrim : Text.trimChars ('/' :: (path.toList ++ ['/'])) = '/' :: (path.toList ++ ['/']) := by
    have hkept : ∀ cs : List Char, Text.trimRightChars (cs ++ ['/']) = cs ++ ['/'] := by
      intro cs
      induction cs with
      | nil => decide
      | cons c rest ih =>
        rw [List.cons_append, Text.trimRightChars, List.foldr_cons, ← Text.trimRightChars, ih]
        simp
    rw [Text.trimChars, List.dropWhile_cons_of_neg (by decide)]
    exact hkept ('/' :: path.toList)
  have hlast : ('/' :: (path.toList ++ ['/'])).getLast? = some '/' := List.getLast?_concat (l := '/' :: path.toList)
  have hdrop : ('/' :: (path.toList ++ ['/'])).dropLast = '/' :: path.toList := by
    rw [← List.cons_append, List.dropLast_concat]
  rw [ofPattern?, hchars, htrim]
  simp [hlast, hdrop, forDirectory]

theorem applies_forDirectory {path : String} (hne : path ≠ "") (h : Glob.IsLiteral path.toList) :
    (forDirectory path).applies path true = true := by
  simp [applies, forDirectory, hne, Glob.matchesText_self h]

end IgnoreRule

/-- The last rule that is about a path decides. -/
theorem isIgnored_concat {rules : List IgnoreRule} {rule : IgnoreRule} {path : String} {isDirectory : Bool}
    (h : rule.applies path isDirectory = true) : isIgnored (rules ++ [rule]) path isDirectory = !rule.negated := by
  rw [isIgnored, List.foldl_concat, if_pos h]

/-! ### Identifiers -/

namespace Text

theorem continuesIdentifier_of_starts {c : Char} (h : startsIdentifier c = true) : continuesIdentifier c = true := by
  rw [startsIdentifier, classOf] at h
  rw [continuesIdentifier, classOf]
  split_ifs at h ⊢
  · rw [Bool.or_eq_true] at h
    obtain h | h := h <;> simp [Char.isAlphanum, h]
  · simp [h]

/-- Every character of an identifier may continue one. -/
theorem continuesIdentifier_of_mem {s : String} (h : isIdentifier s = true) : ∀ c ∈ s.toList, continuesIdentifier c := by
  rw [isIdentifier] at h
  cases hs : s.toList with
  | nil => simp
  | cons c rest =>
    rw [hs, identifierChars, Bool.and_eq_true, List.all_eq_true] at h
    exact List.forall_mem_cons.2 ⟨continuesIdentifier_of_starts h.1, h.2⟩

/-- A character that cannot continue an identifier is not in one. -/
theorem notMem_of_isIdentifier {s : String} (h : isIdentifier s = true) {c : Char}
    (hc : continuesIdentifier c = false) : c ∉ s.toList := by
  intro hmem
  rw [continuesIdentifier_of_mem h c hmem] at hc
  cases hc

theorem ne_empty_of_isIdentifier {s : String} (h : isIdentifier s = true) : s ≠ "" := by
  rintro rfl
  cases h

end Text

theorem Path.isStep_of_isIdentifier {name : String} (h : Text.isIdentifier name = true) : IsStep name := by
  have hother : ∀ c, Text.continuesIdentifier c = false → [c] ≠ name.toList := fun c hc heq =>
    Text.notMem_of_isIdentifier h hc (heq ▸ List.mem_singleton_self c)
  have hparts : Text.parts '/' name = [name] := Text.parts_of_notMem (Text.notMem_of_isIdentifier h (by decide))
  refine isStep_of_mem_steps (List.mem_filter.2 ⟨by rw [hparts]; exact List.mem_singleton_self name, ?_⟩)
  have hdot : name ≠ "." := fun heq => hother '.' (by decide) (by rw [heq]; rfl)
  simp [Text.ne_empty_of_isIdentifier h, hdot]

/-! ### Directories of modules -/

section Walks

variable {rules : List IgnoreRule} {names front back hidden : List String} {name module path above : String}

/-- A character of joined names is a slash or in one of them. -/
theorem eq_or_mem_of_mem_intercalate {c : Char} (h : c ∈ ("/".intercalate names).toList) :
    c = '/' ∨ ∃ name ∈ names, c ∈ name.toList := by
  induction names with
  | nil => cases h
  | cons first rest ih =>
    by_cases hrest : rest = []
    · subst hrest
      exact .inr ⟨first, List.mem_cons_self, by simpa using h⟩
    · rw [String.intercalate_cons_of_ne_nil hrest, String.toList_append, String.toList_append, List.append_assoc,
        List.mem_append, List.mem_append] at h
      obtain h | h | h := h
      · exact .inr ⟨first, List.mem_cons_self, h⟩
      · exact .inl (by simpa using h)
      · exact (ih h).imp_right fun ⟨name, hname, hc⟩ => ⟨name, List.mem_cons_of_mem _ hname, hc⟩

/-- Identifiers joined by slashes have no special characters. -/
theorem isLiteral_intercalate (h : ∀ name ∈ names, Text.isIdentifier name = true) :
    Glob.IsLiteral ("/".intercalate names).toList := by
  intro c hc
  obtain rfl | ⟨name, hname, hc⟩ := eq_or_mem_of_mem_intercalate hc
  · decide
  · have hother : ∀ special, Text.continuesIdentifier special = false → c ≠ special := by
      rintro special hspecial rfl
      exact Text.notMem_of_isIdentifier (h name hname) hspecial hc
    exact ⟨hother _ (by decide), hother _ (by decide), hother _ (by decide)⟩

private theorem intercalate_ne_empty (hne : names ≠ []) (h : ∀ name ∈ names, name ≠ "") : "/".intercalate names ≠ "" := by
  obtain ⟨first, rest, rfl⟩ := List.exists_cons_of_ne_nil hne
  have hfirst : first ≠ "" := h first List.mem_cons_self
  cases rest <;> simp [String.append_eq_empty_iff, hfirst]

theorem reaches_append (rules : List IgnoreRule) (above : String) (front back : List String) :
    reaches rules above (front ++ back) = (reaches rules above front && reaches rules (front.foldl below above) back) := by
  induction front generalizing above with
  | nil => rfl
  | cons name rest ih => rw [List.cons_append, reaches, reaches, ih, List.foldl_cons, Bool.and_assoc]

/-- No walk comes through a directory of identifiers that the last rule is about. -/
theorem reaches_eq_false (hne : hidden ≠ []) (hidentifiers : ∀ name ∈ hidden, Text.isIdentifier name = true)
    (hthrough : hidden <+: names) :
    reaches (rules ++ [.forDirectory ("/".intercalate hidden)]) "" names = false := by
  obtain ⟨rest, rfl⟩ := hthrough
  obtain rfl | ⟨front, last, rfl⟩ := List.eq_nil_or_concat' hidden
  · exact absurd rfl hne
  · have hnonempty : ∀ name ∈ front ++ [last], name ≠ "" := fun name hname =>
      Text.ne_empty_of_isIdentifier (hidentifiers name hname)
    have hpath : below (front.foldl below "") last = "/".intercalate (front ++ [last]) := by
      rw [← foldl_below hnonempty, List.foldl_concat]
    have hignored : isIgnored (rules ++ [.forDirectory ("/".intercalate (front ++ [last]))])
        (below (front.foldl below "") last) true = true := by
      rw [hpath]
      exact isIgnored_concat (IgnoreRule.applies_forDirectory (intercalate_ne_empty hne hnonempty)
        (isLiteral_intercalate hidentifiers))
    rw [reaches_append, reaches_append, reaches, entersDirectory, hignored]
    simp

/-- The name of a source file is read off the path without its suffix. -/
theorem moduleNameOf?_append (stem : String) : moduleNameOf? (stem ++ sourceSuffix) =
    let parts := if (pathParts stem).getLast? = some "__init__" then (pathParts stem).dropLast else pathParts stem
    if parts ≠ [] ∧ ∀ n ∈ parts, Text.isIdentifier n = true then some (".".intercalate parts) else none := by
  have htake : (stem ++ sourceSuffix).toList.take ((stem ++ sourceSuffix).length - sourceSuffix.length) =
      stem.toList := by
    rw [String.length_append, Nat.add_sub_cancel, String.toList_append, ← String.length_toList, List.take_left]
  rw [moduleNameOf?, htake, String.ofList_toList]
  simp

/-- Every directory on the way to a module is an identifier. -/
theorem isIdentifier_of_moduleNameOf? (hsteps : ∀ n ∈ names ++ [name], Path.IsStep n)
    (hsuffix : sourceSuffix.toList.isSuffixOf name.toList = true)
    (h : moduleNameOf? ((names ++ [name]).foldl below "") = some module) :
    ∀ n ∈ names, Text.isIdentifier n = true := by
  obtain ⟨stem, hstem⟩ := List.isSuffixOf_iff_suffix.1 hsuffix
  have hname : name = String.ofList stem ++ sourceSuffix := by
    rw [← String.toList_inj, String.toList_append, String.toList_ofList, hstem]
  have hslash : ∀ n ∈ names ++ [String.ofList stem], '/' ∉ n.toList := by
    intro n hn
    obtain hn | hn := List.mem_append.1 hn
    · exact Path.slash_notMem_of_isStep (hsteps n (List.mem_append_left _ hn))
    · rw [List.mem_singleton.1 hn, String.toList_ofList]
      intro hmem
      have := Path.slash_notMem_of_isStep (hsteps name (List.mem_append_right _ List.mem_cons_self))
      rw [← hstem] at this
      exact this (List.mem_append_left _ hmem)
  have hpath : (names ++ [name]).foldl below "" = "/".intercalate (names ++ [String.ofList stem]) ++ sourceSuffix := by
    rw [foldl_below fun n hn => Path.ne_empty_of_isStep (hsteps n hn), hname]
    clear h hsteps hslash hname hstem hsuffix
    induction names with
    | nil => simp
    | cons first rest ih => cases rest <;> simp_all [String.append_assoc]
  have hparts : pathParts ("/".intercalate (names ++ [String.ofList stem])) = names ++ [String.ofList stem] :=
    Text.parts_intercalate hslash (by simp)
  rw [hpath, moduleNameOf?_append, hparts] at h
  dsimp only at h
  split_ifs at h with hinit hall hall
  · rw [List.dropLast_concat] at hall
    exact hall.2
  · exact fun n hn => hall.2 n (List.mem_append_left _ hn)

end Walks

/-! ### Manifests -/

variable {tree : Entry} {current excludes : List String} {request : Request} {settings : Settings}
  {root sourceRoot p above : Path} {manifest : Manifest} {records : List LogRecord} {text : String} {f : SourceFile}

/-- The manifest that the declarations of a source root are read from. -/
def sourceManifest (tree : Entry) (current : List String) (settings : Settings) (sourceRoot : Path) :
    Except RoundFault Manifest := do
  let excludes ← (scanExcludes settings sourceRoot).mapError .unresolved
  let (manifest, _) ← (scan tree current excludes sourceRoot.text).mapError .scan
  .ok manifest

/-- The declarations of a source root are those of the files in its manifest. -/
theorem result_readSourceRoot (tree : Entry) (current : List String) (settings : Settings) (sourceRoot : Path) :
    (readSourceRoot tree current settings sourceRoot).result = (do
      let manifest ← sourceManifest tree current settings sourceRoot
      (Trace.forEach (readFile tree manifest.root) manifest.files).result.map List.flatten) := by
  rw [readSourceRoot, sourceManifest]
  simp only [bind, Trace.andThen, Trace.lift, Except.bind]
  cases (scanExcludes settings sourceRoot).mapError RoundFault.unresolved with
  | error fault => rfl
  | ok excludes =>
    dsimp only
    cases (scan tree current excludes sourceRoot.text).mapError RoundFault.scan with
    | error fault => rfl
    | ok scanned =>
      simp only [Trace.log]
      cases (Trace.forEach (readFile tree scanned.1.root) scanned.1.files).result <;> rfl

theorem sourceManifest_eq_ok_iff : sourceManifest tree current settings sourceRoot = .ok manifest ↔
    ∃ excludes records, scanExcludes settings sourceRoot = .ok excludes ∧
      scan tree current excludes sourceRoot.text = .ok (manifest, records) := by
  rw [sourceManifest]
  cases hexcludes : scanExcludes settings sourceRoot with
  | error fault => simp [Except.mapError, bind, Except.bind]
  | ok excludes =>
    cases hscan : scan tree current excludes sourceRoot.text with
    | error fault => simp [Except.mapError, bind, Except.bind, hscan]
    | ok scanned =>
      obtain ⟨found, records⟩ := scanned
      simp [Except.mapError, bind, Except.bind, hscan]

/-- The pattern for the output comes after those of the settings. -/
theorem excludes_eq (hnull : sourceRoot.hasNull = false) (h : scanExcludes settings sourceRoot = .ok excludes) :
    excludes = settings.excludePaths ++ (outputPattern? settings sourceRoot).toList := by
  obtain ⟨-, -, h⟩ := bind_eq_ok_iff.1 h
  rw [resolvePath_eq_ok_iff.2 ⟨hnull, rfl⟩] at h
  cases h
  rfl

/-- A scan finds what a walk through the directory of its root lists. -/
theorem scan_ok_iff : (∃ records, scan tree current excludes text = .ok (manifest, records)) ↔
    ∃ rules entries, resolvePath current (Path.ofText text) = .ok manifest.root ∧
      scanRules tree manifest.root excludes = .ok rules ∧ tree.find manifest.root = .ok (.directory entries) ∧
      manifest.files = (sourcePaths rules "" (.directory entries)).filterMap (sourceFile? tree manifest.root) := by
  constructor
  · rintro ⟨records, h⟩
    rw [scan] at h
    split at h
    · cases h
    · rename_i resolved hresolved
      obtain ⟨-, rfl⟩ := resolvePath_eq_ok_iff.1 hresolved
      split at h
      all_goals try cases h
      rename_i hdirectory
      obtain ⟨rules, hrules, h⟩ := bind_eq_ok_iff.1 h
      obtain ⟨here, hlocate, hhere⟩ := found_of_hasDirectory hdirectory
      obtain ⟨entries, hat⟩ := nodeAt?_eq_directory_iff.1 hhere
      have hfind := find_eq_ok_iff.2 ⟨here, hlocate, hat⟩
      rw [hfind] at h
      cases h
      exact ⟨rules, entries, hresolved, hrules, hfind, rfl⟩
  · rintro ⟨rules, entries, hresolved, hrules, hfind, hfiles⟩
    have hthere : ∀ test, tree.holds manifest.root test = .ok (test (.directory entries)) := fun test => by
      rw [holds, hfind]
    simp only [scan, hresolved, hasEntry, hasDirectory, hthere, isDirectory, hrules, hfind, bind, Except.bind, sourceFiles,
      ← hfiles]
    exact ⟨_, rfl⟩

/-- A file of a manifest lies behind directories of identifiers that the scan has come through. -/
theorem exists_of_mem_files (hproper : tree.isProper = true)
    (h : scan tree current excludes text = .ok (manifest, records)) (hf : f ∈ manifest.files) :
    ∃ names name rules, manifest.root.child f.path = ⟨manifest.root.root, manifest.root.parts ++ (names ++ [name])⟩ ∧
      (∀ n ∈ names, Text.isIdentifier n = true) ∧ scanRules tree manifest.root excludes = .ok rules ∧
      reaches rules "" names = true := by
  obtain ⟨rules, entries, -, hrules, hfind, hfiles⟩ := scan_ok_iff.1 ⟨records, h⟩
  rw [hfiles] at hf
  obtain ⟨path, hpath, hsource⟩ := List.mem_filterMap.1 hf
  obtain ⟨module, hmodule, rfl⟩ := Option.map_eq_some_iff.1 hsource
  obtain ⟨names, name, contents, -, hsteps, hreaches, hsuffix, rfl⟩ :=
    exists_of_mem_sourcePaths (isProper_of_find hproper hfind) hpath
  have hsteps' : ∀ n ∈ names ++ [name], Path.IsStep n := fun n hn => (hsteps n hn).1
  refine ⟨names, name, rules, ?_, ?_, hrules, hreaches⟩
  · rw [Path.child, Path.ofText_foldl_below hsteps', Path.join_relative _ _ rfl]
  · exact isIdentifier_of_moduleNameOf? hsteps' (Bool.and_eq_true_iff.1 hsuffix).1 hmodule

/-! ### Files of the package -/

/-- Whether a path lies strictly below another. -/
def Path.IsBelow (p above : Path) : Prop := p.root = above.root ∧ ∃ rest ≠ [], p.parts = above.parts ++ rest

namespace Path

theorem collapse_append (done front back : List String) :
    collapse done (front ++ back) = collapse (collapse done front) back := by
  induction front generalizing done with
  | nil => rfl
  | cons part rest ih =>
    by_cases hup : part = ".."
    · rw [hup, List.cons_append, collapse, collapse, ih]
    · have hother : part = ".." → False := hup
      rw [List.cons_append, collapse, collapse, ih] <;> exact hother

theorem resolved_nil (p : Path) : p.resolved [] = absolute (collapse [] p.parts) := by
  rw [resolved, resolve, ite_self]

theorem partsBelow_eq_some_iff {above parts rest : List String} :
    partsBelow above parts = some rest ↔ parts = above ++ rest := by
  constructor
  · intro h
    induction above generalizing parts with
    | nil => exact Option.some.inj h
    | cons a above ih =>
      cases parts with
      | nil => cases h
      | cons b parts =>
        rw [partsBelow] at h
        split_ifs at h with hsame
        rw [ih h, beq_iff_eq.1 hsame, List.cons_append]
  · rintro rfl
    exact partsBelow_append above rest

end Path

/-- The rule about a single directory is the last one of a scan. -/
private theorem exists_rules_of_pattern {hidden : String} {rules : List IgnoreRule}
    (h : scanRules tree root (excludes ++ ["/" ++ hidden ++ "/"]) = .ok rules) :
    ∃ own, rules = own ++ [.forDirectory hidden] := by
  rw [scanRules] at h
  obtain ⟨own, -, h⟩ := bind_eq_ok_iff.1 h
  obtain ⟨ofSettings, -, h⟩ := bind_eq_ok_iff.1 h
  cases h
  refine ⟨own ++ ofSettings ++ IgnoreRule.ofPatterns excludes, ?_⟩
  simp [IgnoreRule.ofPatterns, IgnoreRule.ofPattern?_forDirectory]

/-- No walk comes through the directory that the pattern of a scan spells, if that is one of identifiers. -/
private theorem reaches_of_pattern {hidden names : List String} {rules : List IgnoreRule}
    (h : scanRules tree root (excludes ++ ["/" ++ (⟨"", hidden⟩ : Path).text ++ "/"]) = .ok rules) (hne : hidden ≠ [])
    (hidentifiers : ∀ name ∈ hidden, Text.isIdentifier name = true) (hthrough : hidden <+: names) :
    reaches rules "" names = false := by
  have hspelled : (⟨"", hidden⟩ : Path).text = "/".intercalate hidden := by
    have := intercalate_ne_empty hne fun name hname => Text.ne_empty_of_isIdentifier (hidentifiers name hname)
    simp [Path.text, this]
  rw [hspelled] at h
  obtain ⟨own, rfl⟩ := exists_rules_of_pattern h
  exact reaches_eq_false hne hidentifiers hthrough

/-- The pattern that spells a directory keeps everything below it out of a manifest. -/
theorem not_exists_below_of_pattern {hidden more : List String} (hproper : tree.isProper = true)
    (h : scan tree current (excludes ++ ["/" ++ (⟨"", hidden⟩ : Path).text ++ "/"]) text = .ok (manifest, records))
    (hne : hidden ≠ []) (habove : above.parts = manifest.root.parts ++ (hidden ++ more)) :
    ¬∃ f ∈ manifest.files, (manifest.root.child f.path).IsBelow above := by
  rintro ⟨f, hf, -, rest, hrest, hparts⟩
  obtain ⟨names, name, rules, hchild, hidentifiers, hrules, hreaches⟩ := exists_of_mem_files hproper h hf
  rw [hchild, habove, List.append_assoc, List.append_cancel_left_eq] at hparts
  have hthrough : hidden <+: names := by
    obtain hsame | hprefix := List.prefix_concat_iff.1 (⟨more ++ rest, by rw [hparts, List.append_assoc]⟩ :
      hidden <+: names ++ [name])
    · rw [hsame, List.append_assoc, List.self_eq_append_right] at hparts
      exact absurd (List.append_eq_nil_iff.1 hparts).2 hrest
    · exact hprefix
  rw [reaches_of_pattern hrules hne (fun name hname => hidentifiers name (hthrough.subset hname)) hthrough] at hreaches
  cases hreaches

/-- The names of the package are behind those of the output directory. -/
private theorem packageDirectory_resolved (hpackage : Settings.isPackageName settings.package = true) :
    ∃ names ≠ [], settings.packageDirectory.resolved [] =
      .absolute ((settings.directory.resolved []).parts ++ names) := by
  have hidentifiers : ∀ name ∈ Text.parts '.' settings.package, Text.isIdentifier name = true := by
    rwa [Settings.isPackageName, List.all_eq_true] at hpackage
  have hup : ".." ∉ Text.parts '.' settings.package := fun hmem => absurd (hidentifiers _ hmem) (by decide)
  refine ⟨Text.parts '.' settings.package, by simp [Text.parts, List.splitOn_ne_nil], ?_⟩
  rw [Path.resolved_nil, Settings.packageDirectory, Path.join_relative _ _ rfl, Path.collapse_append,
    Path.collapse_of_notMem hup, Path.resolved_nil]
  rfl

/-- The pattern for the output spells the way from a source root to the package, or to a directory above it, unless the
source root is not above the output directory. -/
private theorem outputPattern?_cases (hpackage : Settings.isPackageName settings.package = true) (sourceRoot : Path) :
    (∃ hidden more, hidden ≠ [] ∧ outputPattern? settings sourceRoot = some ("/" ++ (⟨"", hidden⟩ : Path).text ++ "/") ∧
      (settings.packageDirectory.resolved []).parts = (sourceRoot.resolved []).parts ++ (hidden ++ more) ∧
      (sourceRoot.resolved []).parts <+: (settings.directory.resolved []).parts) ∨
    outputPattern? settings sourceRoot = none ∧
      ¬(sourceRoot.resolved []).parts <+: (settings.directory.resolved []).parts := by
  obtain ⟨package, hne, hdirectory⟩ := packageDirectory_resolved hpackage
  rw [outputPattern?, hdirectory, Path.resolved_nil, Path.resolved_nil, Path.absolute, Path.absolute]
  generalize Path.collapse [] sourceRoot.parts = sources
  generalize Path.collapse [] settings.directory.parts = output
  simp only [Path.relativeTo?, Path.absolute, beq_self_eq_true, if_true]
  cases hrelative : Path.partsBelow sources output with
  | none =>
    refine .inr ⟨rfl, ?_⟩
    rintro ⟨rest, hrest⟩
    rw [Path.partsBelow_eq_some_iff.2 hrest.symm] at hrelative
    cases hrelative
  | some rest =>
    rw [Path.partsBelow_eq_some_iff] at hrelative
    subst hrelative
    left
    cases rest with
    | nil =>
      refine ⟨package, [], hne, ?_, by simp, List.prefix_append _ _⟩
      simp [Path.partsBelow_append]
    | cons first rest => exact ⟨first :: rest, package, List.cons_ne_nil _ _, by simp, by simp, List.prefix_append _ _⟩

/-- A source root that has a path in common with the package, and is not above the output directory, lies strictly below
that. -/
private theorem isBelow_of_notAbove {names : List String} (hpackage : Settings.isPackageName settings.package = true)
    (habove : ¬(sourceRoot.resolved []).parts <+: (settings.directory.resolved []).parts)
    (hsource : (sourceRoot.resolved []).parts <+: names) (hway : (settings.packageDirectory.resolved []).parts <+: names) :
    (sourceRoot.resolved []).IsBelow (settings.directory.resolved []) := by
  obtain ⟨package, -, hresolved⟩ := packageDirectory_resolved hpackage
  rw [hresolved] at hway
  have hdirectory : (settings.directory.resolved []).parts <+: names := (List.prefix_append _ _).trans hway
  obtain ⟨between, hbetween⟩ := (List.prefix_or_prefix_of_prefix hdirectory hsource).resolve_right habove
  refine ⟨rfl, between, ?_, hbetween.symm⟩
  rintro rfl
  rw [List.append_nil] at hbetween
  exact habove (hbetween ▸ List.prefix_refl _)

/-- The package directory of a project is rooted if the names that a request starts from are steps. -/
theorem isRooted_packageDirectory (hdirectory : settings.directory.IsRooted)
    (hpackage : Settings.isPackageName settings.package = true) : settings.packageDirectory.IsRooted := by
  rw [Settings.isPackageName, List.all_eq_true] at hpackage
  rw [Settings.packageDirectory, Path.join_relative _ _ rfl]
  refine ⟨hdirectory.root, fun name hname => ?_⟩
  obtain hname | hname := List.mem_append.1 hname
  · exact hdirectory.steps name hname
  · exact Path.isStep_of_isIdentifier (hpackage name hname)

/-- Whether nothing hides the package of a project from a source root above it. -/
def Settings.Exposes (settings : Settings) (sourceRoot : Path) : Prop :=
  (sourceRoot.resolved []).IsBelow (settings.directory.resolved []) ∧
    (sourceRoot.resolved []).parts <+: (settings.packageDirectory.resolved []).parts

/-- Below a source root that the package is not exposed to, a module in the package is not listed. -/
theorem lists_eq_false_of_not_exposes {names : List String} {name module : String} {rules : List IgnoreRule}
    (hpackage : Settings.isPackageName settings.package = true) (hrooted : settings.packageDirectory.IsRooted)
    (hhidden : ¬settings.Exposes sourceRoot)
    (hrules : scanRules tree root (settings.excludePaths ++ (outputPattern? settings sourceRoot).toList) = .ok rules)
    (hway : (settings.packageDirectory.resolved []).parts = (sourceRoot.resolved []).parts ++ names)
    (hname : Path.IsStep name) (hmodule : moduleNameOf? ((names ++ [name]).foldl below "") = some module) :
    lists rules names name = false := by
  by_contra hlists
  rw [Bool.not_eq_false, lists, Bool.and_eq_true_iff, isSource, Bool.and_eq_true_iff] at hlists
  obtain ⟨hreaches, hsuffix, -⟩ := hlists
  have hsteps : ∀ n ∈ names ++ [name], Path.IsStep n := by
    refine List.forall_mem_append.2 ⟨fun n hn => (hrooted.resolved []).steps n ?_, by simpa using hname⟩
    rw [hway]
    exact List.mem_append_right _ hn
  have hidentifiers := isIdentifier_of_moduleNameOf? hsteps hsuffix hmodule
  obtain ⟨hidden, more, hne, hpattern, hspelled, -⟩ | ⟨-, habove⟩ := outputPattern?_cases hpackage sourceRoot
  · rw [hpattern, Option.toList_some] at hrules
    obtain rfl : names = hidden ++ more := List.append_cancel_left (hway.symm.trans hspelled)
    have hspells : ∀ n ∈ hidden, Text.isIdentifier n = true := fun n hn => hidentifiers n (List.mem_append_left _ hn)
    rw [reaches_of_pattern hrules hne hspells (List.prefix_append _ _)] at hreaches
    cases hreaches
  · have hsource : (sourceRoot.resolved []).parts <+: (settings.packageDirectory.resolved []).parts := ⟨names, hway.symm⟩
    exact hhidden ⟨isBelow_of_notAbove hpackage habove hsource (List.prefix_refl _), hsource⟩

/-- A file inside the generated package is in the manifest of a source root exactly if the source root lies strictly below
the output directory, where nothing hides the package, and a scan by the patterns of the settings finds such a file. -/
theorem Settings.exists_below_packageDirectory_iff (hproper : tree.isProper = true)
    (hroot : projectRoot tree current request.path = .ok root)
    (hsettings : requestedSettings tree current root request.output = .ok settings)
    (hsource : sourceRoot ∈ settings.sourceRoots)
    (hmanifest : sourceManifest tree current settings sourceRoot = .ok manifest) :
    (∃ f ∈ manifest.files, (manifest.root.child f.path).IsBelow (settings.packageDirectory.resolved [])) ↔
      (sourceRoot.resolved []).IsBelow (settings.directory.resolved []) ∧
        ∃ plain records, scan tree current settings.excludePaths sourceRoot.text = .ok (plain, records) ∧
          ∃ f ∈ plain.files, (plain.root.child f.path).IsBelow (settings.packageDirectory.resolved []) := by
  obtain ⟨hrooted, hpackage⟩ := isRooted_sourceRoots hproper hroot hsettings
  obtain ⟨excludes, records, hexcludes, hscan⟩ := sourceManifest_eq_ok_iff.1 hmanifest
  obtain ⟨-, -, hplace, -⟩ := scan_ok_iff.1 ⟨records, hscan⟩
  rw [(hrooted _ hsource).ofText_text, resolvePath_eq_ok_iff] at hplace
  obtain ⟨hnull, htop⟩ := hplace
  rw [Path.resolved_of_isAbsolute (hrooted _ hsource).isAbsolute] at htop
  have hpatterns := excludes_eq hnull hexcludes
  obtain ⟨hidden, more, hne, hpattern, hway, habove⟩ | ⟨hpattern, habove⟩ := outputPattern?_cases hpackage sourceRoot
  · -- the package is hidden, and the source root is not below the output directory
    rw [hpatterns, hpattern, Option.toList_some] at hscan
    refine iff_of_false (not_exists_below_of_pattern hproper hscan hne (by rw [hway, htop])) ?_
    rintro ⟨⟨-, rest, hrest, hbelow⟩, -⟩
    obtain ⟨between, hbetween⟩ := habove
    rw [← hbetween, List.append_assoc, List.self_eq_append_right] at hbelow
    exact hrest (List.append_eq_nil_iff.1 hbelow).2
  · -- nothing is hidden, so that the scan is the one by the patterns of the settings
    rw [hpattern, Option.toList_none, List.append_nil] at hpatterns
    rw [hpatterns] at hscan
    constructor
    · intro hexists
      refine ⟨?_, manifest, records, hscan, hexists⟩
      obtain ⟨f, hf, -, rest, -, hparts⟩ := hexists
      obtain ⟨names, name, -, hchild, -⟩ := exists_of_mem_files hproper hscan hf
      rw [hchild, htop] at hparts
      exact isBelow_of_notAbove hpackage habove (List.prefix_append _ _) ⟨rest, hparts.symm⟩
    · rintro ⟨-, plain, records', hplain, hexists⟩
      rw [hscan] at hplain
      cases hplain
      exact hexists

/-- A project whose sources are below its output directory, with a file in the package that goes there. -/
def nestedProject : Entry :=
  .directory [("p", .directory [
    (settingsFileName, .file (Text.encode "source_roots: [src]\noutput:\n  directory: .\n  package: src.gen\n")),
    ("src", .directory [("gen", .directory [("screens.py", .file [])])])])]

def nestedRequest : Request where
  path := "/p"

def nestedSettings : Settings where
  root := .absolute ["p"]
  sourceRoots := [.absolute ["p", "src"]]
  directory := .absolute ["p"]
  package := "src.gen"

def nestedManifest : Manifest where
  root := .absolute ["p", "src"]
  files := [⟨"gen/screens.py", "gen.screens", 0, Digest.sha256 []⟩]

private theorem nested_read : nestedProject.isProper = true ∧
    projectRoot nestedProject [] nestedRequest.path = .ok (.absolute ["p"]) ∧
    requestedSettings nestedProject [] (.absolute ["p"]) nestedRequest.output = .ok nestedSettings ∧
    .absolute ["p", "src"] ∈ nestedSettings.sourceRoots ∧
    sourceManifest nestedProject [] nestedSettings (.absolute ["p", "src"]) = .ok nestedManifest := by
  decide +kernel

theorem Settings.exists_below_packageDirectory_nested :
    (nestedProject.isProper = true ∧ projectRoot nestedProject [] nestedRequest.path = .ok (.absolute ["p"]) ∧
      requestedSettings nestedProject [] (.absolute ["p"]) nestedRequest.output = .ok nestedSettings ∧
      .absolute ["p", "src"] ∈ nestedSettings.sourceRoots ∧
      sourceManifest nestedProject [] nestedSettings (.absolute ["p", "src"]) = .ok nestedManifest) ∧
    ((∃ f ∈ nestedManifest.files, (nestedManifest.root.child f.path).IsBelow
        (nestedSettings.packageDirectory.resolved [])) ↔
      ((Path.absolute ["p", "src"]).resolved []).IsBelow (nestedSettings.directory.resolved []) ∧
        ∃ plain records, scan nestedProject [] nestedSettings.excludePaths (Path.absolute ["p", "src"]).text =
            .ok (plain, records) ∧
          ∃ f ∈ plain.files, (plain.root.child f.path).IsBelow (nestedSettings.packageDirectory.resolved [])) :=
  have ⟨hproper, hroot, hsettings, hsource, hmanifest⟩ := nested_read
  ⟨nested_read,
    exists_below_packageDirectory_iff hproper hroot hsettings hsource hmanifest⟩

/-- A file inside the generated package may be in a manifest. -/
theorem Settings.exists_source_in_package :
    ¬∀ (tree : Entry) (current : List String) (request : Request) (root : Path) (settings : Settings)
      (sourceRoot : Path) (manifest : Manifest), tree.isProper = true →
      projectRoot tree current request.path = .ok root →
      requestedSettings tree current root request.output = .ok settings → sourceRoot ∈ settings.sourceRoots →
      sourceManifest tree current settings sourceRoot = .ok manifest →
      ∀ f ∈ manifest.files, ¬(manifest.root.child f.path).IsBelow (settings.packageDirectory.resolved []) := by
  intro hall
  obtain ⟨hproper, hroot, hsettings, hsource, hmanifest⟩ := nested_read
  refine hall nestedProject [] nestedRequest _ nestedSettings _ nestedManifest hproper hroot hsettings hsource
    hmanifest _ List.mem_cons_self ⟨by decide, ["screens.py"], List.cons_ne_nil _ _, ?_⟩
  decide

end NavFactory
