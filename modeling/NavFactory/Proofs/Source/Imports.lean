import NavFactory.Proofs.Source.Definitions

/-!
# Imports

Lines that import names from a module: how they are cut into tokens and when they are read.
-/

namespace NavFactory.Source

open NavFactory.Source.Parser

/-- A name that is imported, perhaps under another name. -/
structure ImportEntry where
  name : String
  alias? : Option String

namespace ImportEntry

def shown (e : ImportEntry) : String :=
  match e.alias? with
  | none => e.name
  | some id => e.name ++ " as " ++ id

def kinds (e : ImportEntry) (tail : List TokenKind) : List TokenKind :=
  match e.alias? with
  | none => wordKinds e.name tail
  | some id => wordKinds e.name (.keyword "as" :: wordKinds id tail)

/-- Whether the words of an entry are words. -/
def HasWords (e : ImportEntry) : Prop := IsWord e.name.toList ∧ ∀ id, e.alias? = some id → IsWord id.toList

/-- Whether the words of an entry are names. -/
def isReadable (e : ImportEntry) : Bool := isName e.name && e.alias?.all isName

/-- The name that an entry gives, as it is read. -/
def imported (e : ImportEntry) : ImportedName := ⟨Text.composed e.name, e.alias?.map Text.composed⟩

end ImportEntry

/-- An import of names from a module, perhaps one beside the module that imports it. -/
structure ImportForm where
  relative : Bool
  /-- The parts of the name of the module, behind the first. -/
  first : String
  rest : List String
  entry : ImportEntry
  entries : List ImportEntry

namespace ImportForm

def parts (f : ImportForm) : List String := f.first :: f.rest

/-- The text of an import. -/
def shown (f : ImportForm) : String :=
  "from " ++ (if f.relative then "." else "") ++ ".".intercalate f.parts ++ " import " ++
    ", ".intercalate ((f.entry :: f.entries).map ImportEntry.shown)

/-- The kinds of tokens from the name of the module on. -/
def path (f : ImportForm) (tail : List TokenKind) : List TokenKind := wordKinds f.first (followers "." wordKinds f.rest tail)

/-- The kinds of tokens from the imported names on. -/
def names (f : ImportForm) (tail : List TokenKind) : List TokenKind :=
  f.entry.kinds (followers "," ImportEntry.kinds f.entries tail)

/-- The kinds of tokens from an import on. -/
def kinds (f : ImportForm) (tail : List TokenKind) : List TokenKind :=
  .keyword "from" :: (if f.relative then [.symbol "."] else []) ++ f.path (.keyword "import" :: f.names tail)

/-- Whether the words of an import are words. -/
structure HasWords (f : ImportForm) : Prop where
  parts : ∀ w ∈ f.parts, IsWord w.toList
  entries : ∀ e ∈ f.entry :: f.entries, e.HasWords

/-- Whether the name of the module is a name if it stands behind a dot. -/
def HasNames (n : Nat) (f : ImportForm) : Prop :=
  (f.relative → ∀ w ∈ f.parts, isName w) ∧ f.rest.length < n ∧ f.entries.length < n

/-- Whether the words of an import are names. -/
def isReadable (f : ImportForm) : Bool := f.parts.all isName && (f.entry :: f.entries).all ImportEntry.isReadable

/-- The module that is imported from, as it is read. -/
def module (f : ImportForm) : String := ".".intercalate (f.parts.map Text.composed)

end ImportForm

/-! ### Tokens of imports -/

section Scans

variable {ws : List Nat} {cs : List Char} {kinds : List TokenKind}

private theorem Scans.keywordWord {w : String} (hword : IsWord w.toList) (hreserved : Text.isReserved w)
    (h : Scans ⟨false, ws, []⟩ cs kinds) :
    Scans ⟨false, ws, []⟩ (w.toList ++ ' ' :: cs) (.keyword w :: kinds) := by
  have hw := h.blank.word hword (by decide)
  rwa [wordKinds_of_isReserved hreserved] at hw

/-- A dotted path starts with its first part. -/
private theorem exists_toList_path (first : String) (rest : List String) :
    ∃ tail, (".".intercalate (first :: rest)).toList = first.toList ++ tail := by
  cases rest with
  | nil => exact ⟨[], by simp⟩
  | cons second rest => exact ⟨_, by rw [String.intercalate_cons_cons, String.append_assoc, String.toList_append]⟩

private theorem Scans.path {first : String} {rest : List String} (hwords : ∀ w ∈ first :: rest, IsWord w.toList)
    (h : Scans ⟨false, ws, []⟩ (' ' :: cs) kinds) :
    Scans ⟨false, ws, []⟩ ((".".intercalate (first :: rest)).toList ++ ' ' :: cs)
      (wordKinds first (followers "." wordKinds rest kinds)) := by
  induction rest generalizing first with
  | nil =>
    rw [String.intercalate_singleton]
    exact h.word (hwords first List.mem_cons_self) (by decide)
  | cons second rest ih =>
    have hrest := ih fun w hw => hwords w (List.mem_cons_of_mem first hw)
    have hsecond := hwords second (List.mem_cons_of_mem first List.mem_cons_self)
    obtain ⟨tail, htail⟩ := exists_toList_path second rest
    rw [htail, List.append_assoc] at hrest
    have hdot := (hrest.dot hsecond).word (hwords first List.mem_cons_self) (by decide)
    rw [← List.append_assoc, ← htail] at hdot
    simpa using hdot

private theorem Scans.entry {e : ImportEntry} (he : e.HasWords) {d : Char} (hd : endsWord d)
    (h : Scans ⟨false, ws, []⟩ (d :: cs) kinds) : Scans ⟨false, ws, []⟩ (e.shown.toList ++ d :: cs) (e.kinds kinds) := by
  obtain ⟨n, a⟩ := e
  cases a with
  | none => exact h.word he.1 hd
  | some id =>
    have has := (h.word (he.2 id rfl) hd).keywordWord (w := "as") (isWord_literal (by decide)) (by decide)
    simpa [ImportEntry.shown, ImportEntry.kinds] using has.blank.word he.1 (by decide)

/-- An import in front of a line break. -/
theorem Scans.importFrom {f : ImportForm} (hf : f.HasWords) (h : Scans ⟨false, ws, []⟩ ('\n' :: cs) kinds) :
    Scans ⟨false, ws, []⟩ (f.shown.toList ++ '\n' :: cs) (f.kinds kinds) := by
  have hitem : ∀ e ∈ f.entry :: f.entries, ∀ d cs kinds, d = ',' ∨ d = '\n' → Scans ⟨false, ws, []⟩ (d :: cs) kinds →
      Scans ⟨false, ws, []⟩ (e.shown.toList ++ d :: cs) (e.kinds kinds) := by
    intro e he d cs kinds hd h
    refine Scans.entry (hf.entries e he) ?_ h
    rcases hd with rfl | rfl <;> decide
  have himport := (Scans.listed hitem h).keywordWord (w := "import") (isWord_literal (by decide))
    (by decide)
  have hpath := Scans.path hf.parts himport.blank
  have hfrom : ∀ {cs kinds}, Scans ⟨false, ws, []⟩ cs kinds →
      Scans ⟨false, ws, []⟩ ("from".toList ++ ' ' :: cs) (.keyword "from" :: kinds) := fun h =>
    h.keywordWord (w := "from") (isWord_literal (by decide)) (by decide)
  cases hrelative : f.relative with
  | false => simpa [ImportForm.shown, ImportForm.kinds, ImportForm.path, ImportForm.names, ImportForm.parts, hrelative]
      using hfrom hpath
  | true =>
    obtain ⟨tail, htail⟩ := exists_toList_path f.first f.rest
    rw [htail, List.append_assoc] at hpath
    have hdot := hpath.dot (hf.parts f.first List.mem_cons_self)
    rw [← List.append_assoc, ← htail] at hdot
    simpa [ImportForm.shown, ImportForm.kinds, ImportForm.path, ImportForm.names, ImportForm.parts, hrelative]
      using hfrom hdot

end Scans

/-! ### Reading imports -/

section Decides

variable {r : Rules} {kinds : List TokenKind}

private theorem intercalate_concat (s p : String) (rest : List String) :
    ".".intercalate (s :: p :: rest) = ".".intercalate ((s ++ "." ++ p) :: rest) := by
  cases rest with
  | nil => rw [String.intercalate_cons_cons, String.intercalate_singleton, String.intercalate_singleton]
  | cons q rest =>
    rw [String.intercalate_cons_cons, String.intercalate_cons_cons, String.intercalate_cons_cons]
    simp only [String.append_assoc]

private theorem decides_dots {n : Nat} {s : String} {rest : List String} (hrest : rest.length < n) :
    (iterate (fun s => do
      if ← acceptSymbol "." then do
        let id ← name
        pure (s ++ "." ++ id, true)
      else pure (s, false)) n s).Decides (followers "." wordKinds rest (.keyword "import" :: kinds))
        (.keyword "import" :: kinds) (∀ w ∈ rest, isName w) (· = ".".intercalate (s :: rest.map Text.composed)) := by
  induction rest generalizing n s with
  | nil =>
    obtain ⟨n, rfl⟩ : ∃ m, n = m + 1 := ⟨n - 1, by omega⟩
    refine Decides.congr (decides_iterate_stop ?_) (show True ↔ _ by simp)
    rw [followers_nil, List.map_nil, String.intercalate_singleton]
    exact decides_accept_ne nofun (.pure ⟨rfl, rfl⟩)
  | cons w rest ih =>
    rw [List.length_cons] at hrest
    obtain ⟨n, rfl⟩ : ∃ m, n = m + 1 := ⟨n - 1, by omega⟩
    rw [List.forall_mem_cons]
    refine decides_iterate_more (followers "." wordKinds rest (.keyword "import" :: kinds))
      ((· = s ++ "." ++ Text.composed w)) ?_ ?_
    · refine decides_accept (((decides_name _ w).bind fun _ id hid => ?_).congr (by rw [and_true]))
      rw [hid]
      exact .pure ⟨rfl, rfl⟩
    · rintro - _ rfl
      refine (ih (Nat.lt_of_succ_lt_succ hrest)).mono fun _ h => ?_
      rw [h, List.map_cons, intercalate_concat]

/-- The name of a module is read exactly if its parts are names. -/
private theorem decides_dottedName {first : String} {rest : List String} (hrest : rest.length < r.fuel) :
    (Rules.dottedName r).Decides (wordKinds first (followers "." wordKinds rest (.keyword "import" :: kinds)))
      (.keyword "import" :: kinds) (∀ w ∈ first :: rest, isName w)
      (· = ".".intercalate ((first :: rest).map Text.composed)) := by
  rw [List.forall_mem_cons]
  refine (decides_name _ first).bind fun _ id hid => ?_
  rw [hid, List.map_cons]
  exact decides_dots hrest

private theorem decides_importedName {e : ImportEntry} {k : TokenKind} (hk : k ≠ .keyword "as") :
    (Rules.importedName name).Decides (e.kinds (k :: kinds)) (k :: kinds) e.isReadable (· = e.imported) := by
  obtain ⟨n, a⟩ := e
  cases a with
  | none =>
    refine ((decides_name _ n).bind fun _ id hid => ?_).congr
      (show isName n ∧ True ↔ _ by simp [ImportEntry.isReadable])
    rw [hid]
    have hnone : (optional (acceptKeyword "as") name).Decides (k :: kinds) (k :: kinds) True (· = none) := by
      refine decides_accept_ne hk ?_
      rw [if_neg Bool.false_ne_true]
      exact .pure rfl
    refine (hnone.bind fun _ _ hnone => ?_).congr (and_self_iff (a := True))
    rw [hnone]
    exact .pure rfl
  | some w =>
    refine ((decides_name _ n).bind fun _ id hid => ?_).congr
      (show isName n ∧ isName w ↔ _ by simp [ImportEntry.isReadable])
    rw [hid]
    have hname : (some <$> name).Decides (wordKinds w (k :: kinds)) (k :: kinds) (isName w)
        (· = some (Text.composed w)) := .map ((decides_name _ w).mono fun _ h => by rw [h])
    refine (Decides.bind (decides_accept hname) fun _ _ hsome => ?_).congr (by rw [and_true])
    rw [hsome]
    exact .pure rfl

/-- An entry starts with a token that is no symbol, or is malformed from its start on. -/
private theorem ImportEntry.kinds_cases (e : ImportEntry) (tail : List TokenKind) :
    (∃ k tail', (∀ s, k ≠ .symbol s) ∧ e.kinds tail = k :: tail') ∨ (e.isReadable = false ∧ e.kinds tail = []) := by
  rcases wordKinds_cases e.name with ⟨k, hk, hcons⟩ | ⟨hbad, hnil⟩
  · left
    rw [ImportEntry.kinds]
    cases e.alias? with
    | none => exact ⟨k, _, hk, hcons _⟩
    | some w => exact ⟨k, _, hk, hcons _⟩
  · right
    have hname : isName e.name = false := by
      rw [Source.isReadable, Bool.or_eq_false_iff] at hbad
      exact hbad.1
    refine ⟨by simp [ImportEntry.isReadable, hname], ?_⟩
    rw [ImportEntry.kinds]
    cases e.alias? with
    | none => exact hnil _
    | some w => exact hnil _

private theorem decides_importTargets (kinds : List TokenKind) {f : ImportForm} (hentries : f.entries.length < r.fuel) :
    (Rules.importTargets r).Decides (f.names (.newline :: kinds)) (.newline :: kinds)
      (∀ e ∈ f.entry :: f.entries, e.isReadable) (· = some ((f.entry :: f.entries).map ImportEntry.imported)) := by
  have hstart : ∀ (e : ImportEntry) (tail : List TokenKind), StartsItem (fun _ => false) (e.kinds tail) e.isReadable := by
    intro e tail
    rcases e.kinds_cases tail with ⟨k, tail', -, hcons⟩ | ⟨hbad, hnil⟩
    · rw [hcons]
      exact fun _ _ => rfl
    · rw [hnil]
      simp [StartsItem, hbad]
  have hitems : (separated r.fuel "," (fun _ => false) (Rules.importedName name)).Decides
      (f.entry.kinds (followers "," ImportEntry.kinds f.entries (ending "," false (.newline :: kinds)))) (.newline :: kinds)
      (∀ e ∈ f.entry :: f.entries, e.isReadable)
      fun x => x.2 = false ∧ List.Forall₂ (fun e x => e.imported = x) (f.entry :: f.entries) x.1 := by
    refine decides_separated (by simp) (by simp) (fun e _ k' _ hk' => ?_) (fun e _ tail => hstart e tail) hentries
    have has : k' ≠ .keyword "as" := by rcases hk' with rfl | rfl <;> decide
    exact (decides_importedName has).mono fun _ h => h.symm
  have hnames : f.names (.newline :: kinds) =
      f.entry.kinds (followers "," ImportEntry.kinds f.entries (ending "," false (.newline :: kinds))) := rfl
  rw [hnames]
  rcases f.entry.kinds_cases (followers "," ImportEntry.kinds f.entries (ending "," false (.newline :: kinds))) with
    ⟨k, tail, hk, hcons⟩ | ⟨hbad, hnil⟩
  · rw [hcons] at hitems ⊢
    refine decides_accept_ne (hk "*") (decides_accept_ne (hk "(") ?_)
    refine (hitems.bind fun _ x hx => ?_).congr (by rw [and_true])
    have hread : (f.entry :: f.entries).map ImportEntry.imported = x.1 := by
      rw [← List.forall₂_eq_eq_eq]
      exact List.forall₂_map_left_iff.2 hx.2
    exact .pure (by rw [hread])
  · rw [hnil]
    exact (Decides.nil ⟨_, rfl⟩).congr (iff_of_false not_false fun h => by simp [h f.entry List.mem_cons_self] at hbad)

/-- The dots in front of a module. -/
private theorem decides_importLevel (hfuel : 1 < r.fuel) (relative : Bool) {k : TokenKind}
    (hk : k ≠ .symbol "." ∧ k ≠ .symbol "...") :
    (Rules.importLevel r).Decides ((if relative then [.symbol "."] else []) ++ k :: kinds) (k :: kinds) True
      (· = if relative then 1 else 0) := by
  obtain ⟨n, hn⟩ : ∃ n, r.fuel = n + 2 := ⟨r.fuel - 2, by omega⟩
  have hlast : ∀ level m, (iterate (fun level => do
      if ← acceptSymbol "." then pure (level + 1, true)
      else if ← acceptSymbol "..." then pure (level + 3, true)
      else pure (level, false)) (m + 1) level).Decides (k :: kinds) (k :: kinds) True (· = level) := fun level m =>
    decides_iterate_stop (decides_accept_ne hk.1 (decides_accept_ne hk.2 (.pure ⟨rfl, rfl⟩)))
  rw [Rules.importLevel, hn]
  cases relative with
  | false => exact hlast 0 (n + 1)
  | true =>
    refine (decides_iterate_more (k :: kinds) ((· = 1)) (decides_accept ?_) ?_).congr (and_self_iff (a := True))
    · exact .pure ⟨rfl, rfl⟩
    · rintro - _ rfl
      exact hlast 1 n

/-- An import is read exactly if its words are names. -/
theorem decides_importFrom (n : Nat) {f : ImportForm} (hf : f.HasNames n) :
    (Rules.statement (ruleAt (n + 2))).Decides (f.kinds (.newline :: kinds)) kinds f.isReadable fun ss =>
      ∃ line, ss = [.importFrom line (if f.relative then 1 else 0) (some f.module)
        (some ((f.entry :: f.entries).map ImportEntry.imported))] := by
  obtain ⟨hrelative, hrest, hentries⟩ := hf
  have hnames := decides_importTargets (r := ruleAt (n + 2)) (f := f) kinds (Nat.lt_add_right 2 hentries)
  have hgood : (∀ w ∈ f.parts, isName w) ∧ (∀ e ∈ f.entry :: f.entries, e.isReadable) ↔ f.isReadable := by
    simp [ImportForm.isReadable]
  have himport : ∀ line, (Rules.importFrom (ruleAt (n + 2)) line).Decides
      ((if f.relative then [.symbol "."] else []) ++ f.path (.keyword "import" :: f.names (.newline :: kinds)))
      (.newline :: kinds) f.isReadable (· = .importFrom line (if f.relative then 1 else 0) (some f.module)
        (some ((f.entry :: f.entries).map ImportEntry.imported))) := by
    intro line
    have hlevel : ∀ (relative : Bool) (k : TokenKind) (tail : List TokenKind), k ≠ .symbol "." ∧ k ≠ .symbol "..." →
        (Rules.importLevel (ruleAt (n + 2))).Decides ((if relative then [.symbol "."] else []) ++ k :: tail) (k :: tail)
          True (· = if relative then 1 else 0) := fun relative _ _ hk =>
      decides_importLevel (Nat.succ_lt_succ (Nat.succ_pos n)) relative hk
    by_cases hfirst : isName f.first
    · have hpath : (Rules.dottedName (ruleAt (n + 2))).Decides (f.path (.keyword "import" :: f.names (.newline :: kinds)))
          (.keyword "import" :: f.names (.newline :: kinds)) (∀ w ∈ f.parts, isName w) (· = f.module) :=
        decides_dottedName (Nat.lt_add_right 2 hrest)
      have hmodule : (some <$> Rules.dottedName (ruleAt (n + 2))).Decides
          (f.path (.keyword "import" :: f.names (.newline :: kinds))) (.keyword "import" :: f.names (.newline :: kinds))
          (∀ w ∈ f.parts, isName w) (· = some f.module) := .map (hpath.mono fun _ h => by rw [h])
      rw [ImportForm.path, wordKinds_of_isName hfirst] at hmodule ⊢
      refine ((hlevel f.relative (.name (Text.composed f.first)) _ ⟨nofun, nofun⟩).bind fun _ level hlevel => ?_).congr
        ((iff_of_eq (true_and _)).trans hgood)
      rw [hlevel]
      refine decides_peek fun t ht => ?_
      simp only [ht]
      refine hmodule.bind fun _ module hmodule => ?_
      rw [hmodule]
      simp only [Option.isNone_some, Bool.and_false, Bool.false_eq_true, if_false]
      refine (decides_expect.bind fun _ _ _ => hnames.bind fun _ names hnames => ?_).congr (by rw [true_and, and_true])
      rw [hnames]
      exact .pure rfl
    · have hbad : ¬f.isReadable := fun h => hfirst ((hgood.2 h).1 f.first List.mem_cons_self)
      have hrelative : f.relative = false := Bool.eq_false_iff.2 fun h => hfirst (hrelative h f.first List.mem_cons_self)
      rw [hrelative, if_neg Bool.false_ne_true, List.nil_append, ImportForm.path]
      refine Decides.congr ?_ (iff_of_false not_false hbad)
      rcases wordKinds_of_not_isName (followers "." wordKinds f.rest (.keyword "import" :: f.names (.newline :: kinds)))
        (Bool.eq_false_iff.2 hfirst) with ⟨-, hkeyword⟩ | ⟨-, hnil⟩
      · rw [hkeyword]
        refine ((hlevel false (.keyword f.first) _ ⟨nofun, nofun⟩).bind fun _ level hlevel => ?_).congr
          (iff_of_eq (true_and False))
        rw [hlevel]
        refine decides_peek fun t ht => ?_
        simp only [ht]
        exact decides_fail
      · rw [hnil]
        exact .nil ⟨_, rfl⟩
  refine decides_statement_simple rfl ?_
  have hstatement : (Rules.simpleStatement (ruleAt (n + 2))).Decides (f.kinds (.newline :: kinds)) (.newline :: kinds)
      f.isReadable fun s => ∃ line, s = .importFrom line (if f.relative then 1 else 0) (some f.module)
        (some ((f.entry :: f.entries).map ImportEntry.imported)) := by
    refine decides_peek fun t ht => ?_
    simp only [ht]
    exact decides_next fun _ _ => (himport t.line).mono fun _ h => ⟨t.line, h⟩
  refine (decides_simpleStatements (Nat.succ_pos _) hstatement).mono ?_
  rintro _ ⟨_, ⟨line, rfl⟩, rfl⟩
  exact ⟨line, rfl⟩

end Decides

end NavFactory.Source
