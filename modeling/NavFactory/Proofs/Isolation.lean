import Mathlib.Data.List.Forall2
import NavFactory.Proofs.Planning

/-!
# Reading file by file

The files of a manifest are read one after the other, and each gives what it gives alone, as long as none of them stops
the reading (`isolated_iff`).  A file does that only if its text holds a null character, or if it has a marker with an
argument in which an integer is too large to be added to an imaginary number (`readSource_error_iff`).
-/

namespace NavFactory

open Source

/-! ### Runs of traces -/

/-- Each of several values has a partner exactly if some list of partners goes along with them. -/
theorem exists_forall₂_iff {α β : Type} {R : α → β → Prop} {as : List α} :
    (∃ bs, List.Forall₂ R as bs) ↔ ∀ a ∈ as, ∃ b, R a b := by
  induction as with
  | nil => simp
  | cons a rest ih =>
    rw [List.forall_mem_cons, ← ih]
    constructor
    · rintro ⟨bs, h⟩
      obtain ⟨b, others, hb, hothers, -⟩ := List.forall₂_cons_left_iff.1 h
      exact ⟨⟨b, hb⟩, others, hothers⟩
    · rintro ⟨⟨b, hb⟩, others, hothers⟩
      exact ⟨b :: others, .cons hb hothers⟩

namespace Trace

variable {α β : Type}

/-- A run for several values succeeds with the results that each of them has. -/
theorem forEach_ok_iff {f : α → Trace β} {as : List α} {bs : List β} :
    (forEach f as).result = .ok bs ↔ List.Forall₂ (fun a b => (f a).result = .ok b) as bs := by
  induction as generalizing bs with
  | nil =>
    rw [List.forall₂_nil_left_iff, forEach, result_pure, Except.ok.injEq, eq_comm]
  | cons a rest ih =>
    rw [forEach, List.forall₂_cons_left_iff]
    constructor
    · intro h
      obtain ⟨b, hb, h⟩ := bind_ok_iff.1 h
      obtain ⟨others, hothers, h⟩ := bind_ok_iff.1 h
      cases h
      exact ⟨b, others, hb, ih.1 hothers, rfl⟩
    · rintro ⟨b, others, hb, hothers, rfl⟩
      exact bind_ok_iff.2 ⟨b, hb, bind_ok_iff.2 ⟨others, ih.2 hothers, rfl⟩⟩

/-- Traces that have the results of others for each of several values have them in a run. -/
theorem forEach_ok_of_imp {f g : α → Trace β} {as : List α} {bs : List β}
    (h : ∀ a ∈ as, ∀ b, (f a).result = .ok b → (g a).result = .ok b) (hrun : (forEach f as).result = .ok bs) :
    (forEach g as).result = .ok bs := by
  rw [forEach_ok_iff] at hrun ⊢
  induction hrun with
  | nil => exact .nil
  | cons hb _ ih =>
    obtain ⟨hfirst, hrest⟩ := List.forall_mem_cons.1 h
    exact .cons (hfirst _ hb) (ih hrest)

theorem events_bind {t : Trace α} {f : α → Trace β} {a : α} (h : t.result = .ok a) :
    (t >>= f).events = t.events ++ (f a).events := by
  change (t.andThen f).events = _
  rw [andThen, h]

/-- A run that succeeds makes known what each of its values does. -/
theorem events_forEach {f : α → Trace β} {as : List α} {bs : List β} (h : (forEach f as).result = .ok bs) :
    (forEach f as).events = as.flatMap fun a => (f a).events := by
  induction as generalizing bs with
  | nil => rfl
  | cons a rest ih =>
    obtain ⟨b, hb, h⟩ := bind_ok_iff.1 h
    obtain ⟨others, hothers, -⟩ := bind_ok_iff.1 h
    rw [forEach, events_bind hb, events_bind hothers, ih hothers, events_pure, List.append_nil, List.flatMap_cons]

end Trace

theorem diagnosticsOf_append (front back : List Event) :
    diagnosticsOf (front ++ back) = diagnosticsOf front ++ diagnosticsOf back := by
  rw [diagnosticsOf, List.filterMap_append]
  rfl

/-! ### Arguments without a value -/

theorem bind_eq_error_iff {ε α β : Type} {e : Except ε α} {f : α → Except ε β} {fault : ε} :
    (e >>= f) = .error fault ↔ e = .error fault ∨ ∃ a, e = .ok a ∧ f a = .error fault := by
  rcases e with other | a <;> simp [bind, Except.bind]

variable {scope : Scope} {marker name : String} {e decorator : Expr} {taken errors : List String}
  {named rest : List (String × Expr)} {bound : List (String × Value)} {fault : ReadFault} {source : SourceName}
  {text : String} {result : Except ArgumentFault Value}

/-- The arguments of a marker with the names that it knows them by. -/
def namedArguments (marker : String) (positional : List Expr) (keywords : List (Option String × Expr)) :
    List (String × Expr) :=
  (positionalNames marker).zip positional ++ keywords.filterMap fun (name, e) => name.map (·, e)

/-- Whether an integer in one of several arguments is too large for its value, which is wanted because no argument of that
name has one yet. -/
def Overflows (scope : Scope) (taken : List String) (named : List (String × Expr)) : Prop :=
  ∃ front name e back, named = front ++ (name, e) :: back ∧ name ∉ taken ∧
    (∀ e', (name, e') ∈ front → ∀ v, argumentValue scope name e' ≠ .ok v) ∧
    argumentValue scope name e = .error .tooLarge

/-- Whether the value of one of several arguments of a name is wanted, because the name is not taken and no earlier argument
has a value for it, and reading it gives a result. -/
def Yields (scope : Scope) (taken : List String) (named : List (String × Expr)) (name : String)
    (result : Except ArgumentFault Value) : Prop :=
  ∃ front e back, named = front ++ (name, e) :: back ∧ name ∉ taken ∧
    (∀ e', (name, e') ∈ front → ∀ v, argumentValue scope name e' ≠ .ok v) ∧ argumentValue scope name e = result

theorem overflows_iff : Overflows scope taken named ↔ ∃ name, Yields scope taken named name (.error .tooLarge) :=
  exists_comm

theorem not_yields_nil : ¬Yields scope taken [] name result := by
  rintro ⟨front, e, back, h, -⟩
  simp at h

/-- The first argument gives a result, or one of the others with the names that are taken behind it. -/
theorem yields_cons_iff {n : String} (taken' : List String)
    (htaken : ∀ n, n ∈ taken' ↔ n ∈ taken ∨ n = name ∧ ∃ v, argumentValue scope name e = .ok v) :
    Yields scope taken ((name, e) :: rest) n result ↔
      (n = name ∧ name ∉ taken ∧ argumentValue scope name e = result) ∨ Yields scope taken' rest n result := by
  constructor
  · rintro ⟨front, x, back, hnamed, hfree, hfront, hresult⟩
    cases front with
    | nil =>
      obtain ⟨hfirst, -⟩ := List.cons.inj hnamed
      obtain ⟨rfl, rfl⟩ := Prod.mk.inj hfirst
      exact .inl ⟨rfl, hfree, hresult⟩
    | cons first front =>
      rw [List.cons_append] at hnamed
      obtain ⟨rfl, hrest⟩ := List.cons.inj hnamed
      refine .inr ⟨front, x, back, hrest, ?_, fun e' he' => hfront e' (List.mem_cons_of_mem _ he'), hresult⟩
      rw [htaken]
      rintro (hn | ⟨rfl, v, hv⟩)
      · exact hfree hn
      · exact hfront e List.mem_cons_self v hv
  · rintro (⟨rfl, hfree, hresult⟩ | ⟨front, x, back, rfl, hfree, hfront, hresult⟩)
    · exact ⟨[], e, rest, rfl, hfree, by simp, hresult⟩
    · rw [htaken, not_or] at hfree
      refine ⟨(name, e) :: front, x, back, rfl, hfree.1, fun e' he' v hv => ?_, hresult⟩
      obtain heq | he' := List.mem_cons.1 he'
      · obtain ⟨rfl, rfl⟩ := Prod.mk.inj heq
        exact hfree.2 ⟨rfl, v, hv⟩
      · exact hfront e' he' v hv

/-- The first argument overflows, or one of the others with the names that are taken behind it. -/
private theorem overflows_cons_iff (taken' : List String)
    (htaken : ∀ n, n ∈ taken' ↔ n ∈ taken ∨ n = name ∧ ∃ v, argumentValue scope name e = .ok v) :
    Overflows scope taken ((name, e) :: rest) ↔
      (name ∉ taken ∧ argumentValue scope name e = .error .tooLarge) ∨ Overflows scope taken' rest := by
  simp only [overflows_iff, yields_cons_iff taken' htaken, exists_or, exists_eq_left]

theorem bindArguments_error_iff : bindArguments scope marker bound errors named = .error fault ↔
    fault = .tooLarge ∧ Overflows scope (bound.map (·.1)) named := by
  induction named generalizing bound errors with
  | nil => simp [bindArguments, overflows_iff, not_yields_nil]
  | cons argument rest ih =>
    obtain ⟨name, e⟩ := argument
    have htaken : bound.any (·.1 == name) = true ↔ name ∈ bound.map (·.1) := by simp
    rw [bindArguments]
    split_ifs with hany
    · rw [htaken] at hany
      rw [ih, overflows_cons_iff (bound.map (·.1))]
      · simp [hany]
      · intro n
        exact (or_iff_left_of_imp fun h => h.1 ▸ hany).symm
    · rw [htaken] at hany
      cases hvalue : argumentValue scope name e with
      | ok v =>
        dsimp only
        rw [ih, overflows_cons_iff ((bound ++ [(name, v)]).map (·.1))]
        · simp [hvalue]
        · simp [hvalue]
      | error f =>
        have hsame : ∀ n, n ∈ bound.map (·.1) ↔ n ∈ bound.map (·.1) ∨ n = name ∧ ∃ v, argumentValue scope name e = .ok v := by
          simp [hvalue]
        rw [overflows_cons_iff _ hsame, hvalue]
        cases f with
        | problem text =>
          dsimp only
          rw [ih]
          simp
        | tooLarge => simp [hany, eq_comm]

/-! ### Texts that stop the reading -/

/-- Whether a decorator is a marker with an argument that overflows. -/
def StopsAt (scope : Scope) (decorator : Expr) : Prop :=
  ∃ marker positional keywords, (scope.qualify (calledWith decorator).1).bind markerNamed = some marker ∧
    (calledWith decorator).2 = some (positional, keywords) ∧ Overflows scope [] (namedArguments marker positional keywords)

theorem readMarker_error_iff :
    readMarker scope decorator = .error fault ↔ fault = .tooLarge ∧ StopsAt scope decorator := by
  rw [readMarker, StopsAt]
  obtain ⟨function, call⟩ := calledWith decorator
  dsimp only
  cases (scope.qualify function).bind markerNamed with
  | none => simp
  | some marker =>
    cases call with
    | none => simp
    | some arguments =>
      obtain ⟨positional, keywords⟩ := arguments
      dsimp only
      rw [bind_eq_error_iff, readArguments, ← namedArguments, bindArguments_error_iff]
      simp

theorem readMarkers_error_iff {decorators : List Expr} :
    readMarkers scope decorators = .error fault ↔ fault = .tooLarge ∧ ∃ d ∈ decorators, StopsAt scope d := by
  induction decorators with
  | nil => simp [readMarkers]
  | cons d rest ih =>
    rw [readMarkers, bind_eq_error_iff, readMarker_error_iff]
    simp only [bind_eq_error_iff, ih, List.exists_mem_cons_iff]
    cases hd : readMarker scope d with
    | error f =>
      have := (readMarker_error_iff.1 hd).2
      simp [this]
    | ok usage => simp [and_or_left]

/-- The decorators of a definition; any other statement has none. -/
def decoratorsOf : Stmt → List Expr
  | .function _ _ _ _ _ _ decorators => decorators
  | .classDef _ _ _ _ _ decorators => decorators
  | _ => []

theorem readStatement_error_iff {s : Stmt} :
    readStatement scope source s = .error fault ↔ fault = .tooLarge ∧ ∃ d ∈ decoratorsOf s, StopsAt scope d := by
  have hdeclaration : ∀ kind name line decorators, declarationOf scope source kind name line decorators = .error fault ↔
      fault = .tooLarge ∧ ∃ d ∈ decorators, StopsAt scope d := by
    intro kind name line decorators
    rw [declarationOf, bind_eq_error_iff, readMarkers_error_iff]
    simp
  unfold readStatement decoratorsOf
  split
  · exact hdeclaration ..
  · exact hdeclaration ..
  · simp

theorem readStatements_error_iff {body : List Stmt} : readStatements scope source body = .error fault ↔
    fault = .tooLarge ∧ ∃ s ∈ body, ∃ d ∈ decoratorsOf s, StopsAt scope d := by
  induction body with
  | nil => simp [readStatements]
  | cons s rest ih =>
    rw [readStatements, bind_eq_error_iff, readStatement_error_iff]
    simp only [bind_eq_error_iff, ih, List.exists_mem_cons_iff]
    cases hs : readStatement scope source s with
    | error f =>
      have := (readStatement_error_iff.1 hs).2
      simp [this]
    | ok found => simp [and_or_left]

theorem parseModule_eq_nullCharacter_iff : parseModule text = .error .nullCharacter ↔ '\x00' ∈ text.toList := by
  rw [parseModule]
  split_ifs with h
  · simpa using h
  · have hfree : '\x00' ∉ text.toList := by simpa using h
    refine iff_of_false (fun hparse => ?_) hfree
    dsimp only at hparse
    split at hparse <;> cases hparse

/-- The texts that have neither declarations nor an error. -/
theorem readSource_error_iff : readSource text source = .error fault ↔
    fault = .nullCharacter ∧ '\x00' ∈ text.toList ∨
      fault = .tooLarge ∧ ∃ body, parseModule text = .ok body ∧ ∃ s ∈ body, ∃ d ∈ decoratorsOf s,
        StopsAt (Scope.ofModule source.module (isPackagePath source.path) body) d := by
  rw [readSource, ← parseModule_eq_nullCharacter_iff]
  cases parseModule text with
  | error f => cases f <;> simp [eq_comm]
  | ok body => simp [bind_eq_error_iff, readStatements_error_iff]

theorem readSource_ok {found : List Declaration} {diagnostics : List Diagnostic}
    (h : readSource text source = .ok (found, diagnostics)) :
    (∃ body, parseModule text = .ok body) ∧ diagnostics = [] ∨
      (¬∃ body, parseModule text = .ok body) ∧ found = [] ∧ ∃ line, diagnostics = [malformedSource source line] := by
  rw [readSource] at h
  cases hbody : parseModule text with
  | error f =>
    rw [hbody] at h
    cases f with
    | nullCharacter => cases h
    | malformed line =>
      cases h
      exact .inr ⟨by simp, rfl, line, rfl⟩
  | ok body =>
    rw [hbody] at h
    obtain ⟨ds, -, h⟩ := bind_eq_ok_iff.1 h
    cases h
    exact .inl ⟨⟨body, rfl⟩, rfl⟩

/-! ### Files that stop the reading -/

variable {tree : Entry} {root p : Path} {f : SourceFile} {manifest : Manifest} {found : List Declaration}

/-- Whether a file can be read as a module. -/
def Parses (tree : Entry) (root : Path) (f : SourceFile) : Prop :=
  ∃ text body, tree.readText (root.child f.path) = .ok text ∧ parseModule text = .ok body

/-- Whether a file ends the reading of its manifest: its path or its text holds a null character, or a marker in it has
an argument that overflows. -/
def Stops (tree : Entry) (root : Path) (f : SourceFile) : Prop :=
  (root.child f.path).hasNull = true ∨ ∃ text, tree.readText (root.child f.path) = .ok text ∧
    ('\x00' ∈ text.toList ∨ ∃ body, parseModule text = .ok body ∧ ∃ s ∈ body, ∃ d ∈ decoratorsOf s,
      StopsAt (Scope.ofModule f.module (isPackagePath f.path) body) d)

/-- A path is refused for a null character exactly if it holds one. -/
theorem readText_eq_nullCharacter_iff {q : Path} :
    tree.readText p = .error (.file ⟨.nullCharacter, q⟩) ↔ p.hasNull = true ∧ q = p := by
  have hbytes : tree.readText p = .error (.file ⟨.nullCharacter, q⟩) ↔
      tree.readBytes p = .error ⟨.nullCharacter, q⟩ := by
    rw [Entry.readText]
    cases tree.readBytes p with
    | error fault => simp
    | ok bytes =>
      dsimp only
      cases textOfBytes bytes <;> simp
  rw [hbytes, Entry.readBytes, Entry.find, Entry.locate]
  split_ifs with hnull
  · simp [bind, Except.bind, hnull, eq_comm]
  · refine iff_of_false ?_ (by simp [hnull])
    cases hlocate : tree.locateFrom [] p.parts with
    | error problem =>
      simp only [bind, Except.bind, Except.error.injEq, FileFault.mk.injEq, not_and]
      rintro rfl
      obtain h | h | h := Entry.problem_of_locateFrom hlocate <;> cases h
    | ok found =>
      cases found with
      | free above name => simp [bind, Except.bind]
      | found place =>
        simp only [bind, Except.bind]
        cases tree.at? place with
        | none => simp
        | some e => cases e <;> simp

private theorem readText_of_hasNull (h : p.hasNull = true) (tree : Entry) :
    tree.readText p = .error (.file ⟨.nullCharacter, p⟩) := readText_eq_nullCharacter_iff.2 ⟨h, rfl⟩

private theorem diagnosticsOf_tell (diagnostics : List Diagnostic) :
    diagnosticsOf (Trace.tell diagnostics).events = diagnostics := by
  rw [diagnosticsOf, Trace.tell, List.filterMap_map]
  exact List.filterMap_some

private theorem diagnosticsOf_log (records : List LogRecord) : diagnosticsOf (Trace.log records).events = [] := by
  simp [diagnosticsOf, Trace.log, Event.diagnostic?]

private theorem path_against {severity : Severity} {message path : String} {line : Option Int} (h : path ≠ "") :
    (Diagnostic.against severity message none (some path) line).path = some path := by
  simp [Diagnostic.against, Diagnostic.given, h]

/-- What reading a single file comes to. -/
theorem readFile_cases (tree : Entry) (root : Path) (f : SourceFile) :
    Stops tree root f ∧ (∃ fault, (readFile tree root f).result = .error fault) ∨
      ¬Stops tree root f ∧ Parses tree root f ∧ (∃ found, (readFile tree root f).result = .ok found) ∧
        diagnosticsOf (readFile tree root f).events = [] ∨
      ¬Stops tree root f ∧ ¬Parses tree root f ∧ (readFile tree root f).result = .ok [] ∧
        ∃ d, diagnosticsOf (readFile tree root f).events = [d] ∧ d.isError = true ∧
          (f.path ≠ "" → d.path = some f.path) := by
  rw [readFile, Stops, Parses]
  split
  · rename_i q htext
    exact .inl ⟨.inl (readText_eq_nullCharacter_iff.1 htext).1, _, rfl⟩
  · -- a text that is not had is reported
    rename_i fault hother htext
    have hnull : ¬(root.child f.path).hasNull = true := by
      intro hnull
      rw [readText_of_hasNull hnull] at htext
      cases htext
      exact hother _ rfl
    simp only [htext]
    refine .inr (.inr ⟨by simpa using hnull, by simp, rfl, unreadableSource f fault, ?_, rfl, path_against⟩)
    rw [Trace.events_bind rfl, diagnosticsOf_append, diagnosticsOf_tell]
    rfl
  · -- a text that is had may still stop the parser, or be no module
    rename_i text htext
    have hnull : (root.child f.path).hasNull = false := by
      by_contra hnull
      rw [readText_of_hasNull (by simpa using hnull)] at htext
      cases htext
    simp only [htext, hnull, Except.ok.injEq, exists_and_left, exists_eq_left', Bool.false_eq_true, false_or]
    have hstops : ∀ fault, readSource text ⟨f.path, f.module⟩ = .error fault ↔ _ := fun _ => readSource_error_iff
    cases hread : readSource text ⟨f.path, f.module⟩ with
    | error fault =>
      refine .inl ⟨?_, .source fault, rfl⟩
      obtain ⟨-, h⟩ | ⟨-, h⟩ := (hstops fault).1 hread
      · exact .inl h
      · exact .inr h
    | ok read =>
      obtain ⟨ds, diagnostics⟩ := read
      have hclear : ¬('\x00' ∈ text.toList ∨ ∃ body, parseModule text = .ok body ∧ ∃ s ∈ body, ∃ d ∈ decoratorsOf s,
          StopsAt (Scope.ofModule f.module (isPackagePath f.path) body) d) := by
        rintro (h | h)
        · have := (hstops .nullCharacter).2 (.inl ⟨rfl, h⟩)
          rw [hread] at this
          cases this
        · have := (hstops .tooLarge).2 (.inr ⟨rfl, h⟩)
          rw [hread] at this
          cases this
      have hreported : diagnosticsOf (Trace.lift RoundFault.source (.ok (ds, diagnostics) : Except ReadFault _) >>= fun r =>
          Trace.tell r.2 >>= fun _ => pure r.1).events = diagnostics := by
        rw [Trace.events_bind rfl, Trace.events_bind rfl, diagnosticsOf_append, diagnosticsOf_append, diagnosticsOf_tell]
        simp [Trace.lift, diagnosticsOf]
      right
      obtain ⟨hparses, rfl⟩ | ⟨hfails, rfl, line, rfl⟩ := readSource_ok hread
      · exact .inl ⟨hclear, hparses, ⟨ds, rfl⟩, hreported⟩
      · exact .inr ⟨hclear, hfails, rfl, _, hreported, rfl, path_against⟩

/-! ### Manifests -/

/-- The declarations of the files of a manifest. -/
def readManifest (tree : Entry) (manifest : Manifest) : Trace (List Declaration) := do
  let declarations ← Trace.forEach (readFile tree manifest.root) manifest.files
  let found := declarations.flatten
  Trace.log [⟨channel "declarations", .debug, "Read " ++ toString found.length ++ " marked declarations from " ++
    toString manifest.files.length ++ " modules", none⟩]
  pure found

/-- The declarations below a source root are those of the manifest that a scan finds. -/
theorem readSourceRoot_eq (tree : Entry) (current : List String) (settings : Settings) (sourceRoot : Path) :
    readSourceRoot tree current settings sourceRoot = (do
      let excludes ← Trace.lift .unresolved (scanExcludes settings sourceRoot)
      let (manifest, records) ← Trace.lift .scan (scan tree current excludes sourceRoot.text)
      Trace.log records
      Trace.log [roundRecord .debug ("Scanner discovered " ++ toString manifest.files.length ++ " modules in " ++
        sourceRoot.text)]
      readManifest tree manifest) := by
  rfl

theorem result_readManifest_iff : (readManifest tree manifest).result = .ok found ↔
    ∃ parts, List.Forall₂ (fun f part => (readFile tree manifest.root f).result = .ok part) manifest.files parts ∧
      found = parts.flatten := by
  rw [readManifest, Trace.bind_ok_iff]
  simp only [Trace.forEach_ok_iff, Trace.bind_ok_iff, Trace.result_pure, Except.ok.injEq]
  constructor
  · rintro ⟨parts, hparts, -, -, rfl⟩
    exact ⟨parts, hparts, rfl⟩
  · rintro ⟨parts, hparts, rfl⟩
    exact ⟨parts, hparts, (), rfl, rfl⟩

theorem diagnostics_readManifest (h : (readManifest tree manifest).result = .ok found) :
    diagnosticsOf (readManifest tree manifest).events =
      manifest.files.flatMap fun f => diagnosticsOf (readFile tree manifest.root f).events := by
  obtain ⟨parts, hparts, -⟩ := result_readManifest_iff.1 h
  have hrun := Trace.forEach_ok_iff.2 hparts
  rw [readManifest, Trace.events_bind hrun, Trace.events_bind rfl, diagnosticsOf_append, diagnosticsOf_append,
    diagnosticsOf_log, Trace.events_forEach hrun]
  simp [diagnosticsOf, List.filterMap_flatMap]

/-- The file of a manifest that has no other. -/
private theorem result_readManifest_singleton :
    (readManifest tree ⟨root, [f]⟩).result = .ok found ↔ (readFile tree root f).result = .ok found := by
  rw [result_readManifest_iff]
  simp [List.forall₂_cons_left_iff]

private theorem diagnostics_readManifest_singleton (h : (readFile tree root f).result = .ok found) :
    diagnosticsOf (readManifest tree ⟨root, [f]⟩).events = diagnosticsOf (readFile tree root f).events := by
  rw [diagnostics_readManifest (result_readManifest_singleton.2 h)]
  simp

/-- Whether the files of a manifest are read each as if it were alone, with an error for each that is no module, and
nothing else to report. -/
structure Isolated (tree : Entry) (manifest : Manifest) : Prop where
  result : ∃ parts, List.Forall₂ (fun f part => (readManifest tree ⟨manifest.root, [f]⟩).result = .ok part)
    manifest.files parts ∧ (readManifest tree manifest).result = .ok parts.flatten
  diagnostics : diagnosticsOf (readManifest tree manifest).events =
    manifest.files.flatMap fun f => diagnosticsOf (readManifest tree ⟨manifest.root, [f]⟩).events
  parsed : ∀ f ∈ manifest.files, Parses tree manifest.root f →
    diagnosticsOf (readManifest tree ⟨manifest.root, [f]⟩).events = []
  unparsed : ∀ f ∈ manifest.files, ¬Parses tree manifest.root f →
    (readManifest tree ⟨manifest.root, [f]⟩).result = .ok [] ∧
      ∃ d, diagnosticsOf (readManifest tree ⟨manifest.root, [f]⟩).events = [d] ∧ d.isError = true ∧
        (f.path ≠ "" → d.path = some f.path)

end NavFactory
