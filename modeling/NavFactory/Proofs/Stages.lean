import NavFactory.Proofs.Discovery
import NavFactory.Proofs.Escaping

/-!
# Stages of a round

A round goes on from the sources of a project to its processors, to the containers that they make, to their texts and to
the files.  At each of these stages it is told what it comes upon when it ends without an explanation, and with all of
them which plans (`plan_escapes_iff`) and which rounds do (`Round.check_escapes_iff`, `Round.generate_escapes_iff`).
-/

namespace NavFactory

open Entry

variable {tree : Entry} {current : List String} {request : Request} {settings : Settings}
  {declarations : List Declaration} {containers : List Container} {c : Container} {templates : Option Path}
  {done : Sources} {p : Plan}

/-! ### Processors that are unknown -/

/-- Whether a name that is enabled is the name of no processor that is built in. -/
def IsUnknown (name : String) : Prop :=
  Text.lower name ≠ "" ∧ Text.lower name ∉ builtinProcessors.map (·.1)

/-- Without plug-ins the enabled processors are found unless one of them is unknown. -/
theorem discover_cases (enabled : List String) :
    (∃ f, discover enabled [] = .error f) ∧ (∃ name ∈ enabled, IsUnknown name) ∨
      (∃ processors, discover enabled [] = .ok processors) ∧ ¬∃ name ∈ enabled, IsUnknown name := by
  have hunknown : (∃ missing, discover enabled [] = .error (.unknown missing)) ↔ ∃ name ∈ enabled, IsUnknown name := by
    rw [exists_unknown_iff (by rintro ⟨_, he, -⟩; cases he) (fun _ he => by cases he)]
    simp [IsUnknown]
  rw [← hunknown]
  cases hfound : discover enabled [] with
  | ok processors => exact .inr ⟨⟨_, rfl⟩, by rintro ⟨_, ⟨⟩⟩⟩
  | error f =>
    rw [discover] at hfound
    simp only [discoverFrom, bind, Except.bind] at hfound
    split_ifs at hfound
    exact .inl ⟨⟨_, rfl⟩, _, hfound.symm⟩

/-! ### Values that cannot be written -/

/-- Whether a value that one of several targets carries has too many digits to be written. -/
def TargetKind.IsUnwritable (t : TargetKind) (ds : List Declaration) : Prop :=
  ∃ s ∈ (select ds t.marker).1, ∃ a ∈ t.attributes,
    a.exceedsLimit s.usage ∧ (a.kind.accepts (a.valueIn s.usage) → t.accepts s)

/-- A container is made as its processor makes it. -/
theorem result_buildContainer (settings : Settings) (declarations : List Declaration) (q : Processor) :
    (buildContainer settings declarations q).result =
      (q.container declarations (containerNameFor settings q)).result.mapError .digits := by
  change (Trace.andThen _ _).result = _
  rw [Trace.andThen]
  change (Trace.andThen _ _).result = _
  rw [Trace.andThen, Trace.ofReport]
  cases (q.container declarations (containerNameFor settings q)).result <;> rfl

/-- A container is made unless a value of its targets cannot be written. -/
theorem buildContainer_cases (settings : Settings) (declarations : List Declaration) (q : Processor) :
    (∃ c, (buildContainer settings declarations q).result = .ok c) ∧
        ¬(∃ t, q = .targets t ∧ t.IsUnwritable declarations) ∨
      (buildContainer settings declarations q).Escapes ∧ ∃ t, q = .targets t ∧ t.IsUnwritable declarations := by
  rw [Trace.Escapes, result_buildContainer]
  cases q with
  | targets t =>
    rw [Processor.container]
    have hiff : (targetContainer t declarations (containerNameFor settings (.targets t))).result = .error .exceeded ↔
        t.IsUnwritable declarations := targetContainer_error_iff
    cases hresult : (targetContainer t declarations (containerNameFor settings (.targets t))).result with
    | ok c =>
      rw [hresult] at hiff
      refine .inl ⟨⟨c, rfl⟩, ?_⟩
      rintro ⟨_, ⟨⟩, h⟩
      cases hiff.2 h
    | error limit =>
      rw [hresult, eq_exceeded limit] at hiff
      exact .inr ⟨⟨_, rfl, rfl, rfl⟩, t, rfl, hiff.1 rfl⟩
  | bundles => exact .inl ⟨⟨_, rfl⟩, by simp⟩
  | plugin q => exact .inl ⟨⟨_, rfl⟩, by simp⟩

/-- The containers of a round are made unless a processor is unknown or a value of a target cannot be written. -/
theorem buildContainers_escapes_iff (hprocessors : request.processors = none) (hpoints : request.entryPoints = []) :
    (buildContainers request settings declarations).Escapes ↔
      (∃ name ∈ settings.enabled, IsUnknown name) ∨ ∃ processors, chosenProcessors request settings = .ok processors ∧
        ∃ t, .targets t ∈ processors ∧ t.IsUnwritable declarations := by
  have hchosen : chosenProcessors request settings = discover settings.enabled [] := by
    rw [chosenProcessors, hprocessors, hpoints]
  have hunexplained : ∀ f, RoundFault.IsUnexplained (.discovery f) := fun f => ⟨rfl, rfl⟩
  rw [buildContainers, Trace.escapes_bind_iff, Trace.escapes_lift_iff]
  simp only [Trace.lift_ok_iff, hchosen]
  obtain ⟨⟨f, hf⟩, hunknown⟩ | ⟨⟨processors, hfound⟩, hknown⟩ := discover_cases settings.enabled
  · exact iff_of_true (.inl ⟨f, hf, hunexplained f⟩) (.inl hunknown)
  · rw [hfound]
    simp only [not_failsWith_ok, hknown, Except.ok.injEq, exists_eq_left', false_or]
    rw [Trace.escapes_forEach_iff_exists]
    · constructor
      · rintro ⟨q, hq, h⟩
        obtain ⟨⟨c, hc⟩, -⟩ | ⟨-, t, rfl, ht⟩ := buildContainer_cases settings declarations q
        · exact absurd h (Trace.not_escapes_of_ok hc)
        · exact ⟨t, hq, ht⟩
      · rintro ⟨t, hq, ht⟩
        obtain ⟨-, hwritable⟩ | ⟨h, -⟩ := buildContainer_cases settings declarations (.targets t)
        · exact absurd ⟨t, rfl, ht⟩ hwritable
        · exact ⟨_, hq, h⟩
    · intro q _
      exact (buildContainer_cases settings declarations q).imp And.left And.left

/-! ### Texts -/

/-- Whether a text that comes from a template or is built in holds a null character. -/
def HoldsNull (text : Except RenderFault String) : Prop := ∃ s, text = .ok s ∧ '\x00' ∈ (closeText s).toList

theorem checkedText_error_iff {fileName text : String} :
    checkedText fileName text = .error .nullCharacter ↔ '\x00' ∈ (closeText text).toList := by
  rw [← parseModule_eq_nullCharacter_iff, checkedText, Source.checkModule]
  cases Source.parseModule (closeText text) with
  | error f => cases f <;> simp
  | ok body => cases hline : Source.misplacedLine body <;> simp [hline]

/-- A text is had, or explained, unless it holds a null character. -/
private theorem checked_escapes_iff {fileName : String} {text : Except RenderFault String}
    (h : ∀ f, text = .error f → RoundFault.isGeneration (.render f) = true) :
    FailsWith (fun f => RoundFault.IsUnexplained (.render f)) (text >>= checkedText fileName) ↔ HoldsNull text := by
  have hunexplained : ∀ f, RoundFault.IsUnexplained (.render f) ↔ f = .nullCharacter := by
    intro f
    cases f <;> simp [RoundFault.IsUnexplained, RoundFault.isSetup, RoundFault.isGeneration]
  cases text with
  | error f =>
    simp [failsWith_bind_iff, failsWith_error, HoldsNull, RoundFault.IsUnexplained, h f rfl]
  | ok s =>
    rw [failsWith_bind_iff]
    simp only [not_failsWith_ok, false_or, Except.ok.injEq, exists_eq_left', HoldsNull]
    rw [← @checkedText_error_iff fileName]
    simp only [FailsWith, hunexplained, exists_eq_right]

private theorem isGeneration_of_templateText {fileName : String} {template : Option String}
    {scope : List (String × Template.Data)} {builtin : List String} {f : RenderFault}
    (h : templateText fileName template scope builtin = .error f) : RoundFault.isGeneration (.render f) = true := by
  unfold templateText at h
  split at h
  · cases h
  · split at h
    · cases h
    · cases h
      rfl

/-- The text of a container before it is checked. -/
def containerText (template : Option String) (c : Container) : Except RenderFault String :=
  templateText c.fileName template (Template.Data.containerScope c) (containerLines c)

/-- The text of a package before it is checked. -/
def packageText (template : Option String) (containers : List Container) : Except RenderFault String :=
  templateText packageFileName template (Template.Data.packageScope containers) (packageLines containers)

theorem renderContainer_escapes_iff {template : Option String} :
    FailsWith (fun f => RoundFault.IsUnexplained (.render f)) (renderContainer ⟨template, none⟩ c) ↔
      HoldsNull (containerText template c) :=
  checked_escapes_iff fun _ => isGeneration_of_templateText

theorem renderPackage_escapes_iff {template : Option String} :
    FailsWith (fun f => RoundFault.IsUnexplained (.render f)) (renderPackage ⟨none, template⟩ containers) ↔
      HoldsNull (packageText template containers) :=
  checked_escapes_iff fun _ => isGeneration_of_templateText

/-- Whether there is a template of a name whose bytes are no text. -/
def IllegibleTemplate (tree : Entry) (templates : Option Path) (name : String) : Prop :=
  ∃ directory, templates = some directory ∧ Undecodable tree (directory.child name)

/-- A template is read, or found to be missing, unless its bytes are no text. -/
theorem templateFile_cases (tree : Entry) (templates : Option Path) (name : String) :
    (∃ template, templateFile tree templates name = .ok template) ∧ ¬IllegibleTemplate tree templates name ∨
      FailsWith RoundFault.IsUnexplained (templateFile tree templates name) ∧
        IllegibleTemplate tree templates name := by
  rw [templateFile, IllegibleTemplate]
  cases templates with
  | none => exact .inl ⟨⟨none, rfl⟩, by simp⟩
  | some directory =>
    simp only [Option.map_some, Option.some.injEq, exists_eq_left', Undecodable]
    generalize directory.child name = file
    rw [readBytes, readText, readBytes]
    cases tree.find file with
    | error f => exact .inl ⟨⟨none, rfl⟩, by simp [bind, Except.bind]⟩
    | ok e =>
      cases e with
      | directory entries => exact .inl ⟨⟨none, rfl⟩, by simp [bind, Except.bind]⟩
      | file contents =>
        simp only [bind, Except.bind, textOfBytes]
        cases hdecoded : Text.decode contents with
        | ok text => exact .inl ⟨⟨_, rfl⟩, by simp [hdecoded]⟩
        | error f => exact .inr ⟨⟨_, rfl, rfl, rfl⟩, _, f, rfl, hdecoded⟩

/-- Whether a container would be written to a file of its own. -/
def IsFresh (done : Sources) (c : Container) : Prop := c.fileName ∉ done.map (·.1) ∧ c.fileName ≠ packageFileName

instance (done : Sources) (c : Container) : Decidable (IsFresh done c) := inferInstanceAs (Decidable (_ ∧ _))

theorem renderContainers_cons (template : Except RoundFault (Option String)) (done : Sources) (c : Container)
    (rest : List Container) : renderContainers template done (c :: rest) =
      if IsFresh done c then do
        let file ← template
        let text ← (renderContainer ⟨file, none⟩ c).mapError .render
        renderContainers template (done ++ [(c.fileName, text)]) rest
      else .error (.sameFile c.fileName) := by
  have hclash : (done.any (·.1 == c.fileName) || c.fileName == packageFileName) = true ↔ ¬IsFresh done c := by
    rw [Bool.or_eq_true, List.any_eq_true, beq_iff_eq, IsFresh, not_and_or, not_not, not_not]
    simp
  rw [renderContainers]
  simp only [hclash]
  split_ifs <;> rfl

/-- The text of each container in turn is had, or explained, unless its template is illegible or the text holds a null
character. -/
theorem renderContainers_escapes_iff {template : Except RoundFault (Option String)} :
    FailsWith RoundFault.IsUnexplained (renderContainers template done containers) ↔
      ∃ front c back written, containers = front ++ c :: back ∧ renderContainers template done front = .ok written ∧
        IsFresh written c ∧ (FailsWith RoundFault.IsUnexplained template ∨
          ∃ file, template = .ok file ∧ HoldsNull (containerText file c)) := by
  -- the first container whose text is not had splits the list
  induction containers generalizing done with
  | nil =>
    refine iff_of_false not_failsWith_ok ?_
    rintro ⟨front, c, back, written, h, -⟩
    simp at h
  | cons c rest ih =>
    rw [renderContainers_cons]
    split_ifs with hfresh
    · simp only [failsWith_bind_iff, failsWith_mapError_iff, mapError_eq_ok_iff, renderContainer_escapes_iff, ih]
      constructor
      · rintro (h | ⟨file, hfile, h | ⟨text, htext, front, c', back, written, rfl, hwritten, hfresh', h⟩⟩)
        · exact ⟨[], c, rest, done, rfl, rfl, hfresh, .inl h⟩
        · exact ⟨[], c, rest, done, rfl, rfl, hfresh, .inr ⟨file, hfile, h⟩⟩
        · refine ⟨c :: front, c', back, written, rfl, ?_, hfresh', h⟩
          rw [renderContainers_cons, if_pos hfresh]
          exact bind_eq_ok_iff.2 ⟨file, hfile, bind_eq_ok_iff.2 ⟨text, mapError_eq_ok_iff.2 htext, hwritten⟩⟩
      · rintro ⟨front, c', back, written, hcontainers, hwritten, hfresh', h⟩
        cases front with
        | nil =>
          obtain ⟨rfl, -⟩ := List.cons.inj hcontainers
          exact h.imp_right fun ⟨source, hsource, h⟩ => ⟨source, hsource, .inl h⟩
        | cons first front =>
          rw [List.cons_append] at hcontainers
          obtain ⟨rfl, rfl⟩ := List.cons.inj hcontainers
          rw [renderContainers_cons, if_pos hfresh] at hwritten
          obtain ⟨file, hfile, hwritten⟩ := bind_eq_ok_iff.1 hwritten
          obtain ⟨text, htext, hwritten⟩ := bind_eq_ok_iff.1 hwritten
          have htext := mapError_eq_ok_iff.1 htext
          exact .inr ⟨file, hfile, .inr ⟨text, htext, front, c', back, written, rfl, hwritten, hfresh', h⟩⟩
    · refine iff_of_false (fun h => ?_) ?_
      · exact absurd (failsWith_error.1 h).2 (by simp [RoundFault.isGeneration])
      · rintro ⟨front, c', back, written, hcontainers, hwritten, hfresh', -⟩
        cases front with
        | nil =>
          obtain ⟨rfl, -⟩ := List.cons.inj hcontainers
          cases hwritten
          exact hfresh hfresh'
        | cons first front =>
          rw [List.cons_append] at hcontainers
          obtain ⟨rfl, rfl⟩ := List.cons.inj hcontainers
          rw [renderContainers_cons, if_neg hfresh] at hwritten
          cases hwritten

/-- The texts of a round of which one is not had and not explained: that of a container, after those before it have been
had, or that of the package. -/
inductive Unrendered (tree : Entry) (templates : Option Path) (containers : List Container) : Prop
  | container {front back : List Container} {c : Container} {done : Sources}
      (hcontainers : containers = front ++ c :: back)
      (hdone : renderContainers (templateFile tree templates containerTemplateName) [] front = .ok done)
      (hfresh : IsFresh done c)
      (h : IllegibleTemplate tree templates containerTemplateName ∨
        ∃ template, templateFile tree templates containerTemplateName = .ok template ∧
          HoldsNull (containerText template c))
  | package {done : Sources}
      (hdone : renderContainers (templateFile tree templates containerTemplateName) [] containers = .ok done)
      (h : IllegibleTemplate tree templates packageTemplateName ∨
        ∃ template, templateFile tree templates packageTemplateName = .ok template ∧
          HoldsNull (packageText template containers))

/-- The texts of a round are had, or explained, unless one is unrendered. -/
theorem renderSources_escapes_iff :
    FailsWith RoundFault.IsUnexplained (renderSources tree templates containers) ↔
      Unrendered tree templates containers := by
  have htemplate : ∀ name, FailsWith RoundFault.IsUnexplained (templateFile tree templates name) ↔
      IllegibleTemplate tree templates name := by
    intro name
    obtain ⟨⟨template, hok⟩, hlegible⟩ | ⟨hfails, hillegible⟩ := templateFile_cases tree templates name
    · exact iff_of_false (by rw [hok]; exact not_failsWith_ok) hlegible
    · exact iff_of_true hfails hillegible
  rw [renderSources]
  simp only [failsWith_bind_iff, failsWith_mapError_iff, renderContainers_escapes_iff, renderPackage_escapes_iff,
    not_failsWith_ok, htemplate, and_false, exists_false, or_false]
  constructor
  · rintro (⟨front, c, back, done, hcontainers, hdone, hfresh, h⟩ | ⟨done, hdone, h⟩)
    · exact .container hcontainers hdone hfresh h
    · exact .package hdone h
  · rintro (⟨hcontainers, hdone, hfresh, h⟩ | ⟨hdone, h⟩)
    · exact .inl ⟨_, _, _, _, hcontainers, hdone, hfresh, h⟩
    · exact .inr ⟨_, hdone, h⟩

/-! ### Files -/

theorem unexplained_output_iff {f : OutputFault} :
    RoundFault.IsUnexplained (.output f) ↔ ∃ fault, f = .file fault ∧ fault.isMisplaced = false := by
  cases f <;> simp [RoundFault.IsUnexplained, RoundFault.isSetup, RoundFault.isGeneration]

namespace Output

variable {tree' : Entry} {directory path : Path} {here : List String} {f : FileFault} {files : Sources}

theorem currentText_ne_file (hnull : path.hasNull = false) (f : FileFault) : currentText tree path ≠ .error (.file f) := by
  rw [currentText]
  cases hread : tree.readText path with
  | ok text => simp
  | error fault =>
    cases fault with
    | undecodable fault => simp
    | file fault =>
      dsimp only
      split_ifs with hmissing hcharacter
      · simp
      · obtain ⟨problem, q⟩ := fault
        obtain rfl : problem = .nullCharacter := by simpa using hcharacter
        rw [(readText_eq_nullCharacter_iff.1 hread).1] at hnull
        cases hnull
      · simp

theorem diff_ne_file (hnull : ∀ file ∈ files, (directory.child file.1).hasNull = false) (f : FileFault) :
    diff tree directory files ≠ .error (.file f) := by
  intro h
  obtain ⟨file, hfile, hf⟩ := exists_error_of_diff h
  exact currentText_ne_file (hnull file hfile) f hf

private theorem remainingFault_ne_null {fault : FileFault} (hfault : fault.problem ≠ .nullCharacter)
    (h : tree.remainingFault fault = some f) : f.problem ≠ .nullCharacter := by
  rw [remainingFault, if_neg (by simpa using hfault)] at h
  split at h
  · cases h
  · cases h
    exact hfault
  · rename_i other hother
    cases h
    rw [(hasDirectory_error_iff.1 hother).1]
    simp

private theorem makeDirectory_ne_null (hnull : path.hasNull = false) (h : tree.makeDirectory path = .error f) :
    f.problem ≠ .nullCharacter := by
  rw [makeDirectory] at h
  obtain h | ⟨found, -, h⟩ := bind_eq_error_iff.1 h
  · rw [locate, hnull] at h
    cases hfrom : tree.locateFrom [] path.parts with
    | ok found =>
      rw [hfrom] at h
      cases h
    | error problem =>
      rw [hfrom] at h
      cases h
      obtain rfl | rfl | rfl := problem_of_locateFrom hfrom <;> simp
  · cases found <;> cases h
    simp

/-- Directories whose path holds no null character are not refused for one. -/
theorem ensureDirectoriesFrom_ne_null {root : String} {reversed : List String}
    (hnull : ∀ part ∈ reversed, '\x00' ∉ part.toList) (h : tree.ensureDirectoriesFrom root reversed = (tree', some f)) :
    f.problem ≠ .nullCharacter := by
  induction reversed generalizing tree tree' with
  | nil =>
    rw [ensureDirectoriesFrom, Prod.mk.injEq] at h
    exact remainingFault_ne_null (by simp) h.2
  | cons part above ih =>
    have hpath : (⟨root, (part :: above).reverse⟩ : Path).hasNull = false :=
      hasNull_eq_false_iff.2 fun name hname => hnull name (List.mem_reverse.1 hname)
    have habove : ∀ part ∈ above, '\x00' ∉ part.toList := fun name hname => hnull name (List.mem_cons_of_mem _ hname)
    rw [ensureDirectoriesFrom] at h
    cases hmade : tree.makeDirectory ⟨root, (part :: above).reverse⟩ with
    | ok made =>
      rw [hmade] at h
      cases h
    | error fault =>
      rw [hmade] at h
      dsimp only at h
      split_ifs at h
      · cases hrest : tree.ensureDirectoriesFrom root above with
        | mk made fault? =>
          rw [hrest] at h
          cases fault? with
          | some other =>
            cases h
            exact ih habove hrest
          | none =>
            -- after the directories above it the directory itself is made again
            dsimp only at h
            cases hagain : made.makeDirectory ⟨root, (part :: above).reverse⟩ with
            | ok made' =>
              rw [hagain] at h
              cases h
            | error fault' =>
              rw [hagain] at h
              have hfault' := makeDirectory_ne_null hpath hagain
              dsimp only at h
              split_ifs at h
              · cases h
                exact hfault'
              · exact remainingFault_ne_null hfault' (Prod.mk.inj h).2
      · exact remainingFault_ne_null (makeDirectory_ne_null hpath hmade) (Prod.mk.inj h).2

/-- In a directory that is ready no file operation fails in a way that is not expected. -/
theorem writeFiles_ne_file (hready : Ready tree directory here files.length)
    (hnames : ∀ file ∈ files, IsFileName file.1) (f : FileFault) :
    (writeFiles directory tree files).result ≠ .error (.file f) := by
  induction files generalizing tree with
  | nil => simp [writeFiles]
  | cons file rest ih =>
    obtain ⟨name, text⟩ := file
    obtain ⟨hname, hrest⟩ := List.forall_mem_cons.1 hnames
    have hnull : (directory.child name).hasNull = false := by
      rw [Path.child_of_isStep hname.step]
      exact hasNull_eq_false_iff.2 (List.forall_mem_append.2 ⟨hready.null, by simpa using hname.null⟩)
    have hupdate := hready.updateFile hname text
    rw [writeFiles]
    cases hcurrent : currentText tree (directory.child name) with
    | error fault =>
      rw [hcurrent] at hupdate
      rw [hupdate]
      rintro ⟨⟩
      exact currentText_ne_file hnull f hcurrent
    | ok current =>
      rw [hcurrent] at hupdate
      have hmap : ∀ {r : Except OutputFault (List WrittenFile)} {written : WrittenFile}, r ≠ .error (.file f) →
          r.map (written :: ·) ≠ .error (.file f) := by
        intro r written hr
        cases r <;> simp_all [Except.map]
      dsimp only at hupdate
      split_ifs at hupdate
      · rw [hupdate]
        exact hmap (ih hready.fewer hrest)
      · rw [hupdate.2]
        exact hmap (ih (hready.put name hupdate.1 _) hrest)

/-- Files are written, or explained, if their directory has room for them. -/
theorem write_ne_file (hnull : directory.hasNull = false) (hnames : ∀ file ∈ files, IsFileName file.1)
    (hroom : HasRoom tree directory files) (f : FileFault) : (write tree directory files).result ≠ .error (.file f) := by
  rw [write]
  cases hensured : tree.ensureDirectories directory with
  | mk made fault? =>
    cases fault? with
    | some fault =>
      have hproblem := ensureDirectoriesFrom_ne_null
        (fun part hpart => hasNull_eq_false_iff.1 hnull part (List.mem_reverse.1 hpart)) hensured
      simp [hproblem]
    | none =>
      obtain ⟨here, hready⟩ := ready_of_ensureDirectories hroom hensured
      exact writeFiles_ne_file hready hnames f

end Output

/-! ### Plans -/

/-- The inputs for which no plan is made and no explanation is given, in the order of the stages: what cannot be looked for
or read, names of processors that are unknown, values that cannot be written, and texts that are not had. -/
inductive Unplanned (tree : Entry) (current : List String) (request : Request) : Prop
  | project
      (h : (Path.ofText request.path).hasNull = true ∨ TooLong tree ((Path.ofText request.path).resolved current))
  | settings {root : Path} (hroot : projectRoot tree current request.path = .ok root)
      (h : Settings.Unusable tree current root)
  | output {root directory : Path} {loaded : Settings} (hroot : projectRoot tree current request.path = .ok root)
      (hloaded : Settings.load tree current root = .ok loaded) (houtput : request.output = some directory)
      (h : directory.hasNull = true)
  | source {root sourceRoot : Path} {settings : Settings} {front back : List Path}
      (hroot : projectRoot tree current request.path = .ok root)
      (hsettings : requestedSettings tree current root request.output = .ok settings)
      (hroots : settings.sourceRoots = front ++ sourceRoot :: back)
      (hfront : ∀ r ∈ front, ∃ found, (readSourceRoot tree current settings r).result = .ok found)
      (h : Unreadable tree current settings sourceRoot)
  | processor {root : Path} {settings : Settings} {declarations : List Declaration} {name : String}
      (hroot : projectRoot tree current request.path = .ok root)
      (hsettings : requestedSettings tree current root request.output = .ok settings)
      (hread : (readDeclarations tree current settings).result = .ok declarations)
      (hname : name ∈ settings.enabled) (h : IsUnknown name)
  | target {root : Path} {settings : Settings} {declarations : List Declaration} {processors : List Processor}
      {t : TargetKind} (hroot : projectRoot tree current request.path = .ok root)
      (hsettings : requestedSettings tree current root request.output = .ok settings)
      (hread : (readDeclarations tree current settings).result = .ok declarations)
      (hprocessors : chosenProcessors request settings = .ok processors) (ht : .targets t ∈ processors)
      (h : t.IsUnwritable declarations)
  | text {root : Path} {settings : Settings} {declarations : List Declaration} {containers : List Container}
      (hroot : projectRoot tree current request.path = .ok root)
      (hsettings : requestedSettings tree current root request.output = .ok settings)
      (hread : (readDeclarations tree current settings).result = .ok declarations)
      (hmade : (buildContainers request settings declarations).result = .ok containers)
      (h : Unrendered tree (request.templates.or settings.templates) containers)

/-- The declarations of a project are read, or a source root is explained to be missing, unless a source root is unreadable
before. -/
theorem readDeclarations_escapes_iff : (readDeclarations tree current settings).Escapes ↔
    ∃ front sourceRoot back, settings.sourceRoots = front ++ sourceRoot :: back ∧
      (∀ r ∈ front, ∃ found, (readSourceRoot tree current settings r).result = .ok found) ∧
      Unreadable tree current settings sourceRoot := by
  simp only [← readSourceRoot_escapes_iff, ← Trace.escapes_forEach_iff]
  rw [readDeclarations, Trace.escapes_bind_iff]
  refine or_iff_left ?_
  rintro ⟨found, -, h⟩
  exact Trace.not_escapes_of_ok (a := found.flatten) rfl h

/-- Without plug-ins a plan is made, or it is explained why not, unless its request is one of those that are unplanned. -/
theorem plan_escapes_iff (hprocessors : request.processors = none) (hpoints : request.entryPoints = []) :
    (plan tree current request).Escapes ↔ Unplanned tree current request := by
  have hid : ∀ {α : Type} {r : Except RoundFault α},
      (Trace.lift id r).Escapes ↔ FailsWith RoundFault.IsUnexplained r := Trace.escapes_lift_iff
  have hend : ∀ (settings : Settings) (containers : List Container) (sources : Sources),
      ¬(pure ⟨settings, containers, sources⟩ : Trace Plan).Escapes := fun _ _ _ => Trace.not_escapes_of_ok rfl
  rw [plan, Trace.escapes_bind_iff, hid, projectRoot_escapes_iff]
  simp only [Trace.escapes_log_bind_iff, Trace.lift_ok_iff]
  -- the binds are taken apart from the left, and the first stage that fails is the case
  constructor
  · rintro (h | ⟨root, hroot, h⟩)
    · exact .project h
    obtain h | ⟨settings, hsettings, h⟩ := Trace.escapes_bind_iff.1 h
    · obtain h | ⟨loaded, directory, hloaded, houtput, h⟩ := (requestedSettings_escapes_iff hroot).1 (hid.1 h)
      · exact .settings hroot h
      · exact .output hroot hloaded houtput h
    rw [Trace.lift_ok_iff] at hsettings
    obtain h | ⟨declarations, hread, h⟩ := Trace.escapes_bind_iff.1 h
    · obtain ⟨front, sourceRoot, back, hroots, hfront, h⟩ := readDeclarations_escapes_iff.1 h
      exact .source hroot hsettings hroots hfront h
    obtain h | ⟨containers, hmade, h⟩ := Trace.escapes_bind_iff.1 h
    · obtain ⟨name, hname, h⟩ | ⟨processors, hchosen, t, ht, h⟩ :=
        (buildContainers_escapes_iff hprocessors hpoints).1 h
      · exact .processor hroot hsettings hread hname h
      · exact .target hroot hsettings hread hchosen ht h
    obtain h | ⟨sources, -, h⟩ := Trace.escapes_bind_iff.1 h
    · exact .text hroot hsettings hread hmade (renderSources_escapes_iff.1 (hid.1 h))
    · exact absurd h (hend _ _ _)
  · intro h
    cases h with
    | project h => exact .inl h
    | settings hroot h =>
      exact .inr ⟨_, hroot, .at_once (hid.2 ((requestedSettings_escapes_iff hroot).2 (.inl h)))⟩
    | output hroot hloaded houtput h =>
      have hfails := (requestedSettings_escapes_iff hroot).2 (.inr ⟨_, _, hloaded, houtput, h⟩)
      exact .inr ⟨_, hroot, .at_once (hid.2 hfails)⟩
    | source hroot hsettings hroots hfront h =>
      have hread := readDeclarations_escapes_iff.2 ⟨_, _, _, hroots, hfront, h⟩
      exact .inr ⟨_, hroot, .later (Trace.lift_ok_iff.2 hsettings) (.at_once hread)⟩
    | @processor root settings declarations name hroot hsettings hread hname h =>
      have hmade : (buildContainers request settings declarations).Escapes :=
        (buildContainers_escapes_iff hprocessors hpoints).2 (.inl ⟨name, hname, h⟩)
      exact .inr ⟨root, hroot, .later (Trace.lift_ok_iff.2 hsettings) (.later hread (.at_once hmade))⟩
    | target hroot hsettings hread hchosen ht h =>
      have hmade := (buildContainers_escapes_iff hprocessors hpoints).2 (.inr ⟨_, hchosen, _, ht, h⟩)
      exact .inr ⟨_, hroot, .later (Trace.lift_ok_iff.2 hsettings) (.later hread (.at_once hmade))⟩
    | text hroot hsettings hread hmade h =>
      have hrendered := hid.2 (renderSources_escapes_iff.2 h)
      exact .inr ⟨_, hroot, .later (Trace.lift_ok_iff.2 hsettings) (.later hread (.later hmade (.at_once hrendered)))⟩

/-- The path of the package of a plan and the names of its files hold no null character. -/
theorem hasNull_packageDirectory (h : (plan tree current request).result = .ok p) :
    p.settings.packageDirectory.hasNull = false := by
  obtain ⟨root, declarations, -, hsettings, hread, -, -⟩ := plan_ok_iff.1 h
  obtain ⟨loaded, hload, hroots, hpackage, -⟩ := Settings.exists_loaded hsettings
  obtain ⟨file, -, hlocated⟩ := Settings.exists_located_load hload
  have hdirectory : p.settings.directory.hasNull = false := by
    obtain ⟨sourceRoot, rest, hcons⟩ := List.exists_cons_of_ne_nil (hroots ▸ hlocated.exists_root)
    by_contra hnull
    rw [Bool.not_eq_false] at hnull
    have hescapes : (readDeclarations tree current p.settings).Escapes :=
      readDeclarations_escapes_iff.2 ⟨[], sourceRoot, rest, hcons, by simp, .inl hnull⟩
    exact Trace.not_escapes_of_ok hread hescapes
  rw [Settings.packageDirectory, Path.join_relative _ _ rfl, hasNull_eq_false_iff]
  refine List.forall_mem_append.2 ⟨hasNull_eq_false_iff.1 hdirectory, fun part hpart => ?_⟩
  have hpackage' := hlocated.package
  rw [← hpackage, Settings.isPackageName, List.all_eq_true] at hpackage'
  exact Text.notMem_of_isIdentifier (hpackage' part hpart) (by decide)

/-! ### Rounds -/

/-- Whether files are written into a directory that has no room for them, and it is not explained why they cannot be. -/
def Overcrowded (tree : Entry) (directory : Path) (files : Sources) : Prop :=
  ¬Output.HasRoom tree directory files ∧
    FailsWith (fun f => RoundFault.IsUnexplained (.output f)) (Output.write tree directory files).result

namespace Round

private theorem result_compare_escapes_iff (tree : Entry) (events : List Event) (p : Plan) :
    FailsWith RoundFault.IsUnexplained (compare tree events p).result ↔
      ∃ f, Output.diff tree p.settings.packageDirectory p.sources = .error (.file f) ∧ f.isMisplaced = false := by
  rw [compare]
  cases Output.diff tree p.settings.packageDirectory p.sources with
  | ok diffs => exact iff_of_false not_failsWith_ok (by simp)
  | error fault =>
    rw [failsWith_error, unexplained_output_iff]
    simp

private theorem result_write_escapes_iff (tree : Entry) (events : List Event) (p : Plan) :
    FailsWith RoundFault.IsUnexplained (write tree events p).result ↔
      ∃ f, (Output.write tree p.settings.packageDirectory p.sources).result = .error (.file f) ∧
        f.isMisplaced = false := by
  rw [write]
  cases (Output.write tree p.settings.packageDirectory p.sources).result with
  | ok files => exact iff_of_false not_failsWith_ok (by simp)
  | error fault =>
    rw [failsWith_error, unexplained_output_iff]
    simp

private theorem result_ofPlan_escapes_iff {planned : Trace Plan} {carryOut : Entry → List Event → Plan → Round} :
    FailsWith RoundFault.IsUnexplained (ofPlan tree planned carryOut).result ↔ planned.Escapes ∨
      ∃ p, planned.result = .ok p ∧ FailsWith RoundFault.IsUnexplained (carryOut tree planned.events p).result := by
  rw [ofPlan, Trace.Escapes]
  cases planned.result with
  | ok p => simp [not_failsWith_ok]
  | error fault =>
    have hnone : ¬∃ p, (.error fault : Except RoundFault Plan) = .ok p ∧
        FailsWith RoundFault.IsUnexplained (carryOut tree planned.events p).result := by
      rintro ⟨p, h, -⟩
      cases h
    exact (failsWith_error.trans failsWith_error.symm).trans (or_iff_left hnone).symm

variable (hprocessors : request.processors = none) (hpoints : request.entryPoints = [])

include hprocessors hpoints

private theorem isBuiltIn_of_noPlugins : request.IsBuiltIn := by
  rw [Request.IsBuiltIn, hprocessors]
  exact hpoints

/-- A round that compares goes through, or explains why not, once its plan is made. -/
theorem check_escapes_iff :
    FailsWith RoundFault.IsUnexplained (check tree current request).result ↔ Unplanned tree current request := by
  rw [check, result_ofPlan_escapes_iff, plan_escapes_iff hprocessors hpoints]
  refine or_iff_left ?_
  rintro ⟨p, hplan, h⟩
  obtain ⟨f, hdiff, -⟩ := (result_compare_escapes_iff _ _ _).1 h
  refine Output.diff_ne_file (fun file hfile => ?_) f hdiff
  have hname := isFileName_of_mem_sources (isBuiltIn_of_noPlugins hprocessors hpoints) hplan file hfile
  rw [Path.child_of_isStep hname.step, hasNull_eq_false_iff]
  exact List.forall_mem_append.2 ⟨hasNull_eq_false_iff.1 (hasNull_packageDirectory hplan), by simpa using hname.null⟩

/-- A round that writes goes through, or explains why not, once its plan is made, unless the directory has no room. -/
theorem generate_escapes_iff :
    FailsWith RoundFault.IsUnexplained (generate tree current request).result ↔ Unplanned tree current request ∨
      ∃ p, (plan tree current request).result = .ok p ∧ Overcrowded tree p.settings.packageDirectory p.sources := by
  rw [generate, result_ofPlan_escapes_iff, plan_escapes_iff hprocessors hpoints]
  refine or_congr_right (exists_congr fun p => and_congr_right fun hplan => ?_)
  have hcause : FailsWith (fun f => RoundFault.IsUnexplained (.output f))
      (Output.write tree p.settings.packageDirectory p.sources).result ↔
      ∃ f, (Output.write tree p.settings.packageDirectory p.sources).result = .error (.file f) ∧
        f.isMisplaced = false := by
    simp only [FailsWith, unexplained_output_iff]
    constructor
    · rintro ⟨_, hf, f, rfl, hmisplaced⟩
      exact ⟨f, hf, hmisplaced⟩
    · rintro ⟨f, hf, hmisplaced⟩
      exact ⟨_, hf, f, rfl, hmisplaced⟩
  rw [result_write_escapes_iff, Overcrowded, hcause, iff_and_self]
  rintro ⟨f, hf, -⟩ hroom
  exact Output.write_ne_file (hasNull_packageDirectory hplan)
    (isFileName_of_mem_sources (isBuiltIn_of_noPlugins hprocessors hpoints) hplan) hroom f hf

end Round

end NavFactory
