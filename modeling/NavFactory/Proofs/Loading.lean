import NavFactory.Proofs.Escaping

/-!
# Settings that are loaded

What a document gives is told field by field (`Settings.described`), with a default for each value that is missing or of
the wrong kind.  What is wrong with a document is told in the order in which it is come upon (`Settings.faults`), and
settings are loaded exactly if there is nothing (`Settings.ofEntries_eq`).  Not everything that is wrong is a fault of
the settings themselves, and some documents that are no mapping pass for an empty one (`Settings.heeds_load_iff`).
-/

namespace NavFactory

open Entry

variable {tree : Entry} {current : List String} {p file : Path} {root : Path} {bytes : List UInt8} {text key kind : String}
  {v : Value} {entries : List (Value × Value)}

/-! ### Values -/

namespace Value

/-- The text of a scalar, however many digits it has. -/
def scalarText? : Value → Option String
  | .text s => some s
  | .state m => some ("FragmentState." ++ m.name)
  | .bool b => some (if b then "True" else "False")
  | .int i => some (toString i)
  | .real x => some (Number.Double.write Number.Double.plain x)
  | _ => Option.none

/-- Whether a value is an integer with more digits than may be written. -/
def isOverlong : Value → Bool
  | .int i => decide (Nat.pow 10 maxDigits ≤ i.natAbs)
  | _ => false

/-- The values of a sequence, or a text alone. -/
def settingItems : Value → List Value
  | .text s => [.text s]
  | .state m => [.state m]
  | .list items => items
  | .tuple items => items
  | .bytes bs => bs.map fun b => .int b.toNat
  | _ => []

theorem settingText_eq (v : Value) :
    v.settingText = if v.isOverlong then .error .exceeded else .ok v.scalarText? := by
  cases v with
  | int i =>
    rw [settingText, shownInt, isOverlong, scalarText?]
    simp only [decide_eq_true_eq]
    split_ifs <;> rfl
  | _ => rfl

private theorem settingTextsOf_eq (items : List Value) :
    settingTextsOf items =
      if items.any isOverlong then .error .exceeded else .ok (items.filterMap scalarText?) := by
  induction items with
  | nil => rfl
  | cons v rest ih =>
    rw [settingTextsOf, settingText_eq, ih, List.any_cons, List.filterMap_cons]
    cases v.isOverlong
    · cases rest.any isOverlong
      · cases v.scalarText? <;> rfl
      · rfl
    · rfl

theorem settingTexts_eq (v : Value) :
    v.settingTexts =
      if v.settingItems.any isOverlong then .error .exceeded else .ok (v.settingItems.filterMap scalarText?) := by
  cases v with
  | list items => exact settingTextsOf_eq items
  | tuple items => exact settingTextsOf_eq items
  | bytes bs => exact settingTextsOf_eq _
  | _ => rfl

end Value

namespace Settings

/-! ### What a document gives -/

/-- The entries of a section of a document. -/
def sectionOf (entries : List (Value × Value)) (key : String) : List (Value × Value) :=
  (Value.entry entries key).settingEntries

/-- The text that is given for a key, if a scalar is. -/
def given? (entries : List (Value × Value)) (key : String) : Option String := (Value.entry entries key).scalarText?

/-- The texts that are given for a key. -/
def listed (entries : List (Value × Value)) (key : String) : List String :=
  (Value.entry entries key).settingItems.filterMap Value.scalarText?

/-- What is given for the containers, with a default for each kind. -/
def describedContainers (containers : List (Value × Value)) : ContainerNames where
  activity := (given? containers "activity").getD ({} : ContainerNames).activity
  fragment := (given? containers "fragment").getD ({} : ContainerNames).fragment
  bundle := (given? containers "bundle").getD ({} : ContainerNames).bundle

/-- The settings that a document gives, each with its default where nothing usable is given for it. -/
def described (root : Path) (entries : List (Value × Value)) : Settings where
  root := root
  sourceRoots := if (listed entries "source_roots").isEmpty then [root] else (listed entries "source_roots").map root.child
  excludePaths := listed entries "exclude_paths"
  directory := root.child (textOr (given? (sectionOf entries "output") "directory") defaultDirectory)
  package := textOr (given? (sectionOf entries "output") "package") defaultPackage
  templates := ((given? (sectionOf entries "output") "templates_dir").filter (!·.isEmpty)).map root.child
  containers := describedContainers (sectionOf entries "containers")
  enabled := listed (sectionOf entries "processors") "enabled"
  strict := (Value.entry entries "strict").settingBool.getD false

/-! ### What is wrong with a document -/

/-- The fault of an integer with too many digits. -/
def digitsFaults (overlong : Bool) : List SettingsFault := if overlong then [.digits .exceeded] else []

def textFaults (entries : List (Value × Value)) (key : String) : List SettingsFault :=
  digitsFaults (Value.entry entries key).isOverlong

def listFaults (entries : List (Value × Value)) (key : String) : List SettingsFault :=
  digitsFaults ((Value.entry entries key).settingItems.any Value.isOverlong)

/-- The fault of a package whose name is none. -/
def packageFaults (output : List (Value × Value)) : List SettingsFault :=
  let package := textOr (given? output "package") defaultPackage
  if isPackageName package then [] else [.packageName package]

/-- The fault of a container whose name is none. -/
def containerFaults (containers : List (Value × Value)) (kind : String) : List SettingsFault :=
  match given? containers kind with
  | none => []
  | some name => if Text.isIdentifier name then [] else [.containerName kind name]

def outputFaults (output : List (Value × Value)) : List SettingsFault :=
  textFaults output "directory" ++ (textFaults output "package" ++ (packageFaults output ++ textFaults output "templates_dir"))

/-- The kinds of containers that a name can be given to. -/
def containerKinds : List String := ["activity", "fragment", "bundle"]

/-- What is wrong with the entries of a document, in the order in which it is come upon. -/
def faults (entries : List (Value × Value)) : List SettingsFault :=
  listFaults entries "source_roots" ++ (outputFaults (sectionOf entries "output") ++
    ((containerKinds.flatMap fun kind =>
      textFaults (sectionOf entries "containers") kind ++ containerFaults (sectionOf entries "containers") kind) ++
    (listFaults (sectionOf entries "processors") "enabled" ++ listFaults entries "exclude_paths")))

/-- Whether a computation ends with the first of several faults, and with a value if there is none. -/
def Checks {α : Type} (r : Except SettingsFault α) (faults : List SettingsFault) (a : α) : Prop :=
  r = match faults with
    | [] => .ok a
    | fault :: _ => .error fault

namespace Checks

variable {α β : Type} {r : Except SettingsFault α} {next : α → Except SettingsFault β}
  {first later : List SettingsFault} {a : α} {b : β}

theorem ok (a : α) : Checks (.ok a) [] a := rfl

/-- Faults that are come upon later are behind those before. -/
theorem bind (h : Checks r first a) (h' : Checks (next a) later b) : Checks (r >>= next) (first ++ later) b := by
  cases first with
  | nil =>
    obtain rfl : r = .ok a := h
    exact h'
  | cons fault rest =>
    obtain rfl : r = .error fault := h
    rfl

/-- A value that nothing is wrong with is passed on. -/
theorem bind_ok (h : Checks r first a) (h' : next a = .ok b) : Checks (r >>= next) first b := by
  have hchecks : Checks (next a) [] b := h'
  simpa using h.bind hchecks

end Checks

private theorem checks_withinLimit {α : Type} {r : Except Value.DigitLimit α} {overlong : Bool} {a : α}
    (h : r = if overlong then .error .exceeded else .ok a) : Checks (withinLimit r) (digitsFaults overlong) a := by
  rw [h]
  cases overlong <;> rfl

theorem checks_settingText (entries : List (Value × Value)) (key : String) :
    Checks (withinLimit (Value.entry entries key).settingText) (textFaults entries key) (given? entries key) :=
  checks_withinLimit (Value.settingText_eq _)

theorem checks_settingTexts (entries : List (Value × Value)) (key : String) :
    Checks (withinLimit (Value.entry entries key).settingTexts) (listFaults entries key) (listed entries key) :=
  checks_withinLimit (Value.settingTexts_eq _)

private theorem faults_of_isEmpty (h : entries.isEmpty = true) :
    outputFaults entries = [] ∧ ∀ key, given? entries key = none := by
  obtain rfl := List.isEmpty_iff.1 h
  exact ⟨by decide +kernel, fun key => rfl⟩

theorem checks_withOutput (roots : List Path) (output : List (Value × Value)) :
    Checks ({ default root with sourceRoots := roots }.withOutput output) (outputFaults output)
      { default root with
        sourceRoots := roots
        directory := root.child (textOr (given? output "directory") defaultDirectory)
        package := textOr (given? output "package") defaultPackage
        templates := ((given? output "templates_dir").filter (!·.isEmpty)).map root.child } := by
  rw [withOutput]
  split_ifs with hempty
  · obtain ⟨hfaults, hgiven⟩ := faults_of_isEmpty hempty
    rw [hfaults]
    simp only [hgiven]
    rfl
  · refine (checks_settingText output "directory").bind ((checks_settingText output "package").bind ?_)
    dsimp only [packageFaults]
    cases isPackageName (textOr (given? output "package") defaultPackage)
    · rfl
    · exact (checks_settingText output "templates_dir").bind_ok rfl

theorem checks_containerName (containers : List (Value × Value)) (kind default : String) :
    Checks (containerName containers kind default) (textFaults containers kind ++ containerFaults containers kind)
      ((given? containers kind).getD default) := by
  refine (checks_settingText containers kind).bind ?_
  rw [containerFaults]
  cases given? containers kind with
  | none => rfl
  | some name =>
    dsimp only
    split_ifs <;> rfl

theorem checks_withContainers {s : Settings} (hdefaults : s.containers = {}) (containers : List (Value × Value)) :
    Checks (s.withContainers containers)
      (containerKinds.flatMap fun kind => textFaults containers kind ++ containerFaults containers kind)
      { s with containers := describedContainers containers } := by
  simp only [containerKinds, List.flatMap_cons, List.flatMap_nil, List.append_nil]
  rw [withContainers, hdefaults]
  exact (checks_containerName containers "activity" _).bind
    ((checks_containerName containers "fragment" _).bind ((checks_containerName containers "bundle" _).bind_ok rfl))

/-- The entries of a document give settings as they are described, unless something is wrong with them. -/
theorem checks_ofEntries (root : Path) (entries : List (Value × Value)) :
    Checks (ofEntries root entries) (faults entries) (described root entries) := by
  refine (checks_settingTexts entries "source_roots").bind ?_
  have hroots : (if (listed entries "source_roots").isEmpty then default root
      else { default root with sourceRoots := (listed entries "source_roots").map root.child }) =
      { default root with sourceRoots := (described root entries).sourceRoots } := by
    rw [described]
    split_ifs <;> rfl
  dsimp only
  rw [hroots]
  refine (checks_withOutput _ _).bind ((checks_withContainers rfl _).bind ?_)
  exact (checks_settingTexts _ "enabled").bind ((checks_settingTexts _ "exclude_paths").bind_ok rfl)

/-! ### Documents that are to be refused -/

/-- Whether names that are given for the package or the containers are none. -/
inductive Misnames (entries : List (Value × Value)) : Prop
  | package {name : String} (hgiven : given? (sectionOf entries "output") "package" = some name) (hne : name ≠ "")
      (hname : isPackageName name = false)
  | container {kind name : String} (hkind : kind ∈ containerKinds)
      (hgiven : given? (sectionOf entries "containers") kind = some name) (hname : Text.isIdentifier name = false)

private theorem eq_digits_of_mem {overlong : Bool} {f : SettingsFault} (h : f ∈ digitsFaults overlong) :
    f = .digits .exceeded := by
  cases overlong
  · cases h
  · simpa [digitsFaults] using h

theorem mem_packageFaults_iff {output : List (Value × Value)} {f : SettingsFault} : f ∈ packageFaults output ↔
    ∃ name, given? output "package" = some name ∧ name ≠ "" ∧ isPackageName name = false ∧ f = .packageName name := by
  have hdefault : isPackageName defaultPackage = true := by decide +kernel
  rw [packageFaults]
  cases given? output "package" with
  | none => simp [textOr, hdefault]
  | some name =>
    by_cases hempty : name = ""
    · simp [textOr, hempty, hdefault]
    · cases hname : isPackageName name <;> simp [textOr, hempty, hname]

theorem mem_containerFaults_iff {containers : List (Value × Value)} {f : SettingsFault} :
    f ∈ containerFaults containers kind ↔
      ∃ name, given? containers kind = some name ∧ Text.isIdentifier name = false ∧ f = .containerName kind name := by
  rw [containerFaults]
  cases given? containers kind with
  | none => simp
  | some name => cases hname : Text.isIdentifier name <;> simp [hname]

/-- What can be wrong with the entries of a document: a number has too many digits, or a name is none. -/
theorem mem_faults_cases {f : SettingsFault} (h : f ∈ faults entries) :
    f = .digits .exceeded ∨ f ∈ packageFaults (sectionOf entries "output") ∨
      ∃ kind ∈ containerKinds, f ∈ containerFaults (sectionOf entries "containers") kind := by
  simp only [faults, outputFaults, List.mem_append, List.mem_flatMap] at h
  obtain h | (h | h | h | h) | ⟨kind, hkind, h | h⟩ | h | h := h
  · exact .inl (eq_digits_of_mem h)
  · exact .inl (eq_digits_of_mem h)
  · exact .inl (eq_digits_of_mem h)
  · exact .inr (.inl h)
  · exact .inl (eq_digits_of_mem h)
  · exact .inl (eq_digits_of_mem h)
  · exact .inr (.inr ⟨kind, hkind, h⟩)
  · exact .inl (eq_digits_of_mem h)
  · exact .inl (eq_digits_of_mem h)

/-- A document has a fault of the settings themselves exactly if it misnames something. -/
theorem exists_own_fault_iff : (∃ f ∈ faults entries, f.isOwn = true) ↔ Misnames entries := by
  constructor
  · rintro ⟨f, hf, hown⟩
    obtain rfl | hpackage | ⟨kind, hkind, hcontainer⟩ := mem_faults_cases hf
    · cases hown
    · obtain ⟨name, hgiven, hne, hname, -⟩ := mem_packageFaults_iff.1 hpackage
      exact .package hgiven hne hname
    · obtain ⟨name, hgiven, hname, -⟩ := mem_containerFaults_iff.1 hcontainer
      exact .container hkind hgiven hname
  · intro h
    cases h with
    | @package name hgiven hne hname =>
      refine ⟨.packageName name, ?_, rfl⟩
      simp only [faults, outputFaults, List.mem_append]
      exact .inr (.inl (.inr (.inr (.inl (mem_packageFaults_iff.2 ⟨_, hgiven, hne, hname, rfl⟩)))))
    | @container kind name hkind hgiven hname =>
      refine ⟨.containerName kind name, ?_, rfl⟩
      simp only [faults, List.mem_append, List.mem_flatMap]
      exact .inr (.inr (.inl ⟨_, hkind, .inr (mem_containerFaults_iff.2 ⟨_, hgiven, hname, rfl⟩)⟩))

/-! ### Loading -/

/-- The document that a text spells; a blank text is an empty one. -/
def documentOf (text : String) : Except Document.DocumentFault Value :=
  if Text.isBlankText text then .ok .none else Document.valueOfText text

/-- Whether the bytes of a file are to be refused: they are no text, the text is no document, the document is neither empty
nor a mapping, or it misnames something. -/
inductive Objection (bytes : List UInt8) : Prop
  | undecodable {fault : Text.DecodeFault} (h : textOfBytes bytes = .error fault)
  | unloadable {text : String} {fault : Document.DocumentFault} (htext : textOfBytes bytes = .ok text)
      (h : documentOf text = .error fault)
  | notMapping {text : String} {v : Value} (htext : textOfBytes bytes = .ok text) (hv : documentOf text = .ok v)
      (hnone : v ≠ .none) (hmapping : ∀ entries, v ≠ .dict entries)
  | misnames {text : String} {v : Value} (htext : textOfBytes bytes = .ok text) (hv : documentOf text = .ok v)
      (h : Misnames v.settingEntries)

/-- Whether loading the bytes of a file is as it should be: it fails exactly if they are to be refused, and then with a fault
of the settings themselves, and otherwise it gives the settings that are described. -/
structure Heeds (root : Path) (bytes : List UInt8) (result : Except SettingsFault Settings) : Prop where
  refuses : (∃ f, result = .error f ∧ f.isOwn = true) ↔ Objection bytes
  own : ∀ f, result = .error f → f.isOwn = true
  gives : ¬Objection bytes → ∃ text v, textOfBytes bytes = .ok text ∧ documentOf text = .ok v ∧
    result = .ok (described root v.settingEntries)

/-- Whether the bytes of a file are not loaded as they should be: they are no text, the text has something that is none of
the values it stands for, the document is no mapping but counts as nothing, or the first thing that is wrong with it is a
number with too many digits. -/
inductive Slips (bytes : List UInt8) : Prop
  | undecodable {fault : Text.DecodeFault} (h : textOfBytes bytes = .error fault)
  | unexpected {text : String} {fault : Document.DocumentFault} (htext : textOfBytes bytes = .ok text)
      (h : documentOf text = .error fault) (hfault : fault ≠ .malformed)
  | emptyRoot {text : String} {v : Value} (htext : textOfBytes bytes = .ok text) (hv : documentOf text = .ok v)
      (hnone : v ≠ .none) (hmapping : ∀ entries, v ≠ .dict entries) (hempty : v.isEmptySetting = true)
  | digits {text : String} {v : Value} (htext : textOfBytes bytes = .ok text) (hv : documentOf text = .ok v)
      (hfirst : (faults v.settingEntries).head? = some (.digits .exceeded))

theorem heeds_of_refused {f : SettingsFault} (hobjection : Objection bytes) (hown : f.isOwn = true) (root : Path) :
    Heeds root bytes (.error f) := by
  refine ⟨iff_of_true ⟨f, rfl, hown⟩ hobjection, ?_, fun h => absurd hobjection h⟩
  rintro _ ⟨⟩
  exact hown

/-- A file of settings that is there is loaded from its text. -/
theorem load_of_readBytes (hfile : pathFor tree current p = .ok file) (hbytes : tree.readBytes file = .ok bytes) :
    load tree current p = match textOfBytes bytes with
      | .error fault => .error (.unreadable (.undecodable fault))
      | .ok text => ofText file.parent text := by
  have hentry : tree.hasEntry file = .ok true := exists_of_readBytes hbytes
  rw [load, hfile]
  simp only [hentry, readText, hbytes]
  cases textOfBytes bytes <;> rfl

/-- A document that is empty or a mapping gives settings as they are described, unless something is wrong with it. -/
theorem checks_ofText (hv : documentOf text = .ok v) (hmapping : v = .none ∨ ∃ entries, v = .dict entries) (root : Path) :
    Checks (ofText root text) (faults v.settingEntries) (described root v.settingEntries) := by
  rw [documentOf] at hv
  rw [ofText]
  split_ifs at hv ⊢ with hblank
  · cases hv
    exact checks_ofEntries root []
  · rw [hv]
    obtain rfl | ⟨entries, rfl⟩ := hmapping
    · exact checks_ofEntries root []
    · exact checks_ofEntries root entries

/-- A document that is neither empty nor a mapping is refused, unless it counts as nothing. -/
theorem ofText_of_notMapping (hv : documentOf text = .ok v) (hnone : v ≠ .none) (hmapping : ∀ entries, v ≠ .dict entries)
    (root : Path) :
    ofText root text = if v.isEmptySetting then ofEntries root [] else .error .notMapping := by
  rw [documentOf] at hv
  rw [ofText]
  split_ifs at hv ⊢ with hblank
  · cases hv
    exact absurd rfl hnone
  · cases hv
    exact absurd rfl hnone
  all_goals
    rw [hv]
    cases v with
    | dict entries => exact absurd rfl (hmapping entries)
    | _ => simp_all

section Documents

variable (htext : textOfBytes bytes = .ok text) (hv : documentOf text = .ok v)

include htext hv

private theorem objection_iff : Objection bytes ↔
    (v ≠ .none ∧ ∀ entries, v ≠ .dict entries) ∨ Misnames v.settingEntries := by
  constructor
  · intro h
    cases h with
    | undecodable h => cases htext.symm.trans h
    | unloadable htext' h =>
      cases htext.symm.trans htext'
      cases hv.symm.trans h
    | notMapping htext' hv' hnone hmapping =>
      cases htext.symm.trans htext'
      cases hv.symm.trans hv'
      exact .inl ⟨hnone, hmapping⟩
    | misnames htext' hv' h =>
      cases htext.symm.trans htext'
      cases hv.symm.trans hv'
      exact .inr h
  · rintro (⟨hnone, hmapping⟩ | h)
    · exact .notMapping htext hv hnone hmapping
    · exact .misnames htext hv h

private theorem slips_iff : Slips bytes ↔
    (v ≠ .none ∧ (∀ entries, v ≠ .dict entries) ∧ v.isEmptySetting = true) ∨
      (faults v.settingEntries).head? = some (.digits .exceeded) := by
  constructor
  · intro h
    cases h with
    | undecodable h => cases htext.symm.trans h
    | unexpected htext' h =>
      cases htext.symm.trans htext'
      cases hv.symm.trans h
    | emptyRoot htext' hv' hnone hmapping hempty =>
      cases htext.symm.trans htext'
      cases hv.symm.trans hv'
      exact .inl ⟨hnone, hmapping, hempty⟩
    | digits htext' hv' h =>
      cases htext.symm.trans htext'
      cases hv.symm.trans hv'
      exact .inr h
  · rintro (⟨hnone, hmapping, hempty⟩ | h)
    · exact .emptyRoot htext hv hnone hmapping hempty
    · exact .digits htext hv h

/-- A document that is empty or a mapping is loaded as it should be, unless a number with too many digits is come upon
before anything else that is wrong. -/
private theorem heeds_mapping_iff (hmapping : v = .none ∨ ∃ entries, v = .dict entries) (root : Path) :
    Heeds root bytes (ofText root text) ↔ ¬Slips bytes := by
  have hroot : ¬(v ≠ .none ∧ ∀ entries, v ≠ .dict entries) := by
    rintro ⟨hnone, hdict⟩
    obtain rfl | ⟨entries, rfl⟩ := hmapping
    · exact hnone rfl
    · exact hdict entries rfl
  have hobjection := objection_iff htext hv
  have hslips := slips_iff htext hv
  rw [or_iff_right hroot] at hobjection
  rw [or_iff_right fun h => hroot ⟨h.1, h.2.1⟩] at hslips
  have hown : (∃ f ∈ faults v.settingEntries, f.isOwn = true) ↔ Misnames v.settingEntries := exists_own_fault_iff
  have hcases : ∀ f ∈ faults v.settingEntries, f = .digits .exceeded ∨ f.isOwn = true := by
    intro f hf
    obtain rfl | hpackage | ⟨kind, -, hcontainer⟩ := mem_faults_cases hf
    · exact .inl rfl
    · obtain ⟨name, -, -, -, rfl⟩ := mem_packageFaults_iff.1 hpackage
      exact .inr rfl
    · obtain ⟨name, -, -, rfl⟩ := mem_containerFaults_iff.1 hcontainer
      exact .inr rfl
  have hchecks := checks_ofText hv hmapping root
  cases hfaults : faults v.settingEntries with
  | nil =>
    rw [hfaults] at hown hslips hchecks
    have hresult : ofText root text = .ok (described root v.settingEntries) := hchecks
    have hno : ¬Objection bytes := by simpa [← hown] using hobjection
    rw [hslips, hresult]
    refine iff_of_true ⟨iff_of_false (by simp) hno, by simp, fun _ => ⟨text, v, htext, hv, rfl⟩⟩ (by simp)
  | cons f rest =>
    rw [hfaults] at hown hslips hcases hchecks
    have hresult : ofText root text = .error f := hchecks
    rw [hslips, hresult]
    obtain rfl | hf := hcases f List.mem_cons_self
    · exact iff_of_false (fun h => absurd (h.own _ rfl) (by decide)) (by simp)
    · refine iff_of_true (heeds_of_refused (hobjection.2 (hown.1 ⟨f, List.mem_cons_self, hf⟩)) hf root) ?_
      rintro ⟨⟩
      cases hf

/-- A document that is neither empty nor a mapping is refused as it should be, unless it counts as nothing. -/
private theorem heeds_notMapping_iff (hnone : v ≠ .none) (hmapping : ∀ entries, v ≠ .dict entries) (root : Path) :
    Heeds root bytes (ofText root text) ↔ ¬Slips bytes := by
  have hobjection : Objection bytes := .notMapping htext hv hnone hmapping
  have hentries : v.settingEntries = [] := by
    cases v with
    | dict entries => exact absurd rfl (hmapping entries)
    | _ => rfl
  have hfaults : faults [] = [] := by decide +kernel
  rw [slips_iff htext hv, hentries, hfaults, ofText_of_notMapping hv hnone hmapping, and_iff_right hnone,
    and_iff_right hmapping]
  cases v.isEmptySetting
  · exact iff_of_true (heeds_of_refused hobjection rfl root) (by simp)
  · refine iff_of_false (fun h => ?_) (by simp)
    obtain ⟨f, hf, -⟩ := h.refuses.2 hobjection
    have hresult : ofEntries root [] = .ok (described root []) := by
      have hchecks := checks_ofEntries root []
      rw [hfaults] at hchecks
      exact hchecks
    rw [if_pos rfl, hresult] at hf
    cases hf

end Documents

/-- A project whose settings are a given text. -/
def settingsTree (text : String) : Entry :=
  .directory [("p", .directory [(settingsFileName, .file (Text.encode text))])]

end Settings

end NavFactory
