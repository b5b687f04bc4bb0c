import NavFactory.CommandLine
import NavFactory.Proofs.Hiding
import NavFactory.Proofs.Isolation

/-!
# Faults that are not explained

The command line explains mistakes in the setup of a project and texts that cannot be generated.  Here it is told, one
stage of a round after the other, which inputs end the stage in any other way: what stands in the place of a text or is
none (`readText_escapes_iff`), settings without values (`load_escapes_iff`), and sources that cannot be scanned or stop
the reading (`readSourceRoot_escapes_iff`).
-/

namespace NavFactory

open Entry

/-! ### Results that escape -/

/-- Whether a fault is neither explained as a mistake in the setup nor as a text that cannot be generated. -/
def RoundFault.IsUnexplained (f : RoundFault) : Prop := f.isSetup = false ∧ f.isGeneration = false

section Results

variable {ε α β : Type} {P : ε → Prop}

/-- Whether a computation ends with a fault of some kind. -/
def FailsWith (P : ε → Prop) (r : Except ε α) : Prop := ∃ f, r = .error f ∧ P f

theorem failsWith_error {f : ε} : FailsWith P (.error f : Except ε α) ↔ P f := by
  simp [FailsWith]

theorem not_failsWith_ok {a : α} : ¬FailsWith P (.ok a : Except ε α) := by
  simp [FailsWith]

theorem failsWith_mapError_iff {ε' : Type} {cause : ε → ε'} {P : ε' → Prop} {r : Except ε α} :
    FailsWith P (r.mapError cause) ↔ FailsWith (fun f => P (cause f)) r := by
  cases r <;> simp [FailsWith, Except.mapError]

theorem mapError_eq_ok_iff {ε' : Type} {cause : ε → ε'} {r : Except ε α} {a : α} :
    r.mapError cause = .ok a ↔ r = .ok a := by
  cases r <;> simp [Except.mapError]

theorem failsWith_bind_iff {r : Except ε α} {next : α → Except ε β} :
    FailsWith P (r >>= next) ↔ FailsWith P r ∨ ∃ a, r = .ok a ∧ FailsWith P (next a) := by
  cases r <;> simp [FailsWith, bind, Except.bind]

/-- Whether a computation of a round ends with a fault that is not explained. -/
def Trace.Escapes (t : Trace α) : Prop := FailsWith RoundFault.IsUnexplained t.result

namespace Trace

theorem not_escapes_of_ok {t : Trace α} {a : α} (h : t.result = .ok a) : ¬t.Escapes := by
  rw [Escapes, h]
  exact not_failsWith_ok

theorem escapes_bind_iff {t : Trace α} {next : α → Trace β} :
    (t >>= next).Escapes ↔ t.Escapes ∨ ∃ a, t.result = .ok a ∧ (next a).Escapes := by
  change FailsWith _ (t.andThen next).result ↔ _
  rw [andThen, Escapes]
  cases t.result with
  | error fault => simp [failsWith_error]
  | ok a => simp [not_failsWith_ok, Escapes]

theorem Escapes.at_once {t : Trace α} {next : α → Trace β} (h : t.Escapes) : (t >>= next).Escapes :=
  escapes_bind_iff.2 (.inl h)

theorem Escapes.later {t : Trace α} {next : α → Trace β} {a : α} (ht : t.result = .ok a) (h : (next a).Escapes) :
    (t >>= next).Escapes := escapes_bind_iff.2 (.inr ⟨a, ht, h⟩)

theorem escapes_lift_iff {cause : ε → RoundFault} {r : Except ε α} :
    (lift cause r).Escapes ↔ FailsWith (fun f => (cause f).IsUnexplained) r := failsWith_mapError_iff

theorem escapes_log_bind_iff {records : List LogRecord} {next : Unit → Trace β} :
    (log records >>= next).Escapes ↔ (next ()).Escapes :=
  escapes_bind_iff.trans ⟨fun h => (h.resolve_left (not_escapes_of_ok rfl)).elim fun _ h => h.2,
    fun h => .inr ⟨(), rfl, h⟩⟩

/-- A run escapes at the first of its values that fails. -/
theorem escapes_forEach_iff {f : α → Trace β} {as : List α} : (forEach f as).Escapes ↔
    ∃ front a back, as = front ++ a :: back ∧ (∀ b ∈ front, ∃ c, (f b).result = .ok c) ∧ (f a).Escapes := by
  induction as with
  | nil =>
    refine iff_of_false (not_escapes_of_ok rfl) ?_
    rintro ⟨front, a, back, h, -⟩
    simp at h
  | cons a rest ih =>
    rw [forEach, escapes_bind_iff]
    constructor
    · rintro (h | ⟨b, hb, h⟩)
      · exact ⟨[], a, rest, rfl, by simp, h⟩
      · obtain h | ⟨others, -, h⟩ := escapes_bind_iff.1 h
        · obtain ⟨front, a', back, rfl, hfront, h⟩ := ih.1 h
          exact ⟨a :: front, a', back, rfl, List.forall_mem_cons.2 ⟨⟨b, hb⟩, hfront⟩, h⟩
        · exact absurd h (not_escapes_of_ok rfl)
    · rintro ⟨front, a', back, has, hfront, h⟩
      cases front with
      | nil =>
        obtain ⟨rfl, -⟩ := List.cons.inj has
        exact .inl h
      | cons first front =>
        rw [List.cons_append] at has
        obtain ⟨rfl, rfl⟩ := List.cons.inj has
        obtain ⟨⟨b, hb⟩, hfront⟩ := List.forall_mem_cons.1 hfront
        exact .inr ⟨b, hb, .at_once (ih.2 ⟨front, a', back, rfl, hfront, h⟩)⟩

/-- If all that fail escape, then a run escapes exactly if one of its values does. -/
theorem escapes_forEach_iff_exists {f : α → Trace β} {as : List α}
    (h : ∀ a ∈ as, (∃ b, (f a).result = .ok b) ∨ (f a).Escapes) :
    (forEach f as).Escapes ↔ ∃ a ∈ as, (f a).Escapes := by
  rw [escapes_forEach_iff]
  constructor
  · rintro ⟨front, a, back, rfl, -, ha⟩
    exact ⟨a, List.mem_append_right _ List.mem_cons_self, ha⟩
  · rintro ⟨a, ha, hescapes⟩
    induction as with
    | nil => cases ha
    | cons first rest ih =>
      obtain ⟨hfirst, hrest⟩ := List.forall_mem_cons.1 h
      obtain hok | hfails := hfirst
      · obtain rfl | ha := List.mem_cons.1 ha
        · obtain ⟨b, hb⟩ := hok
          exact absurd hescapes (not_escapes_of_ok hb)
        · obtain ⟨front, a', back, rfl, hfront, ha'⟩ := ih hrest ha
          exact ⟨first :: front, a', back, rfl, List.forall_mem_cons.2 ⟨hok, hfront⟩, ha'⟩
      · exact ⟨[], first, rest, rfl, by simp, hfails⟩

end Trace

end Results

/-! ### Paths and texts -/

variable {tree : Entry} {current above names excludes : List String} {p root : Path} {found : Place} {text : String}
  {settings : Settings} {sourceRoot : Path} {manifest : Manifest}

/-- Whether a name on the way of a path is too long. -/
def TooLong (tree : Entry) (p : Path) : Prop := tree.locate p = .error ⟨.nameTooLong, p⟩

/-- Whether a path leads to a file whose bytes are no text. -/
def Undecodable (tree : Entry) (p : Path) : Prop :=
  ∃ bytes fault, tree.readBytes p = .ok bytes ∧ Text.decode bytes = .error fault

/-- Whether a path leads to something that is there and has no text. -/
def Illegible (tree : Entry) (p : Path) : Prop := tree.hasDirectory p = .ok true ∨ Undecodable tree p

/-- A path leads somewhere, or nothing is there, or a name on its way is too long. -/
theorem locate_cases (tree : Entry) (p : Path) : (∃ found, tree.locate p = .ok found) ∨
    (∃ f, tree.locate p = .error f ∧ f.isAbsence = true ∧ (f.isMisplaced = false ↔ p.hasNull = true)) ∨
      TooLong tree p := by
  rw [TooLong, locate]
  split_ifs with hnull
  · exact .inr (.inl ⟨_, rfl, rfl, by simp [FileFault.isMisplaced, hnull]⟩)
  · cases hfrom : tree.locateFrom [] p.parts with
    | ok found => exact .inl ⟨found, rfl⟩
    | error problem =>
      obtain rfl | rfl | rfl := problem_of_locateFrom hfrom
      · exact .inr (.inl ⟨_, rfl, rfl, by simp [FileFault.isMisplaced, hnull]⟩)
      · exact .inr (.inl ⟨_, rfl, rfl, by simp [FileFault.isMisplaced, hnull]⟩)
      · exact .inr (.inr rfl)

theorem not_tooLong_of_ok (h : tree.locate p = .ok found) : ¬TooLong tree p := by
  rw [TooLong, h]
  simp

theorem not_tooLong_of_absence {f : FileFault} (h : tree.locate p = .error f) (habsence : f.isAbsence = true) :
    ¬TooLong tree p := by
  rw [TooLong, h]
  rintro ⟨⟩
  cases habsence

/-- Looking for something fails only at a name that is too long. -/
theorem holds_error_iff {test : Node → Bool} {f : FileFault} :
    (tree.holds p fun e => test e.node) = .error f ↔ f = ⟨.nameTooLong, p⟩ ∧ TooLong tree p := by
  rw [holds_eq]
  obtain ⟨found, hlocate⟩ | ⟨fault, hlocate, habsence, -⟩ | hlong := locate_cases tree p
  · have hlong := not_tooLong_of_ok hlocate
    rw [hlocate]
    cases found <;> simp [hlong]
  · have hlong := not_tooLong_of_absence hlocate habsence
    rw [hlocate]
    simp [habsence, hlong]
  · have hlocate : tree.locate p = .error ⟨.nameTooLong, p⟩ := hlong
    rw [hlocate, and_iff_left hlong]
    change (.error ⟨.nameTooLong, p⟩ : Except FileFault Bool) = .error f ↔ _
    rw [Except.error.injEq, eq_comm]

theorem hasEntry_error_iff {f : FileFault} :
    tree.hasEntry p = .error f ↔ f = ⟨.nameTooLong, p⟩ ∧ TooLong tree p := @holds_error_iff tree p (fun _ => true) f

theorem hasDirectory_error_iff {f : FileFault} :
    tree.hasDirectory p = .error f ↔ f = ⟨.nameTooLong, p⟩ ∧ TooLong tree p := by
  rw [hasDirectory_eq]
  exact holds_error_iff

/-- There is something at a path exactly if it leads there. -/
theorem hasEntry_eq_true_iff : tree.hasEntry p = .ok true ↔ ∃ place, tree.locate p = .ok (.found place) := by
  have heq : tree.hasEntry p = _ := holds_eq tree p fun _ => true
  rw [heq]
  cases hlocate : tree.locate p with
  | error f => cases hf : f.isAbsence <;> simp [hf]
  | ok found =>
    cases found with
    | free above name => simp
    | found place =>
      obtain ⟨node, hnode⟩ := Option.isSome_iff_exists.1 (isSome_of_found (locate_eq_ok_iff.1 hlocate).2)
      simp [hnode]

private theorem readText_escapes_of_error {f : FileFault} (h : tree.readBytes p = .error f) :
    FailsWith (fun f => f.isMisplaced = false) (tree.readText p) ↔ f.isMisplaced = false := by
  rw [readText, h]
  exact failsWith_error

private theorem readText_escapes_of_ok {bytes : List UInt8} (h : tree.readBytes p = .ok bytes) :
    FailsWith (fun f => f.isMisplaced = false) (tree.readText p) ↔ ∃ fault, Text.decode bytes = .error fault := by
  rw [readText, h]
  dsimp only
  rw [textOfBytes]
  cases Text.decode bytes <;> simp [FailsWith, Except.map, ReadingFault.isMisplaced]

/-- A text cannot be looked for, or what is there has none; a text that is missing is one that is not there. -/
theorem readText_escapes_iff : FailsWith (fun f => f.isMisplaced = false) (tree.readText p) ↔
    p.hasNull = true ∨ TooLong tree p ∨ Illegible tree p := by
  rw [Illegible, Undecodable]
  obtain ⟨found, hlocate⟩ | ⟨fault, hlocate, habsence, hnull⟩ | hlong := locate_cases tree p
  · rw [or_iff_right (by simp [(locate_eq_ok_iff.1 hlocate).1]), or_iff_right (not_tooLong_of_ok hlocate),
      hasDirectory_eq, holds_eq, hlocate]
    have hbytes := readBytes_eq tree p
    rw [hlocate] at hbytes
    cases found with
    | free above name => simp [readText_escapes_of_error hbytes, hbytes, FileFault.isMisplaced]
    | found place =>
      dsimp only at hbytes ⊢
      obtain ⟨node, hnode⟩ := Option.isSome_iff_exists.1 (isSome_of_found (locate_eq_ok_iff.1 hlocate).2)
      rw [hnode] at hbytes ⊢
      cases node with
      | directory => simp [readText_escapes_of_error hbytes, FileFault.isMisplaced, Node.isDirectory]
      | file contents => simp [readText_escapes_of_ok hbytes, hbytes, Node.isDirectory]
  · have hbytes := readBytes_eq tree p
    rw [hlocate] at hbytes
    rw [readText_escapes_of_error hbytes, hnull, hasDirectory_eq, holds_eq, hlocate]
    simp [habsence, hbytes, not_tooLong_of_absence hlocate habsence]
  · have hlocate : tree.locate p = .error ⟨.nameTooLong, p⟩ := hlong
    have hbytes := readBytes_eq tree p
    rw [hlocate] at hbytes
    simp [readText_escapes_of_error hbytes, hlong, FileFault.isMisplaced]

/-! ### Settings -/

theorem exists_of_readBytes {bytes : List UInt8} (h : tree.readBytes p = .ok bytes) : tree.hasEntry p = .ok true := by
  obtain ⟨place, hlocate, -⟩ := found_of_readBytes h
  exact hasEntry_eq_true_iff.2 ⟨place, hlocate⟩

theorem exists_of_readText (h : tree.readText p = .ok text) : tree.hasEntry p = .ok true := by
  rw [readText] at h
  cases hbytes : tree.readBytes p with
  | error f =>
    rw [hbytes] at h
    cases h
  | ok bytes => exact exists_of_readBytes hbytes

theorem exists_of_illegible (h : Illegible tree p) : tree.hasEntry p = .ok true := by
  obtain h | ⟨bytes, -, h, -⟩ := h
  · obtain ⟨here, hlocate, -⟩ := found_of_hasDirectory h
    exact hasEntry_eq_true_iff.2 ⟨here, hlocate⟩
  · exact exists_of_readBytes h

/-- What is there has a text, or it is illegible. -/
theorem readText_cases (h : tree.hasEntry p = .ok true) :
    (∃ text, tree.readText p = .ok text) ∧ ¬Illegible tree p ∨
      FailsWith (fun f => f.isMisplaced = false) (tree.readText p) ∧ Illegible tree p := by
  obtain ⟨place, hlocate⟩ := hasEntry_eq_true_iff.1 h
  have hescapes : FailsWith (fun f => f.isMisplaced = false) (tree.readText p) ↔ Illegible tree p := by
    rw [readText_escapes_iff, or_iff_right (by simp [(locate_eq_ok_iff.1 hlocate).1]),
      or_iff_right (not_tooLong_of_ok hlocate)]
  have hbytes := readBytes_eq tree p
  obtain ⟨node, hnode⟩ := Option.isSome_iff_exists.1 (isSome_of_found (locate_eq_ok_iff.1 hlocate).2)
  rw [hlocate] at hbytes
  simp only [hnode] at hbytes
  cases node with
  | directory =>
    have hfails := (readText_escapes_of_error hbytes).2 rfl
    exact .inr ⟨hfails, hescapes.1 hfails⟩
  | file contents =>
    rw [← hescapes, readText_escapes_of_ok hbytes, readText, hbytes]
    dsimp only
    rw [textOfBytes]
    cases Text.decode contents <;> simp [Except.map]

theorem exists_hasEntry_of_not_tooLong (h : ¬TooLong tree p) : ∃ there, tree.hasEntry p = .ok there := by
  cases hentry : tree.hasEntry p with
  | ok there => exact ⟨there, rfl⟩
  | error f => exact absurd (hasEntry_error_iff.1 hentry).2 h

theorem exists_step (tree : Entry) (here : List String) {name : String} (hfits : name.utf8ByteSize ≤ maxNameLength) :
    ∃ found, tree.step here name = .ok found := by
  rw [step, if_neg (Nat.not_lt.2 hfits)]
  split_ifs <;> exact ⟨_, rfl⟩

/-- Below a directory that is there a name is not too long if it fits. -/
theorem not_tooLong_below {name : String} (h : tree.nodeAt? [] = some .directory → tree.Leads above above)
    (hparts : p.parts = above ++ [name]) (hfits : name.utf8ByteSize ≤ maxNameLength) : ¬TooLong tree p := by
  intro hlong
  have hfrom : tree.locateFrom [] (above ++ [name]) = .error .nameTooLong := by
    rw [TooLong, locate, hparts] at hlong
    split_ifs at hlong
    · cases hlong
    · split at hlong
      · cases hlong
      · cases hlong
        assumption
  have htop : tree.nodeAt? [] = some .directory := by
    cases tree with
    | directory entries => rfl
    | file contents => cases above <;> simp [locateFrom] at hfrom
  obtain ⟨found, hstep⟩ := exists_step tree above hfits
  rw [(h htop).concat, hstep] at hfrom
  cases hfrom

/-- The settings that an absolute path stands for are looked for in the directory that the path leads to, or else in the
one that its last name belongs to. -/
private theorem exists_settingsDirectory (current : List String) (habsolute : p.isAbsolute = true)
    (hlocate : tree.locate p = .ok found) :
    ∃ init above, Settings.pathFor tree current p = resolvePath [] ⟨p.root, init ++ [settingsFileName]⟩ ∧ init ⊆ p.parts ∧
      Path.collapse [] init = above ∧ (tree.nodeAt? [] = some .directory → tree.Leads above above) := by
  obtain ⟨-, hfrom⟩ := locate_eq_ok_iff.1 hlocate
  have hchild : ∀ q : Path, q.child settingsFileName = ⟨q.root, q.parts ++ [settingsFileName]⟩ :=
    Path.child_of_isStep (by decide)
  rw [Settings.pathFor, if_pos habsolute, hchild, hchild]
  cases hdirectory : tree.hasDirectory p with
  | error f => exact absurd (hasDirectory_error_iff.1 hdirectory).2 (not_tooLong_of_ok hlocate)
  | ok there =>
    cases there with
    | true =>
      obtain ⟨here, hhere, hnode⟩ := found_of_hasDirectory hdirectory
      have hleads : tree.Leads p.parts here := ⟨(locate_eq_ok_iff.1 hhere).2, hnode⟩
      exact ⟨p.parts, here, rfl, List.Subset.refl _, collapse_of_found hleads.located, fun _ => hleads.self.1⟩
    | false =>
      obtain hparts | ⟨init, last, hparts⟩ := List.eq_nil_or_concat' p.parts
      · refine ⟨[], [], ?_, List.nil_subset _, rfl, leads_nil⟩
        rw [Path.name, Path.parent, hparts]
        rfl
      · rw [hparts] at hfrom
        obtain ⟨here, hleads, hstep⟩ := exists_leads_of_ok hfrom
        refine ⟨init, here, ?_, hparts ▸ List.subset_append_left _ _, collapse_of_found hleads.located,
          fun _ => hleads.self.1⟩
        rw [Path.name, Path.parent, hparts, List.getLastD_concat, List.dropLast_concat]
        by_cases hname : last = settingsFileName
        · have hp : p = ⟨p.root, init ++ [settingsFileName]⟩ := by
            rw [← hname, ← hparts]
          simp only [bind, Except.bind, hname, beq_self_eq_true, Bool.false_eq_true, if_false, if_true]
          rw [← hp]
        · simp [bind, Except.bind, hname]

/-- The file of settings that an absolute path stands for can be looked for wherever the path leads. -/
theorem exists_settingsFile (current : List String) (habsolute : p.isAbsolute = true)
    (hlocate : tree.locate p = .ok found) :
    ∃ file there, Settings.pathFor tree current p = .ok file ∧ tree.hasEntry file = .ok there := by
  obtain ⟨init, above, hpath, hsub, hinit, hleads⟩ := exists_settingsDirectory current habsolute hlocate
  have hparts := hasNull_eq_false_iff.1 (locate_eq_ok_iff.1 hlocate).1
  have hnull : (⟨p.root, init ++ [settingsFileName]⟩ : Path).hasNull = false :=
    hasNull_eq_false_iff.2 (List.forall_mem_append.2 ⟨fun part hpart => hparts part (hsub hpart), by decide⟩)
  have hresolved : ((⟨p.root, init ++ [settingsFileName]⟩ : Path).resolved []).parts = above ++ [settingsFileName] := by
    rw [Path.resolved_nil, Path.collapse_append, hinit, Path.collapse_of_notMem (by decide)]
    rfl
  obtain ⟨there, hthere⟩ := exists_hasEntry_of_not_tooLong (not_tooLong_below hleads hresolved (by decide))
  exact ⟨_, there, hpath.trans (resolvePath_eq_ok_iff.2 ⟨hnull, rfl⟩), hthere⟩

/-- Whether the settings that a path stands for end its reading without being at fault themselves: they are illegible, or
their text has something that is none of the values it stands for. -/
def Settings.Unusable (tree : Entry) (current : List String) (p : Path) : Prop :=
  ∃ file, pathFor tree current p = .ok file ∧ (Illegible tree file ∨
    ∃ text, tree.readText file = .ok text ∧ FailsWith (fun f => f.isSetup = false) (ofText file.parent text))

/-- Settings are loaded, or explained, unless they are unusable. -/
theorem load_escapes_iff (habsolute : p.isAbsolute = true) (hlocate : tree.locate p = .ok found) :
    FailsWith (fun f => f.isSetup = false) (Settings.load tree current p) ↔ Settings.Unusable tree current p := by
  obtain ⟨file, there, hpath, hthere⟩ := exists_settingsFile current habsolute hlocate
  rw [Settings.load, Settings.Unusable, hpath]
  simp only [Except.ok.injEq, exists_eq_left', hthere]
  cases there with
  | false =>
    refine iff_of_false not_failsWith_ok ?_
    rintro (h | ⟨text, h, -⟩)
    · rw [exists_of_illegible h] at hthere
      cases hthere
    · rw [exists_of_readText h] at hthere
      cases hthere
  | true =>
    obtain ⟨⟨text, htext⟩, hlegible⟩ | ⟨⟨f, hf, hmisplaced⟩, hillegible⟩ := readText_cases hthere
    · simp [htext, hlegible]
    · simp [hf, hillegible, failsWith_error, SettingsFault.isSetup, hmisplaced]

/-! ### The project -/

theorem resolvePath_fails_iff {P : FileFault → Prop} :
    FailsWith P (resolvePath current p) ↔ p.hasNull = true ∧ P ⟨.nullCharacter, p⟩ := by
  rw [resolvePath]
  cases p.hasNull <;> simp [FailsWith]

theorem hasEntry_fails_iff {P : FileFault → Prop} :
    FailsWith P (tree.hasEntry p) ↔ TooLong tree p ∧ P ⟨.nameTooLong, p⟩ := by
  simp only [FailsWith, hasEntry_error_iff]
  constructor
  · rintro ⟨f, ⟨rfl, hlong⟩, hf⟩
    exact ⟨hlong, hf⟩
  · rintro ⟨hlong, hf⟩
    exact ⟨_, ⟨rfl, hlong⟩, hf⟩

/-- A project is found, or explained to be missing, unless its path cannot be looked for. -/
theorem projectRoot_escapes_iff : FailsWith RoundFault.IsUnexplained (projectRoot tree current text) ↔
    (Path.ofText text).hasNull = true ∨ TooLong tree ((Path.ofText text).resolved current) := by
  have hfault : ∀ q : Path, RoundFault.IsUnexplained (.unresolved ⟨.nullCharacter, q⟩) ∧
      RoundFault.IsUnexplained (.unresolved ⟨.nameTooLong, q⟩) := fun q =>
    ⟨⟨rfl, rfl⟩, rfl, rfl⟩
  rw [projectRoot, failsWith_bind_iff, failsWith_mapError_iff, resolvePath_fails_iff, and_iff_left (hfault _).1]
  cases hnull : (Path.ofText text).hasNull with
  | true => simp
  | false =>
    have hresolved : resolvePath current (Path.ofText text) = .ok ((Path.ofText text).resolved current) :=
      resolvePath_eq_ok_iff.2 ⟨hnull, rfl⟩
    simp only [mapError_eq_ok_iff, hresolved, Except.ok.injEq, exists_eq_left', Bool.false_eq_true, false_or]
    rw [failsWith_bind_iff, failsWith_mapError_iff, hasEntry_fails_iff, and_iff_left (hfault _).2]
    refine or_iff_left ?_
    rintro ⟨there, -, h⟩
    cases there with
    | true => exact not_failsWith_ok h
    | false => exact absurd (failsWith_error.1 h).1 (by simp [RoundFault.isSetup])

/-- The directory of a project is one that there is. -/
theorem projectRoot_ok_iff : projectRoot tree current text = .ok root ↔
    resolvePath current (Path.ofText text) = .ok root ∧ ∃ place, tree.locate root = .ok (.found place) := by
  rw [← hasEntry_eq_true_iff]
  constructor
  · intro h
    obtain ⟨resolved, hresolved, h⟩ := bind_eq_ok_iff.1 h
    obtain ⟨there, hthere, h⟩ := bind_eq_ok_iff.1 h
    cases there with
    | false => cases h
    | true =>
      cases h
      exact ⟨mapError_eq_ok_iff.1 hresolved, mapError_eq_ok_iff.1 hthere⟩
  · rintro ⟨hresolved, hthere⟩
    rw [projectRoot, hresolved]
    simp [Except.mapError, bind, Except.bind, hthere]

/-- The directory of a project is absolute, and it leads somewhere. -/
theorem exists_of_projectRoot (h : projectRoot tree current text = .ok root) :
    root.isAbsolute = true ∧ ∃ place, tree.locate root = .ok (.found place) := by
  obtain ⟨hresolved, hthere⟩ := projectRoot_ok_iff.1 h
  obtain ⟨-, rfl⟩ := resolvePath_eq_ok_iff.1 hresolved
  exact ⟨rfl, hthere⟩

theorem unexplained_settings_iff {f : SettingsFault} : (RoundFault.settings f).IsUnexplained ↔ f.isSetup = false :=
  and_iff_left rfl

/-- The settings of a project are had, or explained to be at fault, unless they are unusable or the output that is asked
for cannot be looked for. -/
theorem requestedSettings_escapes_iff {output : Option Path} (hroot : projectRoot tree current text = .ok root) :
    FailsWith RoundFault.IsUnexplained (requestedSettings tree current root output) ↔
      Settings.Unusable tree current root ∨ ∃ loaded directory, Settings.load tree current root = .ok loaded ∧
        output = some directory ∧ directory.hasNull = true := by
  obtain ⟨habsolute, place, hlocate⟩ := exists_of_projectRoot hroot
  rw [requestedSettings, failsWith_bind_iff, failsWith_mapError_iff]
  simp only [unexplained_settings_iff, load_escapes_iff habsolute hlocate, mapError_eq_ok_iff]
  refine or_congr_right (exists_congr fun loaded => ?_)
  cases output with
  | none => simp [not_failsWith_ok]
  | some directory =>
    have hunexplained : RoundFault.IsUnexplained (.unresolved ⟨.nullCharacter, directory⟩) := ⟨rfl, rfl⟩
    simp [failsWith_bind_iff, failsWith_mapError_iff, resolvePath_fails_iff, not_failsWith_ok, hunexplained]

/-! ### Source roots -/

/-- Whether a source root stops a round without being missing: it cannot be looked for, or it is a directory with an ignore
file that is illegible or with settings that are unusable. -/
def Unscannable (tree : Entry) (current : List String) (text : String) : Prop :=
  (Path.ofText text).hasNull = true ∨ TooLong tree ((Path.ofText text).resolved current) ∨
    tree.hasDirectory ((Path.ofText text).resolved current) = .ok true ∧
      (Illegible tree (((Path.ofText text).resolved current).child ignoreFileName) ∨
        Settings.Unusable tree [] (((Path.ofText text).resolved current).child settingsFileName))

theorem isSetup_of_isOwn {f : SettingsFault} (h : f.isOwn = true) : f.isSetup = true := by
  cases f <;> first | exact h | cases h

section Rules

variable (hdirectory : tree.hasDirectory root = .ok true)

include hdirectory

theorem exists_located_inside (name : String) (hstep : Path.IsStep name) (hnull : '\x00' ∉ name.toList)
    (hfits : name.utf8ByteSize ≤ maxNameLength) : ∃ found, tree.locate (root.child name) = .ok found := by
  obtain ⟨here, hlocate, hnode⟩ := found_of_hasDirectory hdirectory
  obtain ⟨hparts, hfrom⟩ := locate_eq_ok_iff.1 hlocate
  rw [hasNull_eq_false_iff] at hparts
  have hleads : tree.Leads root.parts here := ⟨hfrom, hnode⟩
  obtain ⟨found, hfound⟩ := exists_step tree here hfits
  rw [Path.child_of_isStep hstep]
  refine ⟨found, locate_eq_ok_iff.2 ⟨hasNull_eq_false_iff.2 ?_, hleads.concat name ▸ hfound⟩⟩
  exact List.forall_mem_append.2 ⟨hparts, by simpa using hnull⟩

/-- The ignore file of a directory is read, or it is illegible. -/
theorem ignoreFileRules_cases : (∃ rules, ignoreFileRules tree root = .ok rules) ∧
    ¬Illegible tree (root.child ignoreFileName) ∨
      FailsWith (fun f => f.isSetup = false) (ignoreFileRules tree root) ∧ Illegible tree (root.child ignoreFileName) := by
  obtain ⟨found, hfound⟩ := exists_located_inside hdirectory ignoreFileName (by decide) (by decide) (by decide)
  obtain ⟨there, hthere⟩ := exists_hasEntry_of_not_tooLong (not_tooLong_of_ok hfound)
  rw [ignoreFileRules]
  simp only [hthere]
  cases there with
  | false =>
    refine .inl ⟨⟨[], rfl⟩, fun h => ?_⟩
    rw [exists_of_illegible h] at hthere
    cases hthere
  | true =>
    obtain ⟨⟨text, htext⟩, hlegible⟩ | ⟨⟨f, hf, hmisplaced⟩, hillegible⟩ := readText_cases hthere
    · exact .inl ⟨⟨_, by rw [htext]⟩, hlegible⟩
    · exact .inr ⟨⟨.ignoreFile f, by rw [hf], hmisplaced⟩, hillegible⟩

theorem settingsRules_escapes_iff (habsolute : root.isAbsolute = true) :
    FailsWith (fun f => f.isSetup = false) (settingsRules tree root) ↔
      Settings.Unusable tree [] (root.child settingsFileName) := by
  obtain ⟨found, hfound⟩ :=
    exists_located_inside hdirectory settingsFileName (by decide) (by decide) (by decide)
  have habsolute' : (root.child settingsFileName).isAbsolute = true := by
    rw [Path.child_of_isStep (by decide)]
    exact habsolute
  rw [← load_escapes_iff habsolute' hfound, settingsRules]
  cases Settings.load tree [] (root.child settingsFileName) with
  | ok s => exact iff_of_false not_failsWith_ok not_failsWith_ok
  | error f =>
    rw [failsWith_error]
    dsimp only
    split_ifs with hown
    · exact iff_of_false not_failsWith_ok (by simp [isSetup_of_isOwn hown])
    · exact failsWith_error

end Rules

theorem scanRules_escapes_iff (habsolute : root.isAbsolute = true) (hdirectory : tree.hasDirectory root = .ok true) :
    FailsWith (fun f => f.isSetup = false) (scanRules tree root excludes) ↔
      Illegible tree (root.child ignoreFileName) ∨ Settings.Unusable tree [] (root.child settingsFileName) := by
  rw [scanRules, failsWith_bind_iff]
  obtain ⟨⟨rules, hrules⟩, hlegible⟩ | ⟨hfails, hillegible⟩ := ignoreFileRules_cases hdirectory
  · simp [hrules, hlegible, not_failsWith_ok, failsWith_bind_iff, settingsRules_escapes_iff hdirectory habsolute]
  · simp [hfails, hillegible]

/-- A source root is scanned, or explained to be missing, unless it is unscannable. -/
theorem scan_escapes_iff :
    FailsWith (fun f => f.isSetup = false) (scan tree current excludes text) ↔ Unscannable tree current text := by
  rw [scan, Unscannable]
  cases hnull : (Path.ofText text).hasNull with
  | true =>
    rw [resolvePath, hnull]
    simp [failsWith_error, ScanFault.isSetup, FileFault.isMisplaced]
  | false =>
    rw [show resolvePath current (Path.ofText text) = .ok _ from resolvePath_eq_ok_iff.2 ⟨hnull, rfl⟩]
    generalize hroot : (Path.ofText text).resolved current = root
    have habsolute : root.isAbsolute = true := hroot ▸ rfl
    dsimp only
    cases hentry : tree.hasEntry root with
    | error f =>
      obtain ⟨rfl, hlong⟩ := hasEntry_error_iff.1 hentry
      simp [failsWith_error, hlong, ScanFault.isSetup, FileFault.isMisplaced]
    | ok there =>
      have hlong : ¬TooLong tree root := fun hlong => by
        rw [hasEntry_error_iff.2 ⟨rfl, hlong⟩] at hentry
        cases hentry
      cases hdirectory : tree.hasDirectory root with
      | error f => exact absurd (hasDirectory_error_iff.1 hdirectory).2 hlong
      | ok isDirectory =>
        cases isDirectory with
        | false => cases there <;> simp [failsWith_error, hlong, ScanFault.isSetup]
        | true =>
          obtain ⟨here, hlocate, -⟩ := found_of_hasDirectory hdirectory
          obtain rfl : there = true := by
            have := hentry.symm.trans (hasEntry_eq_true_iff.2 ⟨here, hlocate⟩)
            cases this
            rfl
          simp [failsWith_bind_iff, scanRules_escapes_iff habsolute hdirectory, hlong, not_failsWith_ok]

private theorem unexplained_of_readFile {f : SourceFile} {fault : RoundFault}
    (h : (readFile tree root f).result = .error fault) : fault.IsUnexplained := by
  rw [readFile] at h
  split at h
  · cases h
    exact ⟨rfl, rfl⟩
  · cases h
  · rename_i text _
    change (Trace.andThen _ _).result = _ at h
    rw [Trace.andThen, Trace.lift] at h
    cases hread : readSource text ⟨f.path, f.module⟩ with
    | error other =>
      rw [hread] at h
      cases h
      exact ⟨rfl, rfl⟩
    | ok read =>
      rw [hread] at h
      cases h

theorem readFile_escapes_iff {f : SourceFile} : (readFile tree root f).Escapes ↔ Stops tree root f := by
  obtain ⟨hstops, fault, hfault⟩ | ⟨hgoes, -, ⟨ds, hds⟩, -⟩ | ⟨hgoes, -, hnone, -⟩ := readFile_cases tree root f
  · exact iff_of_true ⟨fault, hfault, unexplained_of_readFile hfault⟩ hstops
  · exact iff_of_false (Trace.not_escapes_of_ok hds) hgoes
  · exact iff_of_false (Trace.not_escapes_of_ok hnone) hgoes

theorem readManifest_escapes_iff :
    (readManifest tree manifest).Escapes ↔ ∃ f ∈ manifest.files, Stops tree manifest.root f := by
  simp only [← readFile_escapes_iff]
  rw [readManifest, Trace.escapes_bind_iff, Trace.escapes_forEach_iff_exists]
  · refine or_iff_left ?_
    rintro ⟨parts, -, h⟩
    exact Trace.not_escapes_of_ok (a := parts.flatten) rfl h
  · intro f _
    rw [readFile_escapes_iff]
    obtain ⟨hstops, -⟩ | ⟨-, -, hds, -⟩ | ⟨-, -, hnone, -⟩ := readFile_cases tree manifest.root f
    · exact .inr hstops
    · exact .inl hds
    · exact .inl ⟨[], hnone⟩

/-- Whether the reading of a source root ends without an explanation: the output cannot be looked for, the root is
unscannable, or a file that is found in it stops the reading. -/
def Unreadable (tree : Entry) (current : List String) (settings : Settings) (sourceRoot : Path) : Prop :=
  settings.directory.hasNull = true ∨ Unscannable tree current sourceRoot.text ∨
    ∃ manifest, sourceManifest tree current settings sourceRoot = .ok manifest ∧
      ∃ f ∈ manifest.files, Stops tree manifest.root f

/-- The patterns that a scan leaves out are had unless the output cannot be looked for. -/
private theorem scanExcludes_cases (settings : Settings) (sourceRoot : Path) :
    settings.directory.hasNull = true ∧
        FailsWith (fun f => RoundFault.IsUnexplained (.unresolved f)) (scanExcludes settings sourceRoot) ∨
      settings.directory.hasNull = false ∧ ∃ excludes, scanExcludes settings sourceRoot = .ok excludes := by
  rw [scanExcludes]
  cases hnull : settings.directory.hasNull with
  | true =>
    refine .inl ⟨rfl, failsWith_bind_iff.2 (.inl (resolvePath_fails_iff.2 ⟨hnull, rfl, rfl⟩))⟩
  | false =>
    rw [show resolvePath [] settings.directory = .ok _ from resolvePath_eq_ok_iff.2 ⟨hnull, rfl⟩]
    cases hroot : resolvePath [] sourceRoot with
    | error f => exact .inr ⟨rfl, _, rfl⟩
    | ok root => exact .inr ⟨rfl, _, rfl⟩

/-- The declarations of a source root are read, or explained to be missing, unless it is unreadable. -/
theorem readSourceRoot_escapes_iff :
    (readSourceRoot tree current settings sourceRoot).Escapes ↔ Unreadable tree current settings sourceRoot := by
  have hscan : ∀ {f : ScanFault}, RoundFault.IsUnexplained (.scan f) ↔ f.isSetup = false := and_iff_left rfl
  rw [readSourceRoot_eq, Unreadable, Trace.escapes_bind_iff, Trace.escapes_lift_iff]
  obtain ⟨hnull, hfails⟩ | ⟨hnull, excludes, hexcludes⟩ := scanExcludes_cases settings sourceRoot
  · exact iff_of_true (.inl hfails) (.inl hnull)
  · simp only [sourceManifest_eq_ok_iff, hexcludes, hnull, not_failsWith_ok, Trace.lift_ok_iff, Except.ok.injEq,
      exists_eq_left', false_or, Bool.false_eq_true]
    rw [Trace.escapes_bind_iff, Trace.escapes_lift_iff]
    simp only [hscan, scan_escapes_iff, Trace.lift_ok_iff, Trace.escapes_log_bind_iff, readManifest_escapes_iff]
    refine or_congr_right ?_
    constructor
    · rintro ⟨⟨manifest, records⟩, hscanned, hstops⟩
      exact ⟨manifest, ⟨excludes, records, rfl, hscanned⟩, hstops⟩
    · rintro ⟨manifest, ⟨_, records, rfl, hscanned⟩, hstops⟩
      exact ⟨(manifest, records), hscanned, hstops⟩

end NavFactory
