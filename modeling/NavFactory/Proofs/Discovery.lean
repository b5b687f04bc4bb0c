import NavFactory.Processor
import NavFactory.Proofs.Sorting

/-!
# Discovery of processors

Entry points whose names are not enabled do not matter to a discovery, unless it comes upon one of them that cannot be
loaded (`StopsOutside`): each entry point is loaded before its name is looked at.  What is discovered has different
names, the built-in processors among them in front and none of them replaced (`Registers`).
-/

namespace NavFactory

variable {enabledNames enabled seen seen' : List String} {entryPoints entryPoints' : List EntryPoint} {e : EntryPoint}
  {found : List Processor} {processors : List Processor} {f : DiscoveryFault}

/-- The name that an entry point is registered by. -/
def EntryPoint.key (e : EntryPoint) : String := Text.lower e.name

/-- Whether names that are enabled have a name in lower case among them; if there are none, all are enabled. -/
def enables (enabledNames : List String) (key : String) : Bool := isEnabled (dedupe (enabledNames.map Text.lower)) key

/-- The built-in processors that are enabled, by name. -/
def enabledBuiltins (enabledNames : List String) : List (String × Processor) :=
  builtinProcessors.filter fun (name, _) => enables enabledNames name

/-- Whether a discovery ends because an entry point that is not enabled cannot be loaded. -/
def StopsOutside (enabledNames : List String) (entryPoints : List EntryPoint) : Prop :=
  ∃ e ∈ entryPoints, ∃ message, enables enabledNames e.key = false ∧ e.object = .failed message ∧
    discover enabledNames entryPoints = .error (.loadFailed e.name message)

/-! ### Entry points one after the other -/

/-- An entry point that is to be added, since its name is enabled and new. -/
private theorem discoverFrom_new (hkey : isEnabled enabled e.key = true) (hnew : e.key ∉ seen) (rest : List EntryPoint) :
    discoverFrom enabled seen (e :: rest) = match e.object with
      | .failed message => .error (.loadFailed e.name message)
      | .foreign => .error .notAProcessor
      | .processor p => (discoverFrom enabled (e.key :: seen) rest).map fun found => (.plugin p :: found.1, found.2) := by
  rw [EntryPoint.key] at *
  rw [discoverFrom]
  simp only [hkey, Bool.true_and, List.contains_eq_mem, hnew, decide_false, Bool.not_false, if_true]
  cases e.object with
  | failed message => rfl
  | foreign => rfl
  | processor p => cases discoverFrom enabled (Text.lower e.name :: seen) rest <;> rfl

/-- An entry point that is passed over once it is loaded. -/
private theorem discoverFrom_old (hkey : isEnabled enabled e.key = true → e.key ∈ seen) (rest : List EntryPoint) :
    discoverFrom enabled seen (e :: rest) = match e.object with
      | .failed message => .error (.loadFailed e.name message)
      | _ => discoverFrom enabled seen rest := by
  rw [EntryPoint.key] at *
  have hpassed : (isEnabled enabled (Text.lower e.name) && !seen.contains (Text.lower e.name)) = false := by
    cases henabled : isEnabled enabled (Text.lower e.name) with
    | false => rfl
    | true => simpa using hkey henabled
  rw [discoverFrom]
  simp only [hpassed]
  cases e.object <;> rfl

/-- The entry points that are not enabled do not matter, unless one of them is come upon that cannot be loaded. -/
private theorem discoverFrom_filter (enabled seen : List String) (entryPoints : List EntryPoint) :
    discoverFrom enabled seen entryPoints = discoverFrom enabled seen (entryPoints.filter (isEnabled enabled ·.key)) ∨
      ∃ e ∈ entryPoints, ∃ message, isEnabled enabled e.key = false ∧ e.object = .failed message ∧
        discoverFrom enabled seen entryPoints = .error (.loadFailed e.name message) := by
  induction entryPoints generalizing seen with
  | nil => exact .inl rfl
  | cons e rest ih =>
    by_cases hkey : isEnabled enabled e.key = true
    · rw [List.filter_cons, if_pos hkey]
      by_cases hseen : e.key ∈ seen
      · rw [discoverFrom_old fun _ => hseen, discoverFrom_old fun _ => hseen]
        cases e.object with
        | failed message => exact .inl rfl
        | foreign | processor p =>
          exact (ih seen).imp_right fun ⟨d, hd, hstops⟩ => ⟨d, List.mem_cons_of_mem _ hd, hstops⟩
      · rw [discoverFrom_new hkey hseen, discoverFrom_new hkey hseen]
        cases e.object with
        | failed message => exact .inl rfl
        | foreign => exact .inl rfl
        | processor p =>
          obtain hsame | ⟨d, hd, message, houtside, hobject, herror⟩ := ih (e.key :: seen)
          · exact .inl (by rw [hsame])
          · exact .inr ⟨d, List.mem_cons_of_mem _ hd, message, houtside, hobject, by rw [herror]; rfl⟩
    · rw [List.filter_cons, if_neg hkey, discoverFrom_old fun h => absurd h hkey]
      cases hobject : e.object with
      | failed message => exact .inr ⟨e, List.mem_cons_self, message, (Bool.not_eq_true _).mp hkey, hobject, rfl⟩
      | foreign | processor p =>
        exact (ih seen).imp_right fun ⟨d, hd, hstops⟩ => ⟨d, List.mem_cons_of_mem _ hd, hstops⟩

/-- Whether one of several entry points is the reason for a fault: it cannot be loaded, or it is enabled and gives no
processor. -/
private def Obstructs (enabled : List String) (entryPoints : List EntryPoint) (f : DiscoveryFault) : Prop :=
  (∃ e ∈ entryPoints, ∃ message, e.object = .failed message ∧ f = .loadFailed e.name message) ∨
    f = .notAProcessor ∧ ∃ e ∈ entryPoints, isEnabled enabled e.key = true ∧ e.object = .foreign

private theorem Obstructs.cons (h : Obstructs enabled entryPoints f) (e : EntryPoint) :
    Obstructs enabled (e :: entryPoints) f :=
  h.imp (fun ⟨d, hd, hfailed⟩ => ⟨d, List.mem_cons_of_mem _ hd, hfailed⟩)
    fun ⟨hf, d, hd, hforeign⟩ => ⟨hf, d, List.mem_cons_of_mem _ hd, hforeign⟩

/-- Entry points fail to be discovered because of one of them. -/
private theorem obstructs_of_error (h : discoverFrom enabled seen entryPoints = .error f) :
    Obstructs enabled entryPoints f := by
  induction entryPoints generalizing seen with
  | nil => cases h
  | cons e rest ih =>
    by_cases hnew : isEnabled enabled e.key = true ∧ e.key ∉ seen
    · rw [discoverFrom_new hnew.1 hnew.2] at h
      cases hobject : e.object with
      | failed message =>
        rw [hobject] at h
        exact .inl ⟨e, List.mem_cons_self, message, hobject, (Except.error.inj h).symm⟩
      | foreign =>
        rw [hobject] at h
        exact .inr ⟨(Except.error.inj h).symm, e, List.mem_cons_self, hnew.1, hobject⟩
      | processor p =>
        rw [hobject] at h
        cases hrest : discoverFrom enabled (e.key :: seen) rest with
        | error f' =>
          rw [hrest] at h
          obtain rfl := Except.error.inj h
          exact (ih hrest).cons e
        | ok found =>
          rw [hrest] at h
          cases h
    · rw [discoverFrom_old fun hkey => by_contra fun hseen => hnew ⟨hkey, hseen⟩] at h
      cases hobject : e.object with
      | failed message =>
        rw [hobject] at h
        exact .inl ⟨e, List.mem_cons_self, message, hobject, (Except.error.inj h).symm⟩
      | foreign | processor p =>
        rw [hobject] at h
        exact (ih h).cons e

/-- Entry points that have been discovered: each with the processor that it gives. -/
abbrev Chosen := List (EntryPoint × Plugin)

/-- Discovered entry points give their processors in their order; each is the first one of an enabled name that was not
seen before, and every enabled name is seen afterwards. -/
private theorem discoverFrom_ok (h : discoverFrom enabled seen entryPoints = .ok (found, seen')) :
    ∃ chosen : Chosen, found = chosen.map (.plugin ·.2) ∧ (chosen.map (·.1)).Sublist entryPoints ∧
      (chosen.map (·.1.key)).Nodup ∧ (∀ key, key ∈ seen' ↔ key ∈ seen ∨ key ∈ chosen.map (·.1.key)) ∧
      (∀ c ∈ chosen, c.1.object = .processor c.2 ∧ isEnabled enabled c.1.key = true ∧ c.1.key ∉ seen ∧
        entryPoints.find? (·.key = c.1.key) = some c.1) ∧
      ∀ e ∈ entryPoints, isEnabled enabled e.key = true → e.key ∈ seen' := by
  induction entryPoints generalizing seen found with
  | nil =>
    obtain ⟨rfl, rfl⟩ := Prod.mk.inj (Except.ok.inj h)
    exact ⟨[], by simp⟩
  | cons e rest ih =>
    by_cases hnew : isEnabled enabled e.key = true ∧ e.key ∉ seen
    · obtain ⟨hkey, hseen⟩ := hnew
      rw [discoverFrom_new hkey hseen] at h
      obtain ⟨p, more, hobject, hrest, rfl⟩ : ∃ p more, e.object = .processor p ∧
          discoverFrom enabled (e.key :: seen) rest = .ok (more, seen') ∧ found = .plugin p :: more := by
        cases hobject : e.object with
        | failed message | foreign =>
          rw [hobject] at h
          cases h
        | processor p =>
          rw [hobject] at h
          cases hrest : discoverFrom enabled (e.key :: seen) rest with
          | error f =>
            rw [hrest] at h
            cases h
          | ok result =>
            rw [hrest] at h
            obtain ⟨rfl, rfl⟩ := Prod.mk.inj (Except.ok.inj h)
            exact ⟨p, _, rfl, rfl, rfl⟩
      obtain ⟨chosen, rfl, hsublist, hnd, hseen', hchosen, hall⟩ := ih hrest
      have hfresh : ∀ c ∈ chosen, c.1.key ≠ e.key ∧ c.1.key ∉ seen := fun c hc => by
        simpa using (hchosen c hc).2.2.1
      refine ⟨(e, p) :: chosen, rfl, hsublist.cons_cons e, ?_, fun key => ?_, ?_, fun d hd hkey => ?_⟩
      · refine List.nodup_cons.2 ⟨fun hmem => ?_, hnd⟩
        obtain ⟨c, hc, heq⟩ := List.mem_map.1 hmem
        exact (hfresh c hc).1 heq
      · rw [hseen', List.map_cons, List.mem_cons, List.mem_cons, or_assoc, or_left_comm]
      · refine List.forall_mem_cons.2 ⟨⟨hobject, hkey, hseen, by simp⟩, fun c hc => ?_⟩
        obtain ⟨hobject, hkey, -, hfirst⟩ := hchosen c hc
        obtain ⟨hne, hnew⟩ := hfresh c hc
        exact ⟨hobject, hkey, hnew, by rw [List.find?_cons_of_neg (by simpa using hne.symm), hfirst]⟩
      · rcases List.mem_cons.1 hd with rfl | hd
        · exact (hseen' _).2 (.inl List.mem_cons_self)
        · exact hall d hd hkey
    · have hold : isEnabled enabled e.key = true → e.key ∈ seen := fun hkey =>
        by_contra fun hseen => hnew ⟨hkey, hseen⟩
      rw [discoverFrom_old hold] at h
      have hrest : discoverFrom enabled seen rest = .ok (found, seen') := by
        cases hobject : e.object with
        | failed message =>
          rw [hobject] at h
          cases h
        | foreign | processor p =>
          rw [hobject] at h
          exact h
      obtain ⟨chosen, hfound, hsublist, hnd, hseen', hchosen, hall⟩ := ih hrest
      refine ⟨chosen, hfound, hsublist.cons e, hnd, hseen', fun c hc => ?_, fun d hd hkey => ?_⟩
      · obtain ⟨hobject, hkey, hfresh, hfirst⟩ := hchosen c hc
        refine ⟨hobject, hkey, hfresh, ?_⟩
        -- the entry point that is passed over has another name, since its own was seen or is not enabled
        have hne : e.key ≠ c.1.key := fun heq => hfresh (heq ▸ hold (heq ▸ hkey))
        rw [List.find?_cons_of_neg (by simpa using hne), hfirst]
      · rcases List.mem_cons.1 hd with rfl | hd
        · exact (hseen' _).2 (.inl (hold hkey))
        · exact hall d hd hkey

/-! ### Processors -/

/-- Whether processors are those of the enabled built-in names, and then those of chosen entry points: of each other
enabled name the first entry point, in the order of the entry points.  All of these names are different. -/
structure Registers (enabledNames : List String) (entryPoints : List EntryPoint) (processors : List Processor)
    (chosen : Chosen) : Prop where
  processors_eq : processors = (enabledBuiltins enabledNames).map (·.2) ++ chosen.map (.plugin ·.2)
  nodup : ((enabledBuiltins enabledNames).map (·.1) ++ chosen.map (·.1.key)).Nodup
  sublist : (chosen.map (·.1)).Sublist entryPoints
  first : ∀ c ∈ chosen, c.1.object = .processor c.2 ∧ enables enabledNames c.1.key = true ∧
    entryPoints.find? (·.key = c.1.key) = some c.1
  all : ∀ e ∈ entryPoints, enables enabledNames e.key = true →
    e.key ∈ (enabledBuiltins enabledNames).map (·.1) ∨ e.key ∈ chosen.map (·.1.key)

/-- The names that are enabled and of which there is no processor. -/
def missingNames (enabledNames seen : List String) : List String :=
  sortTexts ((dedupe (enabledNames.map Text.lower)).filter fun key => !seen.contains key)

/-- A discovery comes to the names that are missing once all entry points are discovered. -/
private theorem discover_eq (enabledNames : List String) (entryPoints : List EntryPoint) :
    discover enabledNames entryPoints =
      (discoverFrom (dedupe (enabledNames.map Text.lower)) ((enabledBuiltins enabledNames).map (·.1)) entryPoints).bind
        fun (found, seen) =>
          if (", ".intercalate (missingNames enabledNames seen)).isEmpty then
            .ok ((enabledBuiltins enabledNames).map (·.2) ++ found)
          else .error (.unknown (missingNames enabledNames seen)) := rfl

/-- Texts that are all different spell nothing, joined by commas, only if none of them has a character. -/
private theorem intercalate_ne_empty_iff {names : List String} (hnd : names.Nodup) :
    ", ".intercalate names ≠ "" ↔ ∃ name ∈ names, name ≠ "" := by
  match names with
  | [] => simp
  | [name] => simp
  | first :: second :: rest =>
    refine iff_of_true (by simp [String.append_eq_empty_iff]) ?_
    by_cases hfirst : first = ""
    · refine ⟨second, by simp, ?_⟩
      rintro rfl
      exact (List.nodup_cons.1 hnd).1 (by simp [hfirst])
    · exact ⟨first, by simp, hfirst⟩

theorem enables_lower {name : String} (h : name ∈ enabledNames) : enables enabledNames (Text.lower name) = true := by
  have hmem : Text.lower name ∈ dedupe (enabledNames.map Text.lower) := mem_dedupe.2 (List.mem_map_of_mem h)
  simp [enables, isEnabled, hmem]

/-- Missing names are complained about unless the only one is empty. -/
theorem isEmpty_missingNames_iff : (", ".intercalate (missingNames enabledNames seen)).isEmpty = false ↔
    ∃ name ∈ enabledNames, Text.lower name ≠ "" ∧ Text.lower name ∉ seen := by
  have hnd : (missingNames enabledNames seen).Nodup := (perm_sortBy _ _).nodup_iff.2 ((nodup_dedupe _).filter _)
  rw [← Bool.not_eq_true, String.isEmpty_iff, ← ne_eq, intercalate_ne_empty_iff hnd]
  simp only [missingNames, sortTexts, mem_sortBy, List.mem_filter, mem_dedupe, List.mem_map, Bool.not_eq_true',
    List.contains_eq_mem, decide_eq_false_iff_not]
  constructor
  · rintro ⟨_, ⟨⟨name, hname, rfl⟩, hmissing⟩, hne⟩
    exact ⟨name, hname, hne, hmissing⟩
  · rintro ⟨name, hname, hne, hmissing⟩
    exact ⟨_, ⟨⟨name, hname, rfl⟩, hmissing⟩, hne⟩

/-- Only the entry points that are enabled matter, unless another one cannot be loaded. -/
private theorem discover_filter (enabledNames : List String) (entryPoints : List EntryPoint) :
    discover enabledNames entryPoints = discover enabledNames (entryPoints.filter (enables enabledNames ·.key)) ∨
      StopsOutside enabledNames entryPoints := by
  rw [StopsOutside, discover_eq, discover_eq]
  refine (discoverFrom_filter (dedupe (enabledNames.map Text.lower)) ((enabledBuiltins enabledNames).map (·.1))
    entryPoints).imp (fun hsame => by rw [hsame]; rfl) ?_
  rintro ⟨e, he, message, hkey, hobject, herror⟩
  exact ⟨e, he, message, hkey, hobject, by rw [herror]; rfl⟩

/-- A discovery that stops at an entry point that is not enabled has another outcome than one that does not. -/
private theorem discover_ne (h : StopsOutside enabledNames entryPoints) (h' : ¬StopsOutside enabledNames entryPoints') :
    discover enabledNames entryPoints ≠ discover enabledNames entryPoints' := by
  obtain ⟨e, he, message, hkey, hobject, herror⟩ := h
  intro hsame
  rw [hsame] at herror
  -- the other discovery stops at an entry point of the same name, which is not enabled either
  refine h' ?_
  have hstop := herror
  rw [discover_eq] at hstop
  cases hfrom : discoverFrom (dedupe (enabledNames.map Text.lower)) ((enabledBuiltins enabledNames).map (·.1)) entryPoints' with
  | ok result =>
    rw [hfrom] at hstop
    simp only [Except.bind] at hstop
    split_ifs at hstop
    cases hstop
  | error f =>
    rw [hfrom] at hstop
    obtain rfl : f = .loadFailed e.name message := Except.error.inj hstop
    obtain ⟨d, hd, message', hobject', heq⟩ | ⟨heq, -⟩ := obstructs_of_error hfrom
    · obtain ⟨hname, rfl⟩ := DiscoveryFault.loadFailed.inj heq
      have hkey' : enables enabledNames d.key = false := by rw [EntryPoint.key, ← hname, ← EntryPoint.key, hkey]
      exact ⟨d, hd, message, hkey', hobject', by rw [herror, hname]⟩
    · cases heq

/-- What is discovered is registered. -/
private theorem registers_of_ok (h : discover enabledNames entryPoints = .ok processors) :
    ∃ chosen, Registers enabledNames entryPoints processors chosen := by
  rw [discover_eq] at h
  cases hfrom : discoverFrom (dedupe (enabledNames.map Text.lower)) ((enabledBuiltins enabledNames).map (·.1)) entryPoints with
  | error f =>
    rw [hfrom] at h
    cases h
  | ok result =>
    obtain ⟨found, seen⟩ := result
    rw [hfrom] at h
    simp only [Except.bind] at h
    split_ifs at h
    obtain ⟨chosen, rfl, hsublist, hnd, hseen, hchosen, hall⟩ := discoverFrom_ok hfrom
    have hbuiltins : ((enabledBuiltins enabledNames).map (·.1)).Nodup := by
      have hnames : (builtinProcessors.map (·.1)).Nodup := by decide
      exact hnames.sublist (List.filter_sublist.map _)
    refine ⟨chosen, (Except.ok.inj h).symm, ?_, hsublist, fun c hc => ?_, fun e he hkey => (hseen _).1 (hall e he hkey)⟩
    · refine hbuiltins.append hnd fun key hkey hkey' => ?_
      obtain ⟨c, hc, rfl⟩ := List.mem_map.1 hkey'
      exact (hchosen c hc).2.2.1 hkey
    · obtain ⟨hobject, hkey, -, hfirst⟩ := hchosen c hc
      exact ⟨hobject, hkey, hfirst⟩

/-- Entry points that give processors where they are enabled are all discovered, unless another one cannot be loaded. -/
private theorem discoverFrom_all (hstops : ¬StopsOutside enabledNames entryPoints)
    (hall : ∀ e ∈ entryPoints, enables enabledNames e.key = true → ∃ p, e.object = .processor p) :
    ∃ found seen, discoverFrom (dedupe (enabledNames.map Text.lower)) ((enabledBuiltins enabledNames).map (·.1))
      entryPoints = .ok (found, seen) := by
  cases hfrom : discoverFrom (dedupe (enabledNames.map Text.lower)) ((enabledBuiltins enabledNames).map (·.1)) entryPoints with
  | ok result => exact ⟨result.1, result.2, rfl⟩
  | error f =>
    exfalso
    obtain ⟨e, he, message, hobject, rfl⟩ | ⟨-, e, he, hkey, hobject⟩ := obstructs_of_error hfrom
    · cases hkey : enables enabledNames e.key with
      | true =>
        obtain ⟨p, hp⟩ := hall e he hkey
        cases hobject.symm.trans hp
      | false => exact hstops ⟨e, he, message, hkey, hobject, by rw [discover_eq, hfrom]; rfl⟩
    · obtain ⟨p, hp⟩ := hall e he hkey
      cases hobject.symm.trans hp

/-- A name that is enabled is missing exactly if it is neither built in nor that of an entry point. -/
theorem exists_unknown_iff (hstops : ¬StopsOutside enabledNames entryPoints)
    (hall : ∀ e ∈ entryPoints, enables enabledNames e.key = true → ∃ p, e.object = .processor p) :
    (∃ missing, discover enabledNames entryPoints = .error (.unknown missing)) ↔
      ∃ name ∈ enabledNames, Text.lower name ≠ "" ∧ Text.lower name ∉ builtinProcessors.map (·.1) ∧
        ∀ e ∈ entryPoints, e.key ≠ Text.lower name := by
  obtain ⟨found, seen, hfrom⟩ := discoverFrom_all hstops hall
  obtain ⟨chosen, -, hsublist, -, hseen, -, hcomplete⟩ := discoverFrom_ok hfrom
  have hmissing : ∀ name ∈ enabledNames, Text.lower name ∉ seen ↔
      Text.lower name ∉ builtinProcessors.map (·.1) ∧ ∀ e ∈ entryPoints, e.key ≠ Text.lower name := by
    intro name hname
    have henabled := enables_lower hname
    rw [← not_iff_not, not_not, not_and_or, not_not]
    push Not
    constructor
    · intro h
      obtain h | h := (hseen _).1 h
      · exact .inl (List.map_subset _ (List.filter_subset_self _) h)
      · obtain ⟨c, hc, hkey⟩ := List.mem_map.1 h
        exact .inr ⟨c.1, hsublist.subset (List.mem_map_of_mem hc), hkey⟩
    · rintro (h | ⟨e, he, hkey⟩)
      · obtain ⟨⟨_, processor⟩, hentry, rfl⟩ := List.mem_map.1 h
        exact (hseen _).2 (.inl (List.mem_map_of_mem (List.mem_filter.2 ⟨hentry, henabled⟩)))
      · rw [← hkey] at henabled ⊢
        exact hcomplete e he henabled
  have hunknown : (∃ missing, discover enabledNames entryPoints = .error (.unknown missing)) ↔
      (", ".intercalate (missingNames enabledNames seen)).isEmpty = false := by
    rw [discover_eq, hfrom]
    simp only [Except.bind]
    split_ifs with hempty
    · exact iff_of_false (by rintro ⟨_, ⟨⟩⟩) (by rw [hempty]; exact Bool.noConfusion)
    · exact iff_of_true ⟨_, rfl⟩ ((Bool.not_eq_true _).mp hempty)
  rw [hunknown, isEmpty_missingNames_iff]
  exact exists_congr fun name => and_congr_right fun hname => and_congr_right fun _ => hmissing name hname

/-- Lists that agree on the entry points that are enabled are discovered alike exactly if the one does not stop at another
entry point either that cannot be loaded.  What is discovered are the built-in processors and behind them those of entry
points, all of different names; and if entry points give processors where they are enabled, only a name with a character
in it that is neither built in nor that of an entry point is unknown. -/
theorem discover_eq_iff
    (hagree : entryPoints.filter (enables enabledNames ·.key) = entryPoints'.filter (enables enabledNames ·.key))
    (hother : ¬StopsOutside enabledNames entryPoints') :
    (discover enabledNames entryPoints = discover enabledNames entryPoints' ↔ ¬StopsOutside enabledNames entryPoints) ∧
    (∀ processors, discover enabledNames entryPoints = .ok processors →
      ∃ chosen, Registers enabledNames entryPoints processors chosen) ∧
    (¬StopsOutside enabledNames entryPoints →
      (∀ e ∈ entryPoints, enables enabledNames e.key = true → ∃ p, e.object = .processor p) →
      ((∃ missing, discover enabledNames entryPoints = .error (.unknown missing)) ↔
        ∃ name ∈ enabledNames, Text.lower name ≠ "" ∧ Text.lower name ∉ builtinProcessors.map (·.1) ∧
          ∀ e ∈ entryPoints, e.key ≠ Text.lower name)) := by
  refine ⟨⟨fun hsame hstops => discover_ne hstops hother hsame, fun hstops => ?_⟩, fun _ => registers_of_ok,
    exists_unknown_iff⟩
  rw [(discover_filter enabledNames entryPoints).resolve_right hstops, hagree,
    ← (discover_filter enabledNames entryPoints').resolve_right hother]

/-- The plug-in of a project. -/
def routesPlugin : Plugin := ⟨"routes", "route", "routes", ""⟩

/-- Entry points of which one has a name that is enabled twice in other cases. -/
def routesEntryPoints : List EntryPoint :=
  [⟨"drafts", .foreign⟩, ⟨"ROUTES", .processor routesPlugin⟩, ⟨"Routes", .foreign⟩]

theorem discover_eq_iff_routes :
    (routesEntryPoints.filter (enables ["Activity", "routes"] ·.key) =
        routesEntryPoints.tail.filter (enables ["Activity", "routes"] ·.key) ∧
      ¬StopsOutside ["Activity", "routes"] routesEntryPoints.tail) ∧
    discover ["Activity", "routes"] routesEntryPoints = .ok [.targets activityTargets, .plugin routesPlugin] ∧
    ¬StopsOutside ["Activity", "routes"] routesEntryPoints ∧
    ∃ chosen, Registers ["Activity", "routes"] routesEntryPoints [.targets activityTargets, .plugin routesPlugin] chosen := by
  have hagree : routesEntryPoints.filter (enables ["Activity", "routes"] ·.key) =
      routesEntryPoints.tail.filter (enables ["Activity", "routes"] ·.key) := by decide
  have hfound : discover ["Activity", "routes"] routesEntryPoints =
      .ok [.targets activityTargets, .plugin routesPlugin] := by decide
  have hother : discover ["Activity", "routes"] routesEntryPoints.tail =
      .ok [.targets activityTargets, .plugin routesPlugin] := by decide
  have hstops : ¬StopsOutside ["Activity", "routes"] routesEntryPoints.tail := by
    rintro ⟨e, -, message, -, -, herror⟩
    rw [hother] at herror
    cases herror
  obtain ⟨hsame, hregisters, -⟩ := discover_eq_iff hagree hstops
  exact ⟨⟨hagree, hstops⟩, hfound, hsame.1 (hfound.trans hother.symm), hregisters _ hfound⟩

/-- An entry point that is not enabled ends a discovery if it cannot be loaded, and an empty name that is enabled is not
unknown. -/
theorem exists_intrusion :
    (¬∀ (enabledNames : List String) (entryPoints entryPoints' : List EntryPoint), enabledNames ≠ [] →
      entryPoints.filter (enables enabledNames ·.key) = entryPoints'.filter (enables enabledNames ·.key) →
        discover enabledNames entryPoints = discover enabledNames entryPoints') ∧
    ¬∀ (enabledNames : List String) (entryPoints : List EntryPoint), enabledNames ≠ [] →
      (∀ e ∈ entryPoints, enables enabledNames e.key = true → ∃ p, e.object = .processor p) →
        ((∃ missing, discover enabledNames entryPoints = .error (.unknown missing)) ↔
          ∃ name ∈ enabledNames, Text.lower name ∉ builtinProcessors.map (·.1) ∧
            ∀ e ∈ entryPoints, e.key ≠ Text.lower name) := by
  constructor
  · intro h
    have hsame := h ["activity"] [⟨"routes", .failed "no module named plugin"⟩] [] (List.cons_ne_nil _ _) (by decide)
    exact absurd hsame (by decide)
  · intro h
    obtain ⟨missing, hmissing⟩ := (h [""] [] (List.cons_ne_nil _ _) (by simp)).2 ⟨"", by decide⟩
    rw [show discover [""] [] = .ok [] by decide] at hmissing
    cases hmissing

end NavFactory
