import NavFactory.Proofs.Stages

/-!
# Writing generated modules

Without templates the text of a generated module is that of its lines, and a round has a text for every container
exactly if their files have names of their own and the interpreter accepts each of the texts
(`renderSources_builtin_iff`).
-/

namespace NavFactory

variable {tree : Entry} {c : Container} {containers : List Container} {fileName text written : String}
  {done sources : Sources}

/-! ### Texts of lines -/

theorem toList_linesText (lines : List String) :
    (linesText lines).toList = lines.flatMap fun line => line.toList ++ ['\n'] := by
  rw [linesText]
  induction lines with
  | nil => rfl
  | cons line rest ih => simp [ih]

theorem toList_closeText (text : String) : (closeText text).toList = Text.trimRightChars text.toList ++ ['\n'] := by
  rw [closeText, Text.trimRight, String.toList_append, String.toList_ofList]
  rfl

/-- The built-in text of the module of a container. -/
def Container.moduleText (c : Container) : String := closeText (linesText (containerLines c))

/-- The built-in text of the package that exports containers. -/
def exportText (containers : List Container) : String := closeText (linesText (packageLines containers))

theorem toList_moduleText (c : Container) : c.moduleText.toList =
    Text.trimRightChars ((containerLines c).flatMap fun line => line.toList ++ ['\n']) ++ ['\n'] := by
  rw [Container.moduleText, toList_closeText, toList_linesText]

theorem toList_exportText (containers : List Container) : (exportText containers).toList =
    Text.trimRightChars ((packageLines containers).flatMap fun line => line.toList ++ ['\n']) ++ ['\n'] := by
  rw [exportText, toList_closeText, toList_linesText]

theorem checkedText_ok_iff :
    checkedText fileName text = .ok written ↔ written = closeText text ∧ Source.checkModule written = .ok () := by
  rw [checkedText]
  cases hcheck : Source.checkModule (closeText text) with
  | error f =>
    refine iff_of_false (by cases f <;> simp) ?_
    rintro ⟨rfl, hok⟩
    rw [hcheck] at hok
    cases hok
  | ok =>
    simp only [Except.ok.injEq]
    constructor
    · rintro rfl
      exact ⟨rfl, hcheck⟩
    · exact fun h => h.1.symm

theorem renderContainer_ok_iff :
    renderContainer {} c = .ok written ↔ written = c.moduleText ∧ Source.checkModule written = .ok () := by
  have htext : renderContainer {} c = checkedText c.fileName (linesText (containerLines c)) := by
    simp only [renderContainer, templateText, bind, Except.bind]
  rw [htext, checkedText_ok_iff, Container.moduleText]

theorem renderPackage_ok_iff :
    renderPackage {} containers = .ok written ↔ written = exportText containers ∧ Source.checkModule written = .ok () := by
  have htext : renderPackage {} containers = checkedText packageFileName (linesText (packageLines containers)) := by
    simp only [renderPackage, templateText, bind, Except.bind]
  rw [htext, checkedText_ok_iff, exportText]

/-! ### Texts of rounds -/

/-- The files of containers with their built-in texts. -/
def moduleSources (containers : List Container) : Sources := containers.map fun c => (c.fileName, c.moduleText)

private theorem isFresh_iff (hdone : (done.map (·.1) ++ [packageFileName]).Nodup) (text : String) :
    IsFresh done c ↔ ((done ++ [(c.fileName, text)]).map (·.1) ++ [packageFileName]).Nodup := by
  have hperm : ((done ++ [(c.fileName, text)]).map (·.1) ++ [packageFileName]).Perm
      (c.fileName :: (done.map (·.1) ++ [packageFileName])) := by
    rw [List.map_append, List.append_assoc]
    exact List.perm_middle
  rw [hperm.nodup_iff, List.nodup_cons, and_iff_left hdone, IsFresh, List.mem_append, List.mem_singleton, not_or]

private theorem renderContainers_ok_iff (hdone : (done.map (·.1) ++ [packageFileName]).Nodup) :
    renderContainers (.ok none) done containers = .ok sources ↔ sources = done ++ moduleSources containers ∧
      (sources.map (·.1) ++ [packageFileName]).Nodup ∧ ∀ c ∈ containers, Source.checkModule c.moduleText = .ok () := by
  induction containers generalizing done with
  | nil =>
    simp only [renderContainers, Except.ok.injEq, moduleSources, List.map_nil, List.append_nil, List.not_mem_nil,
      false_implies, implies_true, and_true]
    constructor
    · rintro rfl
      exact ⟨rfl, hdone⟩
    · exact fun h => h.1.symm
  | cons c rest ih =>
    have hsources : done ++ moduleSources (c :: rest) = done ++ [(c.fileName, c.moduleText)] ++ moduleSources rest := by
      simp [moduleSources]
    rw [renderContainers_cons, hsources, List.forall_mem_cons]
    split_ifs with hfresh
    · rw [bind_eq_ok_iff]
      simp only [Except.ok.injEq, exists_eq_left', bind_eq_ok_iff, mapError_eq_ok_iff, renderContainer_ok_iff]
      constructor
      · rintro ⟨text, ⟨rfl, hcheck⟩, hrest⟩
        obtain ⟨rfl, hnd, hall⟩ := (ih ((isFresh_iff hdone _).1 hfresh)).1 hrest
        exact ⟨rfl, hnd, hcheck, hall⟩
      · rintro ⟨rfl, hnd, hcheck, hall⟩
        exact ⟨_, ⟨rfl, hcheck⟩, (ih ((isFresh_iff hdone _).1 hfresh)).2 ⟨rfl, hnd, hall⟩⟩
    · refine iff_of_false (by simp) ?_
      rintro ⟨rfl, hnd, -⟩
      refine hfresh ((isFresh_iff hdone c.moduleText).2 (hnd.sublist ?_))
      exact ((List.sublist_append_left _ _).map _).append_right _

/-- Without templates the files of a round have the built-in texts, if their names differ and all texts are accepted. -/
theorem renderSources_builtin_iff : renderSources tree none containers = .ok sources ↔
    sources = moduleSources containers ++ [(packageFileName, exportText containers)] ∧ (sources.map (·.1)).Nodup ∧
      (∀ c ∈ containers, Source.checkModule c.moduleText = .ok ()) ∧
      Source.checkModule (exportText containers) = .ok () := by
  have hrendered : renderSources tree none containers = (do
      let first ← renderContainers (.ok none) [] containers
      let text ← (renderPackage {} containers).mapError .render
      .ok (first ++ [(packageFileName, text)])) := by
    simp only [renderSources, templateFile, Option.map_none, bind, Except.bind]
  rw [hrendered, bind_eq_ok_iff]
  have hnil : (([] : Sources).map (·.1) ++ [packageFileName]).Nodup := by simp
  simp only [renderContainers_ok_iff hnil, List.nil_append]
  constructor
  · rintro ⟨first, ⟨rfl, hnd, hall⟩, h⟩
    obtain ⟨text, htext, h⟩ := bind_eq_ok_iff.1 h
    obtain ⟨rfl, hcheck⟩ := renderPackage_ok_iff.1 (mapError_eq_ok_iff.1 htext)
    cases h
    exact ⟨rfl, by simpa using hnd, hall, hcheck⟩
  · rintro ⟨rfl, hnd, hall, hcheck⟩
    refine ⟨_, ⟨rfl, by simpa using hnd, hall⟩, bind_eq_ok_iff.2 ⟨_, ?_, rfl⟩⟩
    exact mapError_eq_ok_iff.2 (renderPackage_ok_iff.2 ⟨rfl, hcheck⟩)

/-! ### Texts that are refused -/

/-- The container of no targets under a name that is reserved. -/
private def classContainer : Container where
  kind := "activity"
  name := "class"
  module := "activity_targets"
  docstring := "Factories for activity targets."
  imports := ⟨[(⟨"typing", "List"⟩, "List"), (⟨"autotarget.target", "ParameterProvider"⟩, "ParameterProvider"),
      (⟨"autotarget.target", "ActivityTarget"⟩, "ActivityTarget")],
    ["ActivityTarget", "ParameterProvider", "List", "class"]⟩

/-- Settings that name a container after a reserved word are accepted, but its module cannot be written. -/
theorem exists_unwritable_container :
    ((Settings.ofEntries ⟨"/", ["p"]⟩
        [(.text "containers", .dict [(.text "activity", .text "class")])]).toOption.map
          (·.containers.activity)) = some "class" ∧
      ((targetContainer activityTargets [] "class").result.toOption.bind
        fun c => (renderContainer {} c).toOption) = none := by
  have hcontainer : (targetContainer activityTargets [] "class").result = .ok classContainer := by
    decide +kernel
  have hrefused : Source.checkModule classContainer.moduleText ≠ .ok () := by
    rw [Source.checkModule, Source.parseModule, toList_moduleText]
    decide +kernel
  refine ⟨by decide +kernel, ?_⟩
  rw [hcontainer, Except.toOption, Option.bind_some]
  cases htext : renderContainer {} classContainer with
  | error fault => rfl
  | ok written =>
    obtain ⟨rfl, hchecked⟩ := renderContainer_ok_iff.1 htext
    exact absurd hchecked hrefused

end NavFactory
