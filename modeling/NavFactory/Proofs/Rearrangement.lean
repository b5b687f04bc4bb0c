import NavFactory.Processor
import NavFactory.Proofs.Emission

/-!
# Rearranged declarations

A processor sorts the classes that it selects, so that the order in which declarations are read counts only among those
of one name in one module.  If these keep their order, then the same classes are selected (`select_rearranges`), and
the container is the same; only the errors about declarations that are no classes come in another order
(`container_rearranges`).
-/

namespace NavFactory

/-- Whether a declaration has a name in a module. -/
def Declaration.isNamed (d : Declaration) (name namespaceName : String) : Bool :=
  d.name == name && d.namespaceName == namespaceName

/-- A list of declarations in another order, in which those of one name in one module follow each other as before. -/
structure Rearranges (ds ds' : List Declaration) : Prop where
  perm : ds.Perm ds'
  keeps : ∀ name namespaceName,
    ds.filter (·.isNamed name namespaceName) = ds'.filter (·.isNamed name namespaceName)

variable {ds ds' : List Declaration} {marker : String}

/-! ### Selection -/

/-- The candidates of one name in one module are those among the declarations of this name there. -/
private theorem filter_candidates (marker : String) (ds : List Declaration) (key : String ×ₗ String) :
    (candidates marker ds).1.filter (fun s => toLex (s.name, s.namespaceName) = key) =
      (ds.filter (·.isNamed (ofLex key).1 (ofLex key).2)).filterMap (·.candidate? marker) := by
  rw [candidates_eq, List.filter_filterMap, List.filterMap_filter]
  apply List.filterMap_congr
  intro d _
  cases hd : d.candidate? marker with
  | none => simp
  | some s =>
    have hkey : toLex (s.name, s.namespaceName) = key ↔ d.isNamed (ofLex key).1 (ofLex key).2 := by
      rw [Selected.name, Selected.namespaceName, (candidate?_eq_some_iff.1 hd).1, ← ofLex_inj]
      simp [Declaration.isNamed, Prod.ext_iff]
    by_cases h : toLex (s.name, s.namespaceName) = key <;> simp [Option.filter, h, ← hkey]

private theorem sort_candidates_rearranges (h : Rearranges ds ds') :
    sortBy Selected.before (candidates marker ds).1 = sortBy Selected.before (candidates marker ds').1 := by
  apply sortBy_congr before_iff
  intro key
  rw [filter_candidates, filter_candidates, h.keeps]

/-- The same classes are selected, and the same errors are reported, though not in the same order. -/
theorem select_rearranges (h : Rearranges ds ds') (marker : String) :
    (select ds marker).1 = (select ds' marker).1 ∧ (select ds marker).2.Perm (select ds' marker).2 := by
  have hproblems : (candidates marker ds).2.Perm (candidates marker ds').2 := by
    rw [candidates_eq, candidates_eq]
    exact h.perm.filterMap _
  simp only [select, sort_candidates_rearranges h, true_and]
  exact hproblems.append_right _

/-! ### Containers -/

/-- A processor makes the same container of rearranged declarations, or fails as before, and reports the same
diagnostics in some order. -/
theorem container_rearranges (p : Processor) (h : Rearranges ds ds') (containerName : String) :
    (p.container ds containerName).result = (p.container ds' containerName).result ∧
      (p.container ds containerName).diagnostics.Perm (p.container ds' containerName).diagnostics := by
  obtain ⟨hrecords, hproblems⟩ := select_rearranges h p.marker
  cases p with
  | targets t =>
    change (select ds t.marker).1 = (select ds' t.marker).1 at hrecords
    simp only [Processor.container, targetContainer_eq, hrecords, true_and]
    exact hproblems.append_right _
  | bundles =>
    change (select ds bundleMarker).1 = (select ds' bundleMarker).1 at hrecords
    simp only [Processor.container, bundleContainer, bundleModels, hrecords, true_and]
    exact hproblems.append_right _
  | plugin plug => exact ⟨rfl, List.Perm.refl _⟩

/-- A screen. -/
def homeScreen : Declaration where
  name := "Home"
  namespaceName := "app.screens"
  markers := [⟨activityMarker, [("enter_anim", .int 7)], 3, []⟩]
  path := some "app/screens.py"
  line := 3

/-- A function that is marked as a screen. -/
def helpFunction : Declaration where
  name := "help"
  namespaceName := "app.screens"
  kind := .function
  markers := [⟨activityMarker, [], 8, []⟩]
  path := some "app/screens.py"
  line := 8

theorem container_rearranges_screens :
    Rearranges [homeScreen, helpFunction] [helpFunction, homeScreen] ∧
      ((Processor.targets activityTargets).container [homeScreen, helpFunction] "ActivityTargets").result =
        ((Processor.targets activityTargets).container [helpFunction, homeScreen] "ActivityTargets").result := by
  have hkeeps : ∀ name namespaceName, [homeScreen, helpFunction].filter (·.isNamed name namespaceName) =
      [helpFunction, homeScreen].filter (·.isNamed name namespaceName) := by
    intro name namespaceName
    have hne : ¬(homeScreen.isNamed name namespaceName = true ∧ helpFunction.isNamed name namespaceName = true) := by
      rintro ⟨hhome, hhelp⟩
      simp only [Declaration.isNamed, Bool.and_eq_true, beq_iff_eq] at hhome hhelp
      exact absurd (hhome.1.trans hhelp.1.symm) (by decide)
    by_cases hhome : homeScreen.isNamed name namespaceName = true
    · have hhelp : ¬helpFunction.isNamed name namespaceName = true := fun h => hne ⟨hhome, h⟩
      simp [hhome, hhelp]
    · simp [List.filter_cons, hhome]
  have h : Rearranges [homeScreen, helpFunction] [helpFunction, homeScreen] := ⟨List.Perm.swap _ _ _, hkeeps⟩
  exact ⟨h, (container_rearranges _ h _).1⟩

end NavFactory
