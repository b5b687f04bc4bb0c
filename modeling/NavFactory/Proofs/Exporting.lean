import NavFactory.Proofs.Isolation
import NavFactory.Proofs.Writing

/-!
# What a package exports

The package of a round imports the class of each container from its module, line by line.  An import binds the name of the
module in the package as well, and later bindings hide earlier ones, so that the classes are all there in the end
exactly if their names get along with each other and with the names of the modules (`reexports_iff`).  The
settings allow names that do not (`exists_lost_export`).
-/

namespace NavFactory

/-! ### Lines that import -/

/-- A line of the package that imports a class from a module. -/
structure ExportLine where
  module : String
  name : String
deriving DecidableEq

/-- What a name of the package refers to. -/
inductive Exported
  | submodule (module : String)
  | containerClass (line : ExportLine)
  /-- Something that every module has, whatever it defines. -/
  | attribute (name : String)
deriving DecidableEq

/-- The names that are bound in a package, the latest first. -/
abbrev Bindings := List (String × Exported)

/-- Names by which every module refers to itself, whatever it defines. -/
def moduleAttributes : List String := ["__class__", "__dict__"]

/-- The function that a module is asked for names that it does not define. -/
def attributeHook : String := "__getattr__"

/-- Names by which a package is found when something is imported from it. -/
def importAttributes : List String := ["__package__", "__spec__", "__path__"]

namespace ExportLine

def text (l : ExportLine) : String := "from ." ++ l.module ++ " import " ++ l.name

/-- The identifier that the name of the class is. -/
def identifier (l : ExportLine) : String := Text.composed l.name

/-- What the name refers to in the module. -/
def value (l : ExportLine) : Exported :=
  if l.identifier ∈ moduleAttributes then .attribute l.identifier else .containerClass l

/-- What the line binds. -/
def bindings (l : ExportLine) : Bindings := [(l.identifier, l.value), (l.module, .submodule l.module)]

/-- Executes a line, unless the package cannot be found any more or the module does not answer for its attributes. -/
def execute (bound : Bindings) (l : ExportLine) : Option Bindings :=
  if (∃ name ∈ importAttributes, (bound.lookup name).isSome) ∨ l.identifier = attributeHook then none
  else some (l.bindings ++ bound)

end ExportLine

/-- The line for a container. -/
def Container.exportLine (c : Container) : ExportLine := ⟨c.module, c.name⟩

/-- The line for the container of a processor. -/
def Processor.exportLine (settings : Settings) (q : Processor) : ExportLine := ⟨q.module, containerNameFor settings q⟩

/-- The lines of a package that exports classes. -/
def exportLines (lines : List ExportLine) : List String :=
  [generatedHeader, docstringText "Generated navigation factories.", ""] ++ lines.map (·.text) ++
    ["", "__all__ = ["] ++ lines.map (fun l => "    \"" ++ l.name ++ "\",") ++ ["]"]

theorem packageLines_eq (containers : List Container) :
    packageLines containers = exportLines (containers.map (·.exportLine)) := by
  simp [packageLines, exportLines, ExportLine.text, Container.exportLine, Function.comp_def]

/-- What the lines bind when none of them fails. -/
def bindAll (bound : Bindings) (lines : List ExportLine) : Bindings := lines.foldl (fun bound l => l.bindings ++ bound) bound

/-- Whether a package exports the classes of all of its lines: they are named apart, each is listed once, and after the
lines are executed each name refers to the class of its own module. -/
structure Reexports (lines : List ExportLine) : Prop where
  names : (lines.map (·.name)).Nodup
  listed : ∀ l ∈ lines, (exportLines lines).count ("    \"" ++ l.name ++ "\",") = 1
  classes : ∃ bound, lines.foldlM ExportLine.execute [] = some bound ∧
    ∀ l ∈ lines, bound.lookup l.identifier = some (.containerClass l)

/-- Whether the names of classes get along: no later line binds the name of an earlier one, none in front of another hides
what the package is found by, and none is one that every module has. -/
structure AreCompatible (lines : List ExportLine) : Prop where
  pairwise : lines.Pairwise fun l l' =>
    l.identifier ≠ l'.identifier ∧ l.identifier ≠ l'.module ∧ l.identifier ∉ importAttributes
  own : ∀ l ∈ lines, l.identifier ≠ attributeHook ∧ l.identifier ∉ moduleAttributes

instance (lines : List ExportLine) : Decidable (AreCompatible lines) :=
  decidable_of_iff
    ((lines.Pairwise fun l l' =>
        l.identifier ≠ l'.identifier ∧ l.identifier ≠ l'.module ∧ l.identifier ∉ importAttributes) ∧
      ∀ l ∈ lines, l.identifier ≠ attributeHook ∧ l.identifier ∉ moduleAttributes)
    ⟨fun h => ⟨h.1, h.2⟩, fun h => ⟨h.pairwise, h.own⟩⟩

section Lines

variable {l : ExportLine} {lines : List ExportLine} {bound bound' : Bindings} {x : String}

/-! ### One line -/

private theorem lookup_bindings (l : ExportLine) (bound : Bindings) (x : String) : (l.bindings ++ bound).lookup x =
    if x = l.identifier then some l.value else if x = l.module then some (.submodule l.module) else bound.lookup x := by
  have hcons : ∀ (name : String) (value : Exported) (rest : Bindings),
      List.lookup x ((name, value) :: rest) = if x = name then some value else rest.lookup x := by
    intro name value rest
    by_cases h : x = name
    · simp [h]
    · simp [List.lookup_cons, beq_eq_false_iff_ne.2 h, h]
  rw [ExportLine.bindings, List.cons_append, List.singleton_append, hcons, hcons]

/-- Whether a package can no longer be found. -/
private def IsLost (bound : Bindings) : Prop := ∃ name ∈ importAttributes, (bound.lookup name).isSome

private theorem isLost_append_iff (hmodule : l.module ∉ importAttributes) :
    IsLost (l.bindings ++ bound) ↔ IsLost bound ∨ l.identifier ∈ importAttributes := by
  have hlookup : ∀ name ∈ importAttributes, ((l.bindings ++ bound).lookup name).isSome ↔
      (bound.lookup name).isSome ∨ l.identifier = name := by
    intro name hname
    have hother : name ≠ l.module := fun heq => hmodule (heq ▸ hname)
    rw [lookup_bindings, if_neg hother]
    split_ifs with hself
    · exact iff_of_true rfl (.inr hself.symm)
    · rw [or_iff_left (Ne.symm hself)]
  constructor
  · rintro ⟨name, hname, hbound⟩
    rcases (hlookup name hname).1 hbound with hbound | rfl
    · exact .inl ⟨name, hname, hbound⟩
    · exact .inr hname
  · rintro (⟨name, hname, hbound⟩ | hname)
    · exact ⟨name, hname, (hlookup name hname).2 (.inl hbound)⟩
    · exact ⟨_, hname, (hlookup _ hname).2 (.inr rfl)⟩

private theorem execute_eq_some_iff : l.execute bound = some bound' ↔
    (¬IsLost bound ∧ l.identifier ≠ attributeHook) ∧ l.bindings ++ bound = bound' := by
  rw [ExportLine.execute, ← not_or, IsLost]
  split_ifs with h
  · exact iff_of_false (by simp) fun hok => hok.1 h
  · rw [and_iff_right h, Option.some.injEq]

/-! ### All lines -/

private theorem bindAll_cons : bindAll bound (l :: lines) = bindAll (l.bindings ++ bound) lines := rfl

/-- The lines are executed exactly if none hides what the package is found by in front of another. -/
private theorem foldlM_execute_iff (hmodules : ∀ l ∈ lines, l.module ∉ importAttributes) (hbound : ¬IsLost bound) :
    lines.foldlM ExportLine.execute bound = some bound' ↔
      (lines.Pairwise (fun l _ => l.identifier ∉ importAttributes) ∧ ∀ l ∈ lines, l.identifier ≠ attributeHook) ∧
        bindAll bound lines = bound' := by
  induction lines generalizing bound with
  | nil => simp [bindAll]
  | cons l rest ih =>
    obtain ⟨hmodule, hrest⟩ := List.forall_mem_cons.1 hmodules
    have hexecute : (l :: rest).foldlM ExportLine.execute bound = some bound' ↔
        l.identifier ≠ attributeHook ∧ rest.foldlM ExportLine.execute (l.bindings ++ bound) = some bound' := by
      rw [List.foldlM_cons, Option.bind_eq_bind, Option.bind_eq_some_iff]
      simp only [execute_eq_some_iff, hbound, not_false_eq_true, true_and, and_assoc, exists_and_left, exists_eq_left']
    rw [hexecute, List.pairwise_cons, List.forall_mem_cons]
    cases rest with
    | nil => simp [bindAll]
    | cons next more =>
      by_cases hown : l.identifier ∈ importAttributes
      · -- the next line does not find the package
        have hlost : IsLost (l.bindings ++ bound) := (isLost_append_iff hmodule).2 (.inr hown)
        refine iff_of_false ?_ fun h => h.1.1.1 next List.mem_cons_self hown
        rintro ⟨-, hnext⟩
        rw [List.foldlM_cons, Option.bind_eq_bind, Option.bind_eq_some_iff] at hnext
        obtain ⟨_, hnext, -⟩ := hnext
        exact (execute_eq_some_iff.1 hnext).1.1 hlost
      · have hfound : ¬IsLost (l.bindings ++ bound) := by
          rw [isLost_append_iff hmodule, not_or]
          exact ⟨hbound, hown⟩
        rw [ih hrest hfound]
        simp only [hown, not_false_eq_true, implies_true, true_and, bindAll_cons]
        tauto

/-- A name that no line binds keeps its meaning. -/
private theorem lookup_bindAll_of_unbound (h : ∀ l ∈ lines, x ≠ l.identifier ∧ x ≠ l.module) :
    (bindAll bound lines).lookup x = bound.lookup x := by
  induction lines generalizing bound with
  | nil => rfl
  | cons l rest ih =>
    obtain ⟨⟨hidentifier, hmodule⟩, hrest⟩ := List.forall_mem_cons.1 h
    rw [bindAll_cons, ih hrest, lookup_bindings, if_neg hidentifier, if_neg hmodule]

/-- A name that some line binds has its meaning from one of the lines. -/
private theorem exists_lookup_bindAll (h : ∃ l ∈ lines, x = l.identifier ∨ x = l.module) :
    ∃ l ∈ lines, (bindAll bound lines).lookup x = some l.value ∨
      (bindAll bound lines).lookup x = some (.submodule l.module) := by
  induction lines generalizing bound with
  | nil => simp at h
  | cons l rest ih =>
    rw [bindAll_cons]
    by_cases hlater : ∃ l ∈ rest, x = l.identifier ∨ x = l.module
    · obtain ⟨l', hl', hvalue⟩ := ih hlater
      exact ⟨l', List.mem_cons_of_mem _ hl', hvalue⟩
    · have hnone : ∀ l ∈ rest, x ≠ l.identifier ∧ x ≠ l.module := fun l' hl' =>
        not_or.1 fun hbinds => hlater ⟨l', hl', hbinds⟩
      have hself : x = l.identifier ∨ x = l.module := by
        obtain ⟨l', hl', hbinds⟩ := h
        rcases List.mem_cons.1 hl' with rfl | hl'
        · exact hbinds
        · exact absurd ⟨l', hl', hbinds⟩ hlater
      refine ⟨l, List.mem_cons_self, ?_⟩
      rw [lookup_bindAll_of_unbound hnone, lookup_bindings]
      by_cases hname : x = l.identifier
      · exact .inl (if_pos hname)
      · rw [if_neg hname, if_pos (hself.resolve_left hname)]
        exact .inr rfl

private theorem value_eq_iff {l' : ExportLine} :
    l.value = .containerClass l' ↔ l.identifier ∉ moduleAttributes ∧ l = l' := by
  rw [ExportLine.value]
  split_ifs with h <;> simp [h]

/-- The name of the first line refers to its class in the end exactly if no later line binds it again. -/
private theorem lookup_bindAll_cons_iff (hfresh : l ∉ lines) :
    (bindAll bound (l :: lines)).lookup l.identifier = some (.containerClass l) ↔
      (∀ l' ∈ lines, l.identifier ≠ l'.identifier ∧ l.identifier ≠ l'.module) ∧ l.identifier ∉ moduleAttributes := by
  rw [bindAll_cons]
  by_cases hlater : ∃ l' ∈ lines, l.identifier = l'.identifier ∨ l.identifier = l'.module
  · -- what a later line binds the name to is not the class of this one
    refine iff_of_false ?_ ?_
    · intro hclass
      obtain ⟨l', hl', hvalue⟩ := exists_lookup_bindAll hlater
      rw [hclass] at hvalue
      rcases hvalue with hvalue | hvalue
      · obtain ⟨-, rfl⟩ := value_eq_iff.1 (Option.some.inj hvalue).symm
        exact hfresh hl'
      · cases hvalue
    · rintro ⟨hnone, -⟩
      obtain ⟨l', hl', hbinds⟩ := hlater
      exact hbinds.elim (hnone l' hl').1 (hnone l' hl').2
  · have hnone : ∀ l' ∈ lines, l.identifier ≠ l'.identifier ∧ l.identifier ≠ l'.module := fun l' hl' =>
      not_or.1 fun hbinds => hlater ⟨l', hl', hbinds⟩
    rw [lookup_bindAll_of_unbound hnone, and_iff_right hnone, lookup_bindings, if_pos rfl, Option.some.injEq,
      value_eq_iff, and_iff_left rfl]

/-- Each name refers to the class of its module in the end exactly if no later line binds it again. -/
private theorem lookup_bindAll_iff (hnames : (lines.map (·.name)).Nodup) :
    (∀ l ∈ lines, (bindAll bound lines).lookup l.identifier = some (.containerClass l)) ↔
      lines.Pairwise (fun l l' => l.identifier ≠ l'.identifier ∧ l.identifier ≠ l'.module) ∧
        ∀ l ∈ lines, l.identifier ∉ moduleAttributes := by
  induction lines generalizing bound with
  | nil => simp
  | cons l rest ih =>
    rw [List.map_cons, List.nodup_cons] at hnames
    obtain ⟨hname, hrest⟩ := hnames
    have hfresh : l ∉ rest := fun hmem => hname (List.mem_map_of_mem hmem)
    have hbelow : (∀ l' ∈ rest, (bindAll bound (l :: rest)).lookup l'.identifier = some (.containerClass l')) ↔ _ :=
      ih hrest
    rw [List.forall_mem_cons, List.forall_mem_cons, List.pairwise_cons, lookup_bindAll_cons_iff hfresh, hbelow]
    tauto

private theorem injective_listed : Function.Injective fun name : String => "    \"" ++ name ++ "\"," := by
  intro name name' h
  have hchars := congrArg String.toList h
  simpa [String.toList_append, String.toList_inj] using hchars

/-- Every line of the package but those of the list starts with something else than a blank. -/
private theorem count_exportLines (lines : List ExportLine) (name : String) :
    (exportLines lines).count ("    \"" ++ name ++ "\",") = (lines.map (·.name)).count name := by
  have hother : ∀ others : List String, (∀ s ∈ others, s.toList.head? ≠ some ' ') →
      others.count ("    \"" ++ name ++ "\",") = 0 := by
    intro others hothers
    refine List.count_eq_zero.2 fun hmem => hothers _ hmem ?_
    rw [String.toList_append, String.toList_append]
    rfl
  have hfirst := hother [generatedHeader, docstringText "Generated navigation factories.", ""] (by decide)
  have htext : ∀ s ∈ lines.map (·.text), s.toList.head? ≠ some ' ' := by
    intro s hs
    obtain ⟨l, -, rfl⟩ := List.mem_map.1 hs
    rw [ExportLine.text, String.toList_append, String.toList_append, String.toList_append]
    exact fun hhead => absurd (Option.some.inj hhead) (by decide)
  have hmiddle := hother ["", "__all__ = ["] (by decide)
  have hlast := hother ["]"] (by decide)
  have hlisted : (lines.map fun l => "    \"" ++ l.name ++ "\",") =
      (lines.map (·.name)).map fun name => "    \"" ++ name ++ "\"," := by
    rw [List.map_map]
    rfl
  rw [exportLines, List.count_append, List.count_append, List.count_append, List.count_append, hfirst,
    hother _ htext, hmiddle, hlast, hlisted, List.count_map_of_injective _ _ injective_listed]
  omega

/-- A package exports the classes of its lines exactly if their names get along. -/
theorem reexports_iff (hmodules : ∀ l ∈ lines, l.module ∉ importAttributes) : Reexports lines ↔ AreCompatible lines := by
  have hfound : ¬IsLost [] := by
    rintro ⟨name, -, hbound⟩
    cases hbound
  have hnodup : lines.Pairwise (fun l l' => l.identifier ≠ l'.identifier) → (lines.map (·.name)).Nodup := fun h =>
    List.pairwise_map.2 (h.imp fun hne heq => hne (congrArg Text.composed heq))
  constructor
  · rintro ⟨hnames, -, bound, hexecuted, hclasses⟩
    obtain ⟨⟨hlast, hhook⟩, rfl⟩ := (foldlM_execute_iff hmodules hfound).1 hexecuted
    obtain ⟨happart, hown⟩ := (lookup_bindAll_iff hnames).1 hclasses
    refine ⟨?_, fun l hl => ⟨hhook l hl, hown l hl⟩⟩
    exact (happart.and hlast).imp fun h => ⟨h.1.1, h.1.2, h.2⟩
  · rintro ⟨hpairwise, hown⟩
    have hnames := hnodup (hpairwise.imp fun h => h.1)
    refine ⟨hnames, fun l hl => ?_, bindAll [] lines, ?_, ?_⟩
    · rw [count_exportLines]
      exact List.count_eq_one_of_mem hnames (List.mem_map_of_mem hl)
    · refine (foldlM_execute_iff hmodules hfound).2 ⟨⟨hpairwise.imp fun h => h.2.2, fun l hl => (hown l hl).1⟩, rfl⟩
    · exact (lookup_bindAll_iff hnames).2 ⟨hpairwise.imp fun h => ⟨h.1, h.2.1⟩, fun l hl => (hown l hl).2⟩

end Lines

/-- A class that goes by the name of a later module is hidden by that module. -/
example : ¬AreCompatible [⟨"activity_targets", "fragment_targets"⟩, ⟨"fragment_targets", "FragmentTargets"⟩] := by
  decide

/-! ### Packages of rounds -/

variable {tree : Entry} {current : List String} {request : Request} {settings : Settings} {p : Plan}
  {declarations : List Declaration} {containers : List Container} {templates : Option Path} {sources : Sources}

/-- A container goes by the module and the name of its processor. -/
theorem exportLine_of_container {q : Processor} {c : Container}
    (h : (q.container declarations (containerNameFor settings q)).result = .ok c) :
    c.exportLine = q.exportLine settings := by
  have hname : c.name = containerNameFor settings q := by
    obtain ⟨-, h⟩ := Processor.container_ok_iff.1 h
    cases q with
    | targets t =>
      obtain ⟨r, -, rfl⟩ := map_eq_ok_iff.1 h
      rfl
    | bundles =>
      cases h
      rfl
    | plugin q =>
      cases h
      rfl
  rw [Container.exportLine, Processor.exportLine, module_of_container h, hname]

/-- A round has the containers that its processors make. -/
theorem buildContainers_ok_iff : (buildContainers request settings declarations).result = .ok containers ↔
    ∃ processors, chosenProcessors request settings = .ok processors ∧
      List.Forall₂ (fun q c => (q.container declarations (containerNameFor settings q)).result = .ok c)
        processors containers := by
  rw [buildContainers, Trace.bind_ok_iff]
  refine exists_congr fun processors => ?_
  rw [Trace.lift_ok_iff, Trace.forEach_ok_iff]
  simp only [result_buildContainer, mapError_eq_ok_iff]

/-- The containers of a round go by the modules and the names of its processors. -/
theorem exportLines_of_buildContainers (h : (buildContainers request settings declarations).result = .ok containers) :
    ∃ processors, chosenProcessors request settings = .ok processors ∧
      containers.map (·.exportLine) = processors.map (·.exportLine settings) := by
  obtain ⟨processors, hchosen, hmade⟩ := buildContainers_ok_iff.1 h
  refine ⟨processors, hchosen, ?_⟩
  rw [← List.forall₂_eq_eq_eq, List.forall₂_map_left_iff, List.forall₂_map_right_iff]
  exact hmade.flip.imp fun _ _ hc => exportLine_of_container hc

/-- Without a template for it, the package has the built-in text. -/
theorem exportText_mem_sources (h : renderSources tree templates containers = .ok sources)
    (htemplate : templateFile tree templates packageTemplateName = .ok none) :
    (packageFileName, exportText containers) ∈ sources := by
  rw [renderSources] at h
  obtain ⟨first, -, h⟩ := bind_eq_ok_iff.1 h
  obtain ⟨template, hfile, h⟩ := bind_eq_ok_iff.1 h
  rw [htemplate] at hfile
  cases hfile
  obtain ⟨text, htext, h⟩ := bind_eq_ok_iff.1 h
  obtain ⟨rfl, -⟩ := renderPackage_ok_iff.1 (mapError_eq_ok_iff.1 htext)
  cases h
  exact List.mem_append_right _ List.mem_cons_self

private theorem module_notMem_importAttributes {processors : List Processor}
    (h : processors ⊆ builtinProcessors.map (·.2)) :
    ∀ l ∈ processors.map (·.exportLine settings), l.module ∉ importAttributes := by
  intro l hl
  obtain ⟨q, hq, rfl⟩ := List.mem_map.1 hl
  have hall : ∀ q ∈ builtinProcessors.map (·.2), q.module ∉ importAttributes := by decide
  exact hall q (h hq)

/-- The package of a round imports the class of each chosen processor under the name that the settings give it, and exports
them all exactly if these names get along with each other and with the modules. -/
theorem plan_reexports_iff (hbuiltIn : request.IsBuiltIn) (hplan : (plan tree current request).result = .ok p)
    (htemplate : templateFile tree (request.templates.or p.settings.templates) packageTemplateName = .ok none) :
    ∃ processors, chosenProcessors request p.settings = .ok processors ∧
      p.containers.map (·.exportLine) = processors.map (·.exportLine p.settings) ∧
      (packageFileName, closeText (linesText (exportLines (processors.map (·.exportLine p.settings))))) ∈ p.sources ∧
      (Reexports (p.containers.map (·.exportLine)) ↔ AreCompatible (processors.map (·.exportLine p.settings))) := by
  obtain ⟨root, declarations, -, -, -, hcontainers, hsources⟩ := plan_ok_iff.1 hplan
  obtain ⟨processors, hchosen, hlines⟩ := exportLines_of_buildContainers hcontainers
  have hmodules : ∀ l ∈ processors.map (·.exportLine p.settings), l.module ∉ importAttributes :=
    module_notMem_importAttributes (chosenProcessors_subset hbuiltIn hchosen)
  refine ⟨processors, hchosen, hlines, ?_, ?_⟩
  · rw [← hlines, ← packageLines_eq]
    exact exportText_mem_sources hsources htemplate
  · rw [hlines]
    exact reexports_iff hmodules

/-! ### Names of settings -/

theorem AreCompatible.sublist {lines lines' : List ExportLine} (h : AreCompatible lines) (hsublist : lines'.Sublist lines) :
    AreCompatible lines' where
  pairwise := h.pairwise.sublist hsublist
  own := fun l hl => h.own l (hsublist.subset hl)

/-- The names that containers have when the settings give none get along, whichever processors are chosen. -/
theorem areCompatible_default (hnames : settings.containers = {}) {processors : List Processor}
    (hchosen : processors.Sublist (builtinProcessors.map (·.2))) :
    AreCompatible (processors.map (·.exportLine settings)) := by
  have hlines : (builtinProcessors.map (·.2)).map (·.exportLine settings) =
      [⟨"activity_targets", "ActivityTargets"⟩, ⟨"fragment_targets", "FragmentTargets"⟩, ⟨"bundles", "Bundles"⟩] := by
    simp only [builtinProcessors, List.map_cons, List.map_nil, Processor.exportLine, containerNameFor, hnames]
    rfl
  have hall : AreCompatible ((builtinProcessors.map (·.2)).map (·.exportLine settings)) := by
    rw [hlines]
    decide
  exact hall.sublist (hchosen.map _)

/-- A project whose settings give two containers the same name. -/
def namesakeProject : Entry :=
  .directory [("p", .directory [
    (settingsFileName, .file (Text.encode "containers:\n  fragment: Targets\n  bundle: Targets\n"))])]

def namesakeRequest : Request where
  path := "/p"
  processors := some [.targets fragmentTargets, .bundles]

def namesakeSettings : Settings where
  root := .absolute ["p"]
  sourceRoots := [.absolute ["p"]]
  directory := .absolute ["p", defaultDirectory]
  package := defaultPackage
  containers := { fragment := "Targets", bundle := "Targets" }

/-- The containers that two of the processors make of nothing. -/
def namesakeContainers : List Container :=
  [{ kind := "fragment", name := "Targets", module := "fragment_targets", docstring := "Factories for fragment targets."
     imports := ⟨[(⟨"typing", "List"⟩, "List"), (⟨"autotarget.target", "ParameterProvider"⟩, "ParameterProvider"),
        (⟨"autotarget.target", "FragmentTarget"⟩, "FragmentTarget")],
      ["FragmentTarget", "ParameterProvider", "List", "Targets"]⟩ },
    { kind := "bundle", name := "Targets", module := "bundles", docstring := "Accessors rebuilding bundle-backed models."
      imports := ⟨[(mappingType, "Mapping"), (anyType, "Any")], ["Any", "Mapping", "Targets"]⟩ }]

private theorem plan_namesake : namesakeRequest.IsBuiltIn ∧ (plan namesakeProject [] namesakeRequest).result =
    .ok ⟨namesakeSettings, namesakeContainers,
      moduleSources namesakeContainers ++ [(packageFileName, exportText namesakeContainers)]⟩ := by
  have hbuiltIn : [.targets fragmentTargets, .bundles] ⊆ builtinProcessors.map (·.2) := by decide
  have hread : projectRoot namesakeProject [] "/p" = .ok (.absolute ["p"]) ∧
      requestedSettings namesakeProject [] (.absolute ["p"]) none = .ok namesakeSettings ∧
      (readDeclarations namesakeProject [] namesakeSettings).result = .ok [] ∧
      (buildContainers namesakeRequest namesakeSettings []).result = .ok namesakeContainers := by
    decide +kernel
  have hmodules : ∀ c ∈ namesakeContainers, Source.checkModule c.moduleText = .ok () := by
    rw [namesakeContainers, List.forall_mem_cons, List.forall_mem_singleton, Source.checkModule, Source.parseModule,
      toList_moduleText, Source.checkModule, Source.parseModule, toList_moduleText]
    decide +kernel
  have hexports : Source.checkModule (exportText namesakeContainers) = .ok () := by
    rw [Source.checkModule, Source.parseModule, toList_exportText]
    decide +kernel
  obtain ⟨hroot, hsettings, hdeclarations, hcontainers⟩ := hread
  refine ⟨hbuiltIn, plan_ok_iff.2 ⟨_, _, hroot, hsettings, hdeclarations, hcontainers, ?_⟩⟩
  exact renderSources_builtin_iff.2 ⟨rfl, by decide, hmodules, hexports⟩

theorem plan_reexports_namesake :
    (namesakeRequest.IsBuiltIn ∧ (plan namesakeProject [] namesakeRequest).result =
        .ok ⟨namesakeSettings, namesakeContainers,
          moduleSources namesakeContainers ++ [(packageFileName, exportText namesakeContainers)]⟩ ∧
      templateFile namesakeProject (namesakeRequest.templates.or namesakeSettings.templates) packageTemplateName =
        .ok none) ∧
    ∃ processors, chosenProcessors namesakeRequest namesakeSettings = .ok processors ∧
      namesakeContainers.map (·.exportLine) = processors.map (·.exportLine namesakeSettings) ∧
      (packageFileName, closeText (linesText (exportLines (processors.map (·.exportLine namesakeSettings))))) ∈
        moduleSources namesakeContainers ++ [(packageFileName, exportText namesakeContainers)] ∧
      (Reexports (namesakeContainers.map (·.exportLine)) ↔
        AreCompatible (processors.map (·.exportLine namesakeSettings))) :=
  have ⟨hbuiltIn, hplan⟩ := plan_namesake
  ⟨⟨hbuiltIn, hplan, rfl⟩, plan_reexports_iff hbuiltIn hplan rfl⟩

/-- The settings allow names of which the package loses one. -/
theorem exists_lost_export :
    ¬∀ (tree : Entry) (current : List String) (request : Request) (p : Plan), request.IsBuiltIn →
      (plan tree current request).result = .ok p →
      templateFile tree (request.templates.or p.settings.templates) packageTemplateName = .ok none →
      Reexports (p.containers.map (·.exportLine)) := by
  intro hall
  obtain ⟨hbuiltIn, hplan⟩ := plan_namesake
  have hnames := (hall _ _ _ _ hbuiltIn hplan rfl).names
  have hsame : ¬((namesakeContainers.map (·.exportLine)).map (·.name)).Nodup := by decide
  exact hsame hnames

end NavFactory
