import Mathlib.Data.Finset.Sort
import Mathlib.Data.Prod.Lex
import Mathlib.Data.String.Basic
import NavFactory.ParameterGroups
import NavFactory.Proofs.Sorting

/-!
# Parameters by group

What the parameter markers of a declaration say about its groups, without the buckets: `Declaration.entriesIn` takes
from each marker that names a group its entry in that group, and `Declaration.otherGroups` lists the groups other
than the default one in increasing order.  If the markers have no problems, the buckets hold exactly these entries
(`entries_groupedEntries`) in the order in which the groups are named (`keys_groupedEntries`), and in the order of the
output they are those of the default group, if it has any, and those of the other groups (`ordered_groupedEntries`).
Nothing clashes exactly if the methods of all groups and the arguments of each group are different
(`groupClashes_eq_nil_iff`).
-/

namespace NavFactory

/-- The entry of a parameter marker in a group, if the marker names that group. -/
def Usage.entryFor? (usage : Usage) (group : String) : Option ParameterEntry := do
  let key ← usage.key?
  let type ← usage.type?
  let name ← usage.displayName?
  let optional ← usage.optional?
  let groups ← usage.groups?
  if group ∈ groups then some ⟨key, type, name, optional, group⟩ else none

namespace Declaration

/-- The entries of the parameter markers that name a group, in the order of the markers. -/
def entriesIn (d : Declaration) (group : String) : List ParameterEntry :=
  (d.usages parameterMarker).filterMap (·.entryFor? group)

/-- The groups that the parameter markers name. -/
def namedGroups (d : Declaration) : List String :=
  (d.usages parameterMarker).flatMap fun usage => usage.groups?.getD []

/-- The named groups other than the default one, in increasing order. -/
def otherGroups (d : Declaration) : List String := (d.namedGroups.toFinset.erase defaultGroup).sort (· ≤ ·)

end Declaration

/-! ### The arguments of a marker -/

/-- A marker has no unknown arguments exactly if all its arguments are known. -/
theorem unknownProblem_eq_nil_iff {marker : String} {usage : Usage} {known : List String} :
    unknownProblem marker usage known = [] ↔ ∀ argument ∈ usage.arguments, argument.1 ∈ known := by
  have hproblem : unknownProblem marker usage known = [] ↔ unknownArguments usage known = [] := by
    rw [unknownProblem]
    split
    · rename_i hnone
      simp [hnone]
    · rename_i hsome
      simpa using hsome
  rw [hproblem, List.eq_nil_iff_forall_not_mem]
  simp only [unknownArguments, sortTexts, mem_sortBy, mem_dedupe, List.mem_filter, List.mem_map, Bool.not_eq_true',
    not_and, Bool.not_eq_false, List.contains_iff_mem]
  constructor
  · exact fun h argument ha => h argument.1 ⟨argument, ha, rfl⟩
  · rintro h name ⟨argument, ha, rfl⟩
    exact h argument ha

/-- A text that can name a group. -/
def Value.IsNonemptyText (v : Value) (text : String) : Prop := v.asText? = some text ∧ text ≠ ""

/-- The groups that a value names, as they are written: a text names one, a list or tuple of texts one each. -/
inductive Value.NamesGroups : Value → List String → Prop
  | one {v : Value} {group : String} : v.IsNonemptyText group → v.NamesGroups [group]
  | list {items : List Value} {groups : List String} :
    items ≠ [] → List.Forall₂ IsNonemptyText items groups → (Value.list items).NamesGroups groups
  | tuple {items : List Value} {groups : List String} :
    items ≠ [] → List.Forall₂ IsNonemptyText items groups → (Value.tuple items).NamesGroups groups

theorem asNames?_eq_some_iff {items : List Value} {names : List String} :
    asNames? items = some names ↔ List.Forall₂ Value.IsNonemptyText items names := by
  induction items generalizing names with
  | nil => simp [asNames?, eq_comm]
  | cons v rest ih =>
    have hempty (text : String) : text.isEmpty = true ↔ text = "" := by simp
    rw [List.forall₂_cons_left_iff, asNames?]
    simp only [Option.bind_eq_bind, Option.bind_eq_some_iff, Value.IsNonemptyText]
    constructor
    · rintro ⟨name, hname, h⟩
      split_ifs at h with he
      obtain ⟨others, hothers, h⟩ := Option.bind_eq_some_iff.1 h
      cases h
      exact ⟨name, others, ⟨hname, mt (hempty name).2 he⟩, ih.1 hothers, rfl⟩
    · rintro ⟨name, others, ⟨hname, he⟩, hothers, rfl⟩
      refine ⟨name, hname, ?_⟩
      rw [if_neg (mt (hempty name).1 he), ih.2 hothers]
      rfl

/-- The groups read from a value are those that it names, each once. -/
theorem asGroups?_eq_some_iff {v : Value} {groups : List String} :
    asGroups? v = some groups ↔ ∃ names, v.NamesGroups names ∧ groups = dedupe names := by
  have hitems {items : List Value} : (asNames? items).map dedupe = some groups ↔
      ∃ names, List.Forall₂ Value.IsNonemptyText items names ∧ groups = dedupe names := by
    simp only [Option.map_eq_some_iff, asNames?_eq_some_iff, eq_comm (a := groups)]
  constructor
  · intro h
    unfold asGroups? at h
    split at h
    · cases h
    · cases h
    · rename_i items hne
      obtain ⟨names, hnames, rfl⟩ := hitems.1 h
      exact ⟨names, .list (by rintro rfl; exact hne rfl) hnames, rfl⟩
    · rename_i items hne
      obtain ⟨names, hnames, rfl⟩ := hitems.1 h
      exact ⟨names, .tuple (by rintro rfl; exact hne rfl) hnames, rfl⟩
    · split at h
      · rename_i group hgroup
        split_ifs at h with he
        cases h
        exact ⟨[group], .one ⟨hgroup, by simpa using he⟩, rfl⟩
      · cases h
  · rintro ⟨names, h, rfl⟩
    cases h with
    | one htext =>
      obtain ⟨htext, hne⟩ := htext
      cases v <;> simp_all [asGroups?, Value.asText?, dedupe, dedupeFrom]
    | list hne hnames =>
      rw [← asNames?_eq_some_iff] at hnames
      rw [asGroups?, hnames, Option.map_some]
      exact hne
    | tuple hne hnames =>
      rw [← asNames?_eq_some_iff] at hnames
      rw [asGroups?, hnames, Option.map_some]
      exact hne

theorem Value.NamesGroups.ne_nil {v : Value} {groups : List String} (h : v.NamesGroups groups) : groups ≠ [] := by
  cases h with
  | one _ => exact List.cons_ne_nil _ _
  | list hne hnames => exact fun he => hne (List.forall₂_nil_right_iff.1 (he ▸ hnames))
  | tuple hne hnames => exact fun he => hne (List.forall₂_nil_right_iff.1 (he ▸ hnames))

/-- A marker names each of its groups once, and at least one. -/
theorem Usage.groups?_nodup {usage : Usage} {groups : List String} (h : usage.groups? = some groups) :
    groups.Nodup ∧ groups ≠ [] := by
  obtain ⟨names, hnames, rfl⟩ := asGroups?_eq_some_iff.1 h
  refine ⟨nodup_dedupe names, fun he => ?_⟩
  obtain ⟨group, hgroup⟩ := List.exists_mem_of_ne_nil names hnames.ne_nil
  exact List.not_mem_nil (he ▸ mem_dedupe.2 hgroup)

/-! ### Markers without problems -/

/-- A parameter marker all of whose arguments are usable. -/
structure Usage.Complete (usage : Usage) (key : String) (type : TypeRef) (name : String) (optional : Bool)
    (groups : List String) : Prop where
  key_eq : usage.key? = some key
  type_eq : usage.type? = some type
  name_eq : usage.displayName? = some name
  optional_eq : usage.optional? = some optional
  groups_eq : usage.groups? = some groups

/-- A parameter marker without problems has all it needs. -/
theorem Usage.complete_of_problems {usage : Usage} (h : parameterProblems usage = []) :
    ∃ key type name optional groups, usage.Complete key type name optional groups := by
  unfold parameterProblems at h
  simp only [List.append_eq_nil_iff] at h
  obtain ⟨⟨⟨⟨⟨⟨herr, -⟩, hkey⟩, htype⟩, hname⟩, hoptional⟩, hgroups⟩ := h
  have isSome_of {α : Type} {o : Option α} {text : String} (h : (if o.isSome = true then [] else [text]) = []) :
      ∃ a, o = some a := by
    cases o with
    | none => cases h
    | some a => exact ⟨a, rfl⟩
  rw [herr, List.any_nil, Bool.or_false] at htype
  obtain ⟨key, hkey⟩ := isSome_of hkey
  obtain ⟨type, htype⟩ := isSome_of htype
  obtain ⟨name, hname⟩ := isSome_of hname
  obtain ⟨optional, hoptional⟩ := isSome_of hoptional
  cases hg : usage.groups? with
  | none => simp [hg] at hgroups
  | some groups => exact ⟨key, type, name, optional, groups, hkey, htype, hname, hoptional, hg⟩

namespace Usage.Complete

variable {usage : Usage} {key : String} {type : TypeRef} {name : String} {optional : Bool} {groups : List String}

theorem entriesOf_eq (h : usage.Complete key type name optional groups) :
    entriesOf usage = groups.map fun group => ⟨key, type, name, optional, group⟩ := by
  simp [entriesOf, h.key_eq, h.type_eq, h.name_eq, h.optional_eq, h.groups_eq]

theorem entryFor?_eq (h : usage.Complete key type name optional groups) (group : String) :
    usage.entryFor? group = if group ∈ groups then some ⟨key, type, name, optional, group⟩ else none := by
  simp [entryFor?, h.key_eq, h.type_eq, h.name_eq, h.optional_eq, h.groups_eq]

end Usage.Complete

private theorem filter_map_group {mk : String → ParameterEntry} (hmk : ∀ g, (mk g).group = g) {groups : List String}
    (hnd : groups.Nodup) (group : String) :
    (groups.map mk).filter (·.group == group) = if group ∈ groups then [mk group] else [] := by
  induction groups with
  | nil => simp
  | cons g rest ih =>
    rw [List.nodup_cons] at hnd
    rw [List.map_cons, List.filter_cons, hmk, ih hnd.2]
    by_cases hg : g = group
    · subst hg
      simp [hnd.1]
    · simp [hg, Ne.symm hg]

/-- Of the entries of a marker without problems, those of a group are the one that the marker has there. -/
private theorem filter_entriesOf {usage : Usage} (h : parameterProblems usage = []) (group : String) :
    (entriesOf usage).filter (·.group == group) = (usage.entryFor? group).toList := by
  obtain ⟨key, type, name, optional, groups, hc⟩ := Usage.complete_of_problems h
  rw [hc.entriesOf_eq, hc.entryFor?_eq, filter_map_group (fun _ => rfl) (Usage.groups?_nodup hc.groups_eq).1]
  split <;> rfl

/-! ### Filling the buckets -/

namespace ParameterGroups

/-- The groups that have a bucket. -/
def keys (model : ParameterGroups) : List String := model.groups.map (·.1)

private theorem lookup_insertEntry (e : ParameterEntry) (groups : List (String × List ParameterEntry)) (g : String) :
    ((insertEntry e groups).lookup g).getD [] =
      (groups.lookup g).getD [] ++ if e.group == g then [e] else [] := by
  induction groups with
  | nil =>
    by_cases hg : g = e.group
    · subst hg; simp [insertEntry]
    · simp [insertEntry, List.lookup_cons, beq_false_of_ne hg, Ne.symm hg]
  | cons bucket rest ih =>
    obtain ⟨k, es⟩ := bucket
    unfold insertEntry
    by_cases hk : k = e.group
    · subst hk
      by_cases hg : g = e.group
      · subst hg; simp
      · simp [List.lookup_cons, beq_false_of_ne hg, Ne.symm hg]
    · rw [if_neg (by simpa using hk)]
      by_cases hg : g = k
      · subst hg
        simp [Ne.symm hk]
      · simpa only [List.lookup_cons, beq_false_of_ne hg] using ih

private theorem keys_insertEntry (e : ParameterEntry) (groups : List (String × List ParameterEntry)) :
    (insertEntry e groups).map (·.1) =
      if e.group ∈ groups.map (·.1) then groups.map (·.1) else groups.map (·.1) ++ [e.group] := by
  induction groups with
  | nil => simp [insertEntry]
  | cons bucket rest ih =>
    obtain ⟨k, es⟩ := bucket
    unfold insertEntry
    by_cases hk : k = e.group
    · subst hk; simp
    · rw [if_neg (by simpa using hk), List.map_cons, ih]
      by_cases hm : e.group ∈ rest.map (·.1)
      · simp [hm, Ne.symm hk]
      · simp only [hm, if_false]
        rw [if_neg (by simpa [Ne.symm hk] using hm)]
        rfl

/-- The entries of a group after entries were added: those that it had, then the new ones of the group. -/
theorem entries_foldl_add (model : ParameterGroups) (es : List ParameterEntry) (g : String) :
    (es.foldl add model).entries g = model.entries g ++ es.filter (·.group == g) := by
  induction es generalizing model with
  | nil => simp
  | cons e rest ih =>
    have step : (model.add e).entries g = model.entries g ++ if e.group == g then [e] else [] :=
      lookup_insertEntry e model.groups g
    rw [List.foldl_cons, ih, step, List.filter_cons]
    split <;> simp

/-- The buckets after entries were added: those that were there, then one for each new group, in the order of first use. -/
private theorem keys_foldl_add (model : ParameterGroups) (es : List ParameterEntry) :
    (es.foldl add model).keys = model.keys ++ dedupeFrom model.keys (es.map (·.group)) := by
  induction es generalizing model with
  | nil => simp [dedupeFrom]
  | cons e rest ih =>
    have step : (model.add e).keys = if e.group ∈ model.keys then model.keys else model.keys ++ [e.group] :=
      keys_insertEntry e model.groups
    rw [List.foldl_cons, ih, step, List.map_cons, dedupeFrom]
    by_cases hm : e.group ∈ model.keys
    · simp only [hm, if_true, List.contains_iff_mem.2 hm]
    · have hnew : ¬model.keys.contains e.group = true := fun h => hm (List.contains_iff_mem.1 h)
      have hseen : ∀ x, x ∈ model.keys ++ [e.group] ↔ x ∈ e.group :: model.keys := fun x => by
        rw [List.mem_append, List.mem_singleton, List.mem_cons, or_comm]
      rw [if_neg hm, if_neg hnew, List.append_assoc, List.singleton_append, dedupeFrom_congr hseen]

/-- Adding entries makes a model larger by their number. -/
private theorem size_foldl_add (model : ParameterGroups) (es : List ParameterEntry) :
    (es.foldl add model).size = model.size + es.length := by
  have step (e : ParameterEntry) (groups : List (String × List ParameterEntry)) :
      ((insertEntry e groups).flatMap (·.2)).length = (groups.flatMap (·.2)).length + 1 := by
    induction groups with
    | nil => simp [insertEntry]
    | cons bucket rest ih =>
      obtain ⟨k, es⟩ := bucket
      unfold insertEntry
      split
      · simp; omega
      · simp [ih]; omega
  induction es generalizing model with
  | nil => rfl
  | cons e rest ih =>
    have h : (model.add e).size = model.size + 1 := step e model.groups
    rw [List.foldl_cons, ih, h, List.length_cons]
    omega

end ParameterGroups

/-! ### The buckets of a declaration -/

section Declaration

variable {d : Declaration}

/-- A declaration has no errors in its parameters exactly if none of its parameter markers has problems. -/
theorem parameterErrors_eq_nil_iff :
    parameterErrors d = [] ↔ ∀ usage ∈ d.usages parameterMarker, parameterProblems usage = [] := by
  simp [parameterErrors, errorsOn]

private theorem groupedEntries_eq (h : parameterErrors d = []) :
    groupedEntries d = ((d.usages parameterMarker).flatMap entriesOf).foldl ParameterGroups.add {} := by
  rw [parameterErrors_eq_nil_iff] at h
  unfold groupedEntries
  congr 1
  apply List.flatMap_congr
  intro usage hu
  simp [h usage hu]

/-- The entries of a group are those of the markers that name it. -/
theorem entries_groupedEntries (h : parameterErrors d = []) (group : String) :
    (groupedEntries d).entries group = d.entriesIn group := by
  rw [groupedEntries_eq h, ParameterGroups.entries_foldl_add]
  rw [parameterErrors_eq_nil_iff] at h
  have hnil : ({} : ParameterGroups).entries group = [] := rfl
  rw [hnil, List.nil_append, Declaration.entriesIn, List.filter_flatMap, List.filterMap_eq_flatMap_toList]
  apply List.flatMap_congr
  intro usage hu
  exact filter_entriesOf (h usage hu) group

private theorem groups_entriesOf (h : parameterErrors d = []) :
    ((d.usages parameterMarker).flatMap entriesOf).map (·.group) = d.namedGroups := by
  rw [parameterErrors_eq_nil_iff] at h
  rw [List.map_flatMap, Declaration.namedGroups]
  apply List.flatMap_congr
  intro usage hu
  obtain ⟨key, type, name, optional, groups, hc⟩ := Usage.complete_of_problems (h usage hu)
  simp [hc.entriesOf_eq, hc.groups_eq, Function.comp_def]

/-- There is a bucket for each group that a marker names, in the order of first use. -/
theorem keys_groupedEntries (h : parameterErrors d = []) : (groupedEntries d).keys = dedupe d.namedGroups := by
  rw [groupedEntries_eq h, ParameterGroups.keys_foldl_add, groups_entriesOf h]
  rfl

theorem nodup_keys_groupedEntries (h : parameterErrors d = []) : (groupedEntries d).keys.Nodup := by
  rw [keys_groupedEntries h]
  exact nodup_dedupe _

theorem mem_keys_groupedEntries (h : parameterErrors d = []) (group : String) :
    group ∈ (groupedEntries d).keys ↔ group ∈ d.namedGroups := by
  rw [keys_groupedEntries h, mem_dedupe]

/-- A group is named exactly if some marker has an entry in it. -/
theorem mem_namedGroups_iff (h : parameterErrors d = []) (group : String) :
    group ∈ d.namedGroups ↔ d.entriesIn group ≠ [] := by
  rw [parameterErrors_eq_nil_iff] at h
  rw [Declaration.namedGroups, List.mem_flatMap, Declaration.entriesIn, ne_eq, List.filterMap_eq_nil_iff]
  push Not
  refine exists_congr fun usage => and_congr_right fun hu => ?_
  obtain ⟨key, type, name, optional, groups, hc⟩ := Usage.complete_of_problems (h usage hu)
  rw [hc.entryFor?_eq, hc.groups_eq]
  simp

/-- There are as many entries as the markers name groups. -/
theorem size_groupedEntries (h : parameterErrors d = []) : (groupedEntries d).size = d.namedGroups.length := by
  have hzero : ({} : ParameterGroups).size = 0 := rfl
  rw [groupedEntries_eq h, ParameterGroups.size_foldl_add, hzero, Nat.zero_add, ← groups_entriesOf h, List.length_map]

/-- No entries were read exactly if there are no parameter markers. -/
theorem size_groupedEntries_eq_zero_iff (h : parameterErrors d = []) :
    (groupedEntries d).size = 0 ↔ d.usages parameterMarker = [] := by
  rw [size_groupedEntries h, List.length_eq_zero_iff, Declaration.namedGroups, List.flatMap_eq_nil_iff,
    List.eq_nil_iff_forall_not_mem]
  rw [parameterErrors_eq_nil_iff] at h
  -- each marker names at least one group
  refine forall₂_congr fun usage hu => iff_of_false ?_ not_false
  obtain ⟨key, type, name, optional, groups, hc⟩ := Usage.complete_of_problems (h usage hu)
  simpa [hc.groups_eq] using (Usage.groups?_nodup hc.groups_eq).2

/-- The buckets of a declaration: for each named group the entries of the markers that name it. -/
theorem mem_groups_groupedEntries (h : parameterErrors d = []) (bucket : String × List ParameterEntry) :
    bucket ∈ (groupedEntries d).groups ↔ bucket.1 ∈ d.namedGroups ∧ bucket.2 = d.entriesIn bucket.1 := by
  have hnd := nodup_keys_groupedEntries h
  have value {b : String × List ParameterEntry} (hb : b ∈ (groupedEntries d).groups) : b.2 = d.entriesIn b.1 := by
    rw [← entries_groupedEntries h, ParameterGroups.entries, (lookup_eq_some_iff_mem hnd).2 hb]
    rfl
  constructor
  · intro hb
    exact ⟨(mem_keys_groupedEntries h _).1 (List.mem_map_of_mem hb), value hb⟩
  · rintro ⟨hg, he⟩
    obtain ⟨b, hb, hb1⟩ := List.mem_map.1 ((mem_keys_groupedEntries h _).2 hg)
    have : b = bucket := Prod.ext hb1 (by rw [value hb, he, hb1])
    exact this ▸ hb

/-- The place of a group in the output: the default group comes first, then the others by name. -/
private def groupRank (group : String) : Lex (Bool × String) := toLex (group != defaultGroup, group)

private theorem groupBefore_iff (a b : String) :
    ParameterGroups.groupBefore a b = true ↔ groupRank a < groupRank b := by
  unfold ParameterGroups.groupBefore groupRank
  rw [Prod.Lex.toLex_lt_toLex]
  have other {g : String} (hg : g ≠ defaultGroup) : (g == defaultGroup) = false := beq_false_of_ne hg
  by_cases ha : a = defaultGroup <;> by_cases hb : b = defaultGroup
  · subst ha hb
    simp only [bne, BEq.rfl, Bool.not_true, if_true, lt_irrefl, and_false, or_self, Bool.false_eq_true]
  · subst ha
    simp [bne, other hb]
  · subst hb
    simp [bne, other ha]
  · simp only [bne, other ha, other hb, Bool.not_false, Bool.false_eq_true, if_false, Bool.true_and,
      decide_eq_true_eq, lt_irrefl, true_and, false_or]

theorem mem_otherGroups {group : String} :
    group ∈ d.otherGroups ↔ group ≠ defaultGroup ∧ group ∈ d.namedGroups := by
  simp [Declaration.otherGroups]

theorem sortedLT_otherGroups : d.otherGroups.SortedLT := Finset.sortedLT_sort _

/-- The buckets in the order of the output: that of the default group, if there is one, and the others by name. -/
theorem ordered_groupedEntries (h : parameterErrors d = []) :
    (groupedEntries d).ordered =
      (if d.entriesIn defaultGroup = [] then [] else [(defaultGroup, d.entriesIn defaultGroup)]) ++
        d.otherGroups.map fun group => (group, d.entriesIn group) := by
  -- the sorted form is the only list in this order with these elements
  refine sortBy_unique (fun bucket : String × List ParameterEntry => groupRank bucket.1)
    (fun a b => groupBefore_iff a.1 b.1) ?_ ?_ ?_
  · have hinj : Function.Injective groupRank := fun a b hab => (Prod.ext_iff.1 (toLex.injective hab)).2
    have := (nodup_keys_groupedEntries h).map hinj
    rwa [ParameterGroups.keys, List.map_map] at this
  · have hothers : (d.otherGroups.map fun group => (group, d.entriesIn group)).Pairwise
        fun a b => groupRank a.1 < groupRank b.1 := by
      rw [List.pairwise_map]
      refine List.Pairwise.imp_of_mem ?_ sortedLT_otherGroups.pairwise
      intro a b ha hb hab
      rw [← groupBefore_iff]
      simp [ParameterGroups.groupBefore, (mem_otherGroups.1 ha).1, (mem_otherGroups.1 hb).1, hab]
    split
    · exact hothers
    · rw [List.cons_append, List.nil_append, List.pairwise_cons]
      refine ⟨fun b hb => ?_, hothers⟩
      obtain ⟨group, hg, rfl⟩ := List.mem_map.1 hb
      rw [← groupBefore_iff]
      simp [ParameterGroups.groupBefore, (mem_otherGroups.1 hg).1]
  · rintro ⟨group, es⟩
    rw [mem_groups_groupedEntries h, List.mem_append, List.mem_map]
    have hothers : (∃ g ∈ d.otherGroups, (g, d.entriesIn g) = (group, es)) ↔
        (group ≠ defaultGroup ∧ group ∈ d.namedGroups) ∧ es = d.entriesIn group := by
      constructor
      · rintro ⟨g, hg, he⟩
        obtain ⟨rfl, rfl⟩ := Prod.mk.inj he
        exact ⟨mem_otherGroups.1 hg, rfl⟩
      · rintro ⟨hg, rfl⟩
        exact ⟨group, mem_otherGroups.2 hg, rfl⟩
    rw [hothers]
    by_cases hg : group = defaultGroup
    · subst hg
      have hn := mem_namedGroups_iff h defaultGroup
      by_cases he : d.entriesIn defaultGroup = []
      · simp only [hn, he, ne_eq, not_true, false_and, if_true, List.not_mem_nil, or_self]
      · simp only [hn, he, ne_eq, not_true, not_false_iff, true_and, false_and, if_false, List.mem_singleton,
          Prod.mk.injEq, or_false]
    · have hd : (group, es) ∉ (if d.entriesIn defaultGroup = [] then [] else
          [(defaultGroup, d.entriesIn defaultGroup)]) := by
        split
        · exact List.not_mem_nil
        · rw [List.mem_singleton, Prod.mk.injEq]
          exact fun he => hg he.1
      simp only [hd, hg, ne_eq, not_false_iff, true_and, false_or]

/-! ### Clashes -/

/-- What is new among several things is the first of them, and what is new among the others once the first was seen. -/
private theorem new_cons_iff {α : Type} (key : α → String) (seen : List (String × String)) (a : α) (rest : List α)
    (value : String) :
    (((a :: rest).map key).Nodup ∧ ∀ b ∈ a :: rest, seen.lookup (key b) = none) ↔
      seen.lookup (key a) = none ∧ (rest.map key).Nodup ∧ ∀ b ∈ rest, ((key a, value) :: seen).lookup (key b) = none := by
  have hlookup : ∀ b, ((key a, value) :: seen).lookup (key b) = none ↔ key b ≠ key a ∧ seen.lookup (key b) = none := by
    intro b
    by_cases hb : key b = key a
    · simp [hb]
    · rw [List.lookup_cons, beq_false_of_ne hb]
      simp [hb]
  simp only [List.map_cons, List.nodup_cons, List.forall_mem_cons, hlookup, List.mem_map, not_exists, not_and]
  constructor
  · rintro ⟨⟨hne, hnd⟩, ha, hrest⟩
    exact ⟨ha, hnd, fun b hb => ⟨hne b hb, hrest b hb⟩⟩
  · rintro ⟨ha, hnd, hrest⟩
    exact ⟨⟨fun b hb => (hrest b hb).1, hnd⟩, ha, fun b hb => (hrest b hb).2⟩

/-- The entries of a group do not clash exactly if their arguments differ, and also from those seen before. -/
private theorem argumentClashes_eq_nil_iff {group : String} {seen : List (String × String)} {es : List ParameterEntry} :
    argumentClashes d group seen es = [] ↔
      (es.map fun e => argumentName e.key []).Nodup ∧ ∀ e ∈ es, seen.lookup (argumentName e.key []) = none := by
  induction es generalizing seen with
  | nil => simp [argumentClashes]
  | cons e rest ih =>
    rw [argumentClashes, List.append_eq_nil_iff, ih, new_cons_iff (fun e => argumentName e.key []) seen e rest e.key]
    refine and_congr_left fun _ => ?_
    cases seen.lookup (argumentName e.key []) <;> simp

/-- Groups do not clash exactly if their methods differ, and also from those seen before, and the entries of each of them
have different arguments. -/
theorem groupClashes_eq_nil_iff {owners : List (String × String)} {groups : List (String × List ParameterEntry)} :
    groupClashes d owners groups = [] ↔
      ((groups.map fun bucket => targetMethodName d.name (some bucket.1)).Nodup ∧
        ∀ bucket ∈ groups, owners.lookup (targetMethodName d.name (some bucket.1)) = none) ∧
      ∀ bucket ∈ groups, (bucket.2.map fun e => argumentName e.key []).Nodup := by
  induction groups generalizing owners with
  | nil => simp [groupClashes]
  | cons bucket rest ih =>
    obtain ⟨group, entries⟩ := bucket
    have harguments : argumentClashes d group [] entries = [] ↔ (entries.map fun e => argumentName e.key []).Nodup := by
      rw [argumentClashes_eq_nil_iff]
      exact and_iff_left fun _ _ => rfl
    rw [groupClashes, List.append_eq_nil_iff, List.append_eq_nil_iff, ih, harguments,
      new_cons_iff (fun bucket : String × List ParameterEntry => targetMethodName d.name (some bucket.1)) owners
        (group, entries) rest group, List.forall_mem_cons]
    cases owners.lookup (targetMethodName d.name (some group)) <;> simp
    tauto

end Declaration

end NavFactory
