import Mathlib.Data.List.FinRange
import NavFactory.Proofs.Acceptance

/-!
# The class that stands for a name

Of the classes with a marker and one name the first counts, by the path of its module and then by its place in the
list of declarations (`LeadsAt`).  The selected classes are exactly these, one for each name; every other declaration
with the marker is refused with one error of its own (`Declaration.refusal?`), and nothing else is reported
(`select_leadsAt`).
-/

namespace NavFactory

/-- Whether a declaration is a class with a marker. -/
def Declaration.isMarkedClass (d : Declaration) (marker : String) : Prop :=
  d.kind = .classDefinition ∧ d.carries marker

instance (d : Declaration) (marker : String) : Decidable (d.isMarkedClass marker) :=
  inferInstanceAs (Decidable (_ ∧ _))

/-- The class at a position comes first of those with a marker and its name: no other is in a module with a smaller
path, and none in front of it is in the same module. -/
@[mk_iff]
structure LeadsAt (ds : List Declaration) (marker : String) (i : Fin ds.length) : Prop where
  isMarkedClass : ds[i].isMarkedClass marker
  first : ∀ j : Fin ds.length, ds[j].isMarkedClass marker → ds[j].name = ds[i].name →
    ds[i].namespaceName ≤ ds[j].namespaceName ∧ (ds[j].namespaceName = ds[i].namespaceName → i ≤ j)

instance (ds : List Declaration) (marker : String) (i : Fin ds.length) : Decidable (LeadsAt ds marker i) :=
  decidable_of_iff _ (leadsAt_iff ds marker i).symm

/-- The error for a declaration with a marker that is not selected: it is no class, or its name is that of one of the
selected classes. -/
def Declaration.refusal? (d : Declaration) (marker : String) (selected : List Selected) : Option Diagnostic :=
  match d.candidate? marker with
  | none => d.misuse? marker
  | some s => (selected.find? (·.name = s.name)).map (nameClash marker · s)

section Leading

variable {ds : List Declaration} {marker : String} {s : Selected} {i : Fin ds.length}

/-! ### The first of a name in sorted order -/

/-- In sorted order the first of a name is the first in the smallest module, since sorting keeps the order within each
module. -/
private theorem find?_sortBy_before_iff {l : List Selected} :
    (sortBy Selected.before l).find? (·.name = s.name) = some s ↔
      l.find? (fun c => toLex (c.name, c.namespaceName) = toLex (s.name, s.namespaceName)) = some s ∧
        ∀ c ∈ l, c.name = s.name → s.namespaceName ≤ c.namespaceName := by
  have hsorted := pairwise_sortBy before_iff l
  have hstable : (sortBy Selected.before l).find? (fun c =>
      toLex (c.name, c.namespaceName) = toLex (s.name, s.namespaceName)) =
        l.find? fun c => toLex (c.name, c.namespaceName) = toLex (s.name, s.namespaceName) := by
    rw [← List.head?_filter, ← List.head?_filter, filter_sortBy before_iff]
  have hkey : ∀ c : Selected, toLex (c.name, c.namespaceName) = toLex (s.name, s.namespaceName) ↔
      c.name = s.name ∧ c.namespaceName = s.namespaceName := fun c => by rw [toLex_inj, Prod.mk.injEq]
  have hmem : ∀ c : Selected, c ∈ l ↔ c ∈ sortBy Selected.before l := fun _ => mem_sortBy.symm
  rw [← hstable, List.find?_eq_some_iff_append, List.find?_eq_some_iff_append]
  simp only [hkey, decide_true, true_and, Bool.not_eq_true', decide_eq_false_iff_not]
  constructor
  · rintro ⟨a, b, hl, ha⟩
    refine ⟨⟨a, b, hl, fun x hx hk => ha x hx hk.1⟩, fun c hc hname => ?_⟩
    rw [hmem, hl, List.mem_append, List.mem_cons] at hc
    rw [hl, List.pairwise_append, List.pairwise_cons] at hsorted
    rcases hc with hc | rfl | hc
    · exact absurd hname (ha c hc)
    · exact le_rfl
    · rcases Prod.Lex.toLex_le_toLex.1 (hsorted.2.1.1 c hc) with hlt | ⟨-, hle⟩
      · exact absurd hname hlt.ne'
      · exact hle
  · rintro ⟨⟨a, b, hl, ha⟩, hleast⟩
    refine ⟨a, b, hl, fun x hx hname => ha x hx ⟨hname, ?_⟩⟩
    have hxl : x ∈ l := by
      rw [hmem, hl]
      exact List.mem_append_left _ hx
    rw [hl, List.pairwise_append] at hsorted
    rcases Prod.Lex.toLex_le_toLex.1 (hsorted.2.2 x hx s List.mem_cons_self) with hlt | ⟨-, hle⟩
    · exact absurd hname hlt.ne
    · exact le_antisymm hle (hleast x hxl hname)

/-- In what is made of the elements of a list the first element with a property is that of the first position where
there is one. -/
private theorem find?_filterMap_eq_some_iff {α β : Type} {f : α → Option β} {p : β → Bool} {l : List α} {b : β}
    (hp : p b) :
    (l.filterMap f).find? p = some b ↔
      ∃ i : Fin l.length, f l[i] = some b ∧ ∀ j < i, ∀ c, f l[j] = some c → p c = false := by
  rw [List.find?_filterMap, Option.bind_eq_some_iff]
  constructor
  · rintro ⟨a, ha, hb⟩
    obtain ⟨-, i, hi, rfl, hbefore⟩ := List.find?_eq_some_iff_getElem.1 ha
    refine ⟨⟨i, hi⟩, hb, fun j hj c hc => ?_⟩
    have := hbefore j hj
    rw [Fin.getElem_fin] at hc
    simpa [hc] using this
  · rintro ⟨i, hb, hbefore⟩
    rw [Fin.getElem_fin] at hb
    refine ⟨l[i], List.find?_eq_some_iff_getElem.2 ⟨by simp [hb, hp], i, i.2, rfl, fun j hj => ?_⟩, hb⟩
    cases hc : f l[j] with
    | none => rfl
    | some c => simp [hbefore ⟨j, hj.trans i.2⟩ hj c hc]

/-! ### Selected classes -/

private theorem isMarkedClass_iff {d : Declaration} :
    d.isMarkedClass marker ↔ ∃ s, d.candidate? marker = some s := by
  unfold Declaration.isMarkedClass Declaration.carries Declaration.candidate?
  cases d.firstUsage? marker <;> by_cases hk : d.kind = .classDefinition <;> simp [hk]

private theorem names_of_candidate? {d : Declaration} (h : d.candidate? marker = some s) :
    s.name = d.name ∧ s.namespaceName = d.namespaceName := by
  obtain ⟨rfl, -⟩ := candidate?_eq_some_iff.1 h
  exact ⟨rfl, rfl⟩

/-- A class is selected exactly if it leads where it stands. -/
theorem mem_select_iff_leadsAt :
    s ∈ (select ds marker).1 ↔ ∃ i, LeadsAt ds marker i ∧ ds[i].candidate? marker = some s := by
  have hselect : (select ds marker).1 = (firstOfEachName marker [] (sortBy Selected.before
      (ds.filterMap (·.candidate? marker)))).1 := by rw [select, candidates_eq]
  rw [hselect, mem_firstOfEachName_iff, find?_sortBy_before_iff, find?_filterMap_eq_some_iff (by simp)]
  constructor
  · rintro ⟨⟨i, hi, hbefore⟩, hleast⟩
    obtain ⟨hname, hmodule⟩ := names_of_candidate? hi
    refine ⟨i, ⟨isMarkedClass_iff.2 ⟨s, hi⟩, fun j hj hjname => ?_⟩, hi⟩
    obtain ⟨c, hc⟩ := isMarkedClass_iff.1 hj
    obtain ⟨hcname, hcmodule⟩ := names_of_candidate? hc
    refine ⟨?_, fun hjmodule => le_of_not_gt fun hlt => ?_⟩
    · rw [← hmodule, ← hcmodule]
      exact hleast c (List.mem_filterMap.2 ⟨_, List.getElem_mem _, hc⟩) (by rw [hcname, hjname, hname])
    · have hother := hbefore j hlt c hc
      rw [decide_eq_false_iff_not, toLex_inj, Prod.mk.injEq, hcname, hcmodule, hname, hmodule] at hother
      exact hother ⟨hjname, hjmodule⟩
  · rintro ⟨i, hleads, hi⟩
    obtain ⟨hname, hmodule⟩ := names_of_candidate? hi
    refine ⟨⟨i, hi, fun j hlt c hc => ?_⟩, fun c hc hcs => ?_⟩
    · obtain ⟨hcname, hcmodule⟩ := names_of_candidate? hc
      rw [decide_eq_false_iff_not, toLex_inj, Prod.mk.injEq, hcname, hcmodule, hname, hmodule]
      rintro ⟨hjname, hjmodule⟩
      exact absurd hlt ((hleads.first j (isMarkedClass_iff.2 ⟨c, hc⟩) hjname).2 hjmodule).not_gt
    · obtain ⟨d, hd, hdc⟩ := List.mem_filterMap.1 hc
      obtain ⟨j, hj, rfl⟩ := List.mem_iff_getElem.1 hd
      obtain ⟨hcname, hcmodule⟩ := names_of_candidate? hdc
      rw [hcmodule, hmodule]
      exact (hleads.first ⟨j, hj⟩ (isMarkedClass_iff.2 ⟨c, hdc⟩) (by rw [← hname, ← hcs, hcname]; rfl)).1

/-- Each name of a class with the marker is that of a selected class, and no other is. -/
theorem exists_mem_select_iff {name : String} :
    (∃ s ∈ (select ds marker).1, s.name = name) ↔ ∃ d ∈ ds, d.isMarkedClass marker ∧ d.name = name := by
  constructor
  · rintro ⟨s, hs, rfl⟩
    obtain ⟨i, hleads, hi⟩ := mem_select_iff_leadsAt.1 hs
    exact ⟨ds[i], List.getElem_mem _, hleads.isMarkedClass, (names_of_candidate? hi).1.symm⟩
  · rintro ⟨d, hd, hmarked, rfl⟩
    obtain ⟨c, hc⟩ := isMarkedClass_iff.1 hmarked
    have hmem : c ∈ sortBy Selected.before (candidates marker ds).1 := by
      rw [mem_sortBy, candidates_eq]
      exact List.mem_filterMap.2 ⟨d, hd, hc⟩
    obtain ⟨s, hs⟩ := Option.isSome_iff_exists.1 (List.find?_isSome (p := fun s : Selected => s.name = d.name).2
      ⟨c, hmem, by simp [(names_of_candidate? hc).1]⟩)
    have hname : s.name = d.name := by simpa using List.find?_some hs
    exact ⟨s, mem_firstOfEachName_iff.2 (hname ▸ hs), hname⟩

/-! ### Refused declarations -/

theorem isErrorOn_of_refusal? {d : Declaration} {selected : List Selected} {e : Diagnostic}
    (h : d.refusal? marker selected = some e) : e.IsErrorOn d := by
  unfold Declaration.refusal? at h
  split at h
  · unfold Declaration.misuse? at h
    split at h
    · exact ⟨_, (Option.some.inj h).symm⟩
    · cases h
  · rename_i s hs
    obtain ⟨first, -, rfl⟩ := Option.map_eq_some_iff.1 h
    obtain ⟨rfl, -⟩ := candidate?_eq_some_iff.1 hs
    exact ⟨_, rfl⟩

/-- The refusals of declarations with the marker are those of the candidates among them and of those that are no
classes. -/
private theorem perm_refusals (marker : String) (selected : List Selected) (l : List Declaration) :
    ((l.filter (·.carries marker)).map (·.refusal? marker selected)).Perm
      ((l.filterMap (·.misuse? marker)).map some ++
        (l.filterMap (·.candidate? marker)).map fun s =>
          (selected.find? (·.name = s.name)).map (nameClash marker · s)) := by
  induction l with
  | nil => exact List.Perm.refl _
  | cons d l ih =>
    by_cases hd : d.carries marker
    · rw [List.filter_cons_of_pos (by simpa using hd), List.map_cons]
      by_cases hk : d.kind = .classDefinition
      · obtain ⟨s, hs⟩ := isMarkedClass_iff.1 ⟨hk, hd⟩
        have hmisuse : d.misuse? marker = none := by simp [Declaration.misuse?, hk]
        have hrefusal : d.refusal? marker selected =
            (selected.find? (·.name = s.name)).map (nameClash marker · s) := by simp [Declaration.refusal?, hs]
        rw [List.filterMap_cons_none hmisuse, List.filterMap_cons_some hs, List.map_cons, hrefusal]
        exact (ih.cons _).trans List.perm_middle.symm
      · have hcandidate : d.candidate? marker = none := by simp [Declaration.candidate?, hk]
        have hmisuse : d.misuse? marker = some (notAClass marker d) := by simp [Declaration.misuse?, hk, hd]
        have hrefusal : d.refusal? marker selected = some (notAClass marker d) := by
          simp [Declaration.refusal?, hcandidate, hmisuse]
        rw [List.filterMap_cons_none hcandidate, List.filterMap_cons_some hmisuse, List.map_cons, hrefusal]
        exact ih.cons _
    · have hcandidate : d.candidate? marker = none := by
        rw [Option.eq_none_iff_forall_ne_some]
        exact fun s hs => hd (isMarkedClass_iff.2 ⟨s, hs⟩).2
      have hmisuse : d.misuse? marker = none := by simp [Declaration.misuse?, hd]
      rw [List.filter_cons_of_neg (by simpa using hd), List.filterMap_cons_none hcandidate,
        List.filterMap_cons_none hmisuse]
      exact ih

/-- Different positions lead for different names. -/
private theorem LeadsAt.inj {j : Fin ds.length} (hi : LeadsAt ds marker i) (hj : LeadsAt ds marker j)
    (hname : ds[i].name = ds[j].name) : i = j := by
  obtain ⟨hle, hi'⟩ := hi.first j hj.isMarkedClass hname.symm
  obtain ⟨hle', hj'⟩ := hj.first i hi.isMarkedClass hname
  have hmodule := le_antisymm hle hle'
  exact le_antisymm (hi' hmodule.symm) (hj' hmodule)

/-- The positions that lead, and those that do not. -/
private theorem perm_positions (ds : List Declaration) (marker : String) :
    (((List.finRange ds.length).filter (LeadsAt ds marker ·)).map (ds[·]) ++
      ((List.finRange ds.length).filter (¬LeadsAt ds marker ·)).map (ds[·])).Perm ds := by
  have hall : (List.finRange ds.length).map (ds[·]) = ds := List.map_getElem_finRange ds
  have hsplit := (List.filter_append_perm (fun i => decide (LeadsAt ds marker i)) (List.finRange ds.length)).map (ds[·])
  rw [List.map_append, hall] at hsplit
  simpa only [decide_not] using hsplit

/-- The selected classes are the candidates at the positions that lead. -/
private theorem perm_select (ds : List Declaration) (marker : String) :
    (select ds marker).1.Perm
      ((((List.finRange ds.length).filter (LeadsAt ds marker ·)).map (ds[·])).filterMap (·.candidate? marker)) := by
  have hnodup : ((((List.finRange ds.length).filter (LeadsAt ds marker ·)).map (ds[·])).filterMap
      (·.candidate? marker)).Nodup := by
    rw [List.filterMap_map, List.Nodup, List.pairwise_filterMap]
    refine (((List.nodup_finRange _).filter _).imp_of_mem fun {i j} hi hj hne => ?_)
    intro s hs s' hs' he
    rw [List.mem_filter, decide_eq_true_iff] at hi hj
    refine hne (hi.2.inj hj.2 ?_)
    rw [← (names_of_candidate? hs).1, ← (names_of_candidate? hs').1, he]
  refine (List.perm_ext_iff_of_nodup (nodup_name_select ds marker).of_map hnodup).2 fun s => ?_
  rw [mem_select_iff_leadsAt, List.filterMap_map, List.mem_filterMap]
  simp only [List.mem_filter, List.mem_finRange, true_and, decide_eq_true_iff, Function.comp_apply]

/-- What is found under the name of a selected class is this class. -/
private theorem find?_select (hs : s ∈ (select ds marker).1) {name : String} (hname : s.name = name) :
    (select ds marker).1.find? (·.name = name) = some s := by
  obtain ⟨r, hr⟩ := Option.isSome_iff_exists.1 (List.find?_isSome (p := fun s : Selected => s.name = name).2
    ⟨s, hs, by simpa using hname⟩)
  have hrname : r.name = name := by simpa using List.find?_some hr
  have hsame := List.inj_on_of_nodup_map (nodup_name_select ds marker) (List.mem_of_find?_eq_some hr) hs
    (hrname.trans hname.symm)
  rw [hr, hsame]

/-- The errors of a selection are the refusals of the declarations with the marker that do not lead, one for each. -/
theorem perm_errors_select (ds : List Declaration) (marker : String) :
    ((select ds marker).2.map some).Perm
      (((List.finRange ds.length).filter fun i => ds[i].carries marker ∧ ¬LeadsAt ds marker i).map
        fun i => ds[i].refusal? marker (select ds marker).1) := by
  obtain ⟨clashes, hperm, hproblems, hnames⟩ := exists_clashes ds marker
  have hpositions := perm_positions ds marker
  have hselect := perm_select ds marker
  generalize hlead : ((List.finRange ds.length).filter (LeadsAt ds marker ·)).map (ds[·]) = leading at *
  generalize hrest : ((List.finRange ds.length).filter (¬LeadsAt ds marker ·)).map (ds[·]) = others at *
  have hmisuse : leading.filterMap (·.misuse? marker) = [] := by
    rw [List.filterMap_eq_nil_iff, ← hlead, List.forall_mem_map]
    intro i hi
    have hclass := (of_decide_eq_true (List.mem_filter.1 hi).2).isMarkedClass.1
    exact if_neg fun h => h.2 hclass
  -- the classes whose name clashes are the candidates that do not lead
  have hclashes : (clashes.map (·.2)).Perm (others.filterMap (·.candidate? marker)) := by
    rw [← List.perm_append_left_iff ((select ds marker).1)]
    refine hperm.trans ?_
    rw [candidates_eq]
    refine (hpositions.symm.filterMap _).trans ?_
    rw [List.filterMap_append]
    exact hselect.symm.append_right _
  have hfound : clashes.map (fun c => some (nameClash marker c.1 c.2)) = (clashes.map (·.2)).map fun s =>
      ((select ds marker).1.find? (·.name = s.name)).map (nameClash marker · s) := by
    rw [List.map_map]
    refine List.map_congr_left fun c hc => ?_
    rw [Function.comp_apply, find?_select (hnames c hc).1 (hnames c hc).2, Option.map_some]
  have hrefused : ((List.finRange ds.length).filter fun i => ds[i].carries marker ∧ ¬LeadsAt ds marker i).map
      (fun i => ds[i].refusal? marker (select ds marker).1) =
        (others.filter (·.carries marker)).map (·.refusal? marker (select ds marker).1) := by
    rw [← hrest, List.filter_map, List.map_map, List.filter_filter]
    simp only [Function.comp_def, Bool.decide_and]
  calc (select ds marker).2.map some
    _ = (ds.filterMap (·.misuse? marker)).map some ++ clashes.map fun c => some (nameClash marker c.1 c.2) := by
      rw [hproblems, candidates_eq, List.map_append, List.map_map]
      rfl
    List.Perm _ ((others.filterMap (·.misuse? marker)).map some ++ (others.filterMap (·.candidate? marker)).map fun s =>
        ((select ds marker).1.find? (·.name = s.name)).map (nameClash marker · s)) := by
      refine List.Perm.append ?_ ?_
      · have hmisused := (hpositions.filterMap (·.misuse? marker)).map some
        rw [List.filterMap_append, hmisuse, List.nil_append] at hmisused
        exact hmisused.symm
      · rw [hfound]
        exact hclashes.map _
    List.Perm _ ((others.filter (·.carries marker)).map (·.refusal? marker (select ds marker).1)) :=
      (perm_refusals marker _ others).symm
    _ = _ := hrefused.symm

/-- A selection holds one class for each name that a class with the marker has: the one in the smallest module and there
the earliest, with its first use of the marker.  Each other declaration with the marker has one error, and there are no
other errors. -/
theorem select_leadsAt (ds : List Declaration) (marker : String) :
    (select ds marker).1.Pairwise (fun a b => a.name < b.name) ∧
      (∀ name, (∃ s ∈ (select ds marker).1, s.name = name) ↔ ∃ d ∈ ds, d.isMarkedClass marker ∧ d.name = name) ∧
      (∀ s, s ∈ (select ds marker).1 ↔
        ∃ i, LeadsAt ds marker i ∧ s.declaration = ds[i] ∧ ds[i].firstUsage? marker = some s.usage) ∧
      ((select ds marker).2.map some).Perm
        (((List.finRange ds.length).filter fun i => ds[i].carries marker ∧ ¬LeadsAt ds marker i).map
          fun i => ds[i].refusal? marker (select ds marker).1) ∧
      ∀ (d : Declaration) (e : Diagnostic), d.refusal? marker (select ds marker).1 = some e → e.IsErrorOn d := by
  refine ⟨pairwise_name_select ds marker, fun _ => exists_mem_select_iff, fun s => ?_, perm_errors_select ds marker,
    fun _ _ => isErrorOn_of_refusal?⟩
  rw [mem_select_iff_leadsAt]
  refine exists_congr fun i => and_congr_right fun hleads => ?_
  rw [candidate?_eq_some_iff]
  exact and_congr_right fun _ => and_iff_right hleads.isMarkedClass.1

end Leading

end NavFactory
