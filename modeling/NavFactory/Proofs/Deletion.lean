import Mathlib.Algebra.BigOperators.Group.List.Basic
import Mathlib.Algebra.GroupWithZero.Nat
import NavFactory.Proofs.Accounting

/-!
# Deleted declarations

A declaration without methods may still keep another one from having them: of several classes of one name only the
first is selected, even if it is then rejected.  Deleting such a class lets the next one of its name come forward
(`Processor.succeedsAt`); in all other cases the same classes stay selected.  So a container is the same without a
declaration that contributes nothing to it exactly if the class that comes forward, if there is one, is itself rejected
(`container_eraseIdx_iff`).
-/

namespace NavFactory

/-! ### Selection -/

section Selection

variable {ds : List Declaration} {marker : String}

/-- The candidates among the declarations before a position, that at the position, if it is one, and those after. -/
private theorem fst_candidates_split (marker : String) {i : Nat} (hi : i < ds.length) :
    (candidates marker ds).1 = (ds.take i).filterMap (·.candidate? marker) ++
      ((ds[i].candidate? marker).toList ++ (ds.drop (i + 1)).filterMap (·.candidate? marker)) := by
  have hsplit : ds = ds.take i ++ ds[i] :: ds.drop (i + 1) := by rw [← List.drop_eq_getElem_cons, List.take_append_drop]
  rw [candidates_eq]
  conv_lhs => rw [hsplit]
  rw [List.filterMap_append]
  cases hd : ds[i].candidate? marker with
  | none => rw [List.filterMap_cons_none hd, Option.toList_none, List.nil_append]
  | some s => rw [List.filterMap_cons_some hd, Option.toList_some, List.singleton_append]

private theorem fst_candidates_eraseIdx (ds : List Declaration) (marker : String) (i : Nat) :
    (candidates marker (ds.eraseIdx i)).1 =
      (ds.take i).filterMap (·.candidate? marker) ++ (ds.drop (i + 1)).filterMap (·.candidate? marker) := by
  rw [candidates_eq, List.eraseIdx_eq_take_drop_succ, List.filterMap_append]

/-- A class after one of its name is not kept. -/
private theorem firstOfEachName_of_earlier {front : List Selected} {k s : Selected} (hk : k ∈ front)
    (hname : k.name = s.name) (back : List Selected) :
    (firstOfEachName marker [] (front ++ s :: back)).1 = (firstOfEachName marker [] (front ++ back)).1 := by
  have hs : ¬∀ k ∈ front, k.name ≠ s.name := fun h => h k hk hname
  rw [firstOfEachName_append, firstOfEachName_append, firstOfEachName_cons, List.filter_cons_of_neg (by simpa using hs),
    List.filter_filter]
  refine congrArg _ (List.filter_congr fun r _ => ?_)
  rw [← Bool.decide_and, decide_eq_decide]
  exact ⟨And.left, fun h => ⟨h, fun he => h k hk (hname.trans he)⟩⟩

/-- A class under a new name is kept, in place of those of its name after it. -/
private theorem firstOfEachName_of_new {front : List Selected} {s : Selected} (hnew : ∀ k ∈ front, k.name ≠ s.name)
    (back : List Selected) :
    (firstOfEachName marker [] (front ++ s :: back)).1 = (firstOfEachName marker [] front).1 ++
      s :: ((firstOfEachName marker [] back).1.filter fun r => ∀ k ∈ front, k.name ≠ r.name).filter (s.name ≠ ·.name) := by
  rw [firstOfEachName_append, firstOfEachName_cons, List.filter_cons_of_pos (by simpa using hnew), List.filter_filter,
    List.filter_filter]
  refine congrArg (fun rest => _ ++ s :: rest) (List.filter_congr fun r _ => ?_)
  rw [Bool.and_comm]

/-- The declaration at a position is that of a selected class, before which others are selected.  Without it the classes
that come afterwards are the same, but for a class of the same name that may come forward. -/
structure Vacates (marker : String) (ds : List Declaration) (i : Nat) (first : Selected)
    (front back : List Selected) : Prop where
  declaration : ds[i]? = some first.declaration
  not_earlier : first.declaration ∉ ds.take i
  select_eq : (select ds marker).1 = front ++ first :: back.filter (first.name ≠ ·.name)
  select_eraseIdx_eq : (select (ds.eraseIdx i) marker).1 = front ++ back

/-- Without one of the declarations the same classes are selected, or it is that of a selected class. -/
theorem select_eraseIdx (marker : String) {i : Nat} (hi : i < ds.length) :
    (select (ds.eraseIdx i) marker).1 = (select ds marker).1 ∨
      ∃ first front back, Vacates marker ds i first front back := by
  have hwith := fst_candidates_split marker hi
  have hwithout := fst_candidates_eraseIdx ds marker i
  cases hd : ds[i].candidate? marker with
  | none =>
    rw [hd, Option.toList_none, List.nil_append, ← hwithout] at hwith
    left
    simp only [select, hwith]
  | some s =>
    rw [hd, Option.toList_some, List.singleton_append] at hwith
    have hdeclaration := (candidate?_eq_some_iff.1 hd).1
    obtain ⟨front, back, hsort, hsort', hfront⟩ := exists_sortBy_append before_iff
      ((ds.take i).filterMap (·.candidate? marker)) ((ds.drop (i + 1)).filterMap (·.candidate? marker)) s
    by_cases hname : ∃ k ∈ front, k.name = s.name
    · -- the declaration has no part in the selection, since a class of its name comes first
      left
      obtain ⟨k, hk, hks⟩ := hname
      simp only [select, hwith, hwithout, hsort, hsort', firstOfEachName_of_earlier hk hks]
    · right
      push Not at hname
      refine ⟨s, (firstOfEachName marker [] front).1,
        (firstOfEachName marker [] back).1.filter fun r => ∀ k ∈ front, k.name ≠ r.name, ?_⟩
      constructor
      case declaration => rw [hdeclaration, List.getElem?_eq_getElem hi]
      case not_earlier =>
        -- an equal declaration before it would be sorted in front
        rw [hdeclaration]
        exact fun hmem => hname s (hfront s (List.mem_filterMap.2 ⟨_, hmem, hd⟩) le_rfl) rfl
      case select_eq => simp only [select, hwith, hsort, firstOfEachName_of_new hname]
      case select_eraseIdx_eq => simp only [select, hwithout, hsort', firstOfEachName_append]

theorem Vacates.mem_select {i : Nat} {first : Selected} {front back : List Selected}
    (h : Vacates marker ds i first front back) : first ∈ (select ds marker).1 := by
  rw [h.select_eq]
  exact List.mem_append_right _ List.mem_cons_self

end Selection

/-! ### Containers of selected classes -/

namespace Processor

/-- Whether a class that a processor selects has methods. -/
def keeps : Processor → Selected → Bool
  | targets t, s => t.accepts s
  | bundles, s => !hasArguments s
  | plugin _, _ => false

/-- Whether a selected class ends the round, because a value of its marker has too many digits for the error about
it. -/
def halts : Processor → Selected → Prop
  | targets t, s => t.isUnprintable s
  | bundles, _ => False
  | plugin _, _ => False

/-- Whether a selected class is rejected: it has no methods, and the errors about it can be written. -/
def rejects (p : Processor) (s : Selected) : Prop := p.keeps s = false ∧ ¬p.halts s

/-- The container of the classes that have methods. -/
def assemble (p : Processor) (containerName : String) (kept : List Selected) : Except Value.DigitLimit Container :=
  match p with
  | targets t => (t.build (targetImports t containerName) (kept.flatMap (·.planned))).map fun (methods, table) =>
    ⟨t.kind, containerName, t.module, t.docstring, table, methods⟩
  | bundles =>
    let (mapping, table) := (ImportTable.reserving [containerName]).use mappingType
    let (any, table) := table.use anyType
    let (methods, table) := accessors mapping any table kept
    .ok ⟨"bundle", containerName, "bundles", "Accessors rebuilding bundle-backed models.", table, methods⟩
  | plugin p => .ok ⟨p.kind, containerName, p.module, p.docstring, .reserving [], []⟩

/-- The number of methods of a class that has some. -/
def methodCount : Processor → Selected → Nat
  | targets _, s => s.plan.length
  | bundles, _ => 1
  | plugin _, _ => 0

/-- A processor makes a container of the selected classes that have methods, if none of the selected ones ends the
round. -/
theorem container_ok_iff {p : Processor} {ds : List Declaration} {containerName : String} {c : Container} :
    (p.container ds containerName).result = .ok c ↔
      (∀ s ∈ (select ds p.marker).1, ¬p.halts s) ∧
        p.assemble containerName ((select ds p.marker).1.filter p.keeps) = .ok c := by
  cases p with
  | targets t =>
    simp only [container, assemble, targetContainer_ok_iff, map_eq_ok_iff, Prod.exists, TargetKind.planned,
      TargetKind.accepted, @eq_comm _ c]
    rfl
  | bundles => exact ⟨fun h => ⟨fun _ _ => not_false, h⟩, And.right⟩
  | plugin plug => simp [container, assemble, halts]

theorem methodCount_pos {p : Processor} {s : Selected} (h : p.keeps s) : 0 < p.methodCount s := by
  cases p with
  | targets t =>
    obtain ⟨model, hv⟩ := accepts_iff.1 h
    exact List.length_pos_iff.2 (accepted_of_verdict hv).plan_ne_nil
  | bundles => exact Nat.one_pos
  | plugin plug => cases h

private theorem length_accessors (mapping any : String) (table : ImportTable) (models : List Selected) :
    (accessors mapping any table models).1.length = models.length := by
  induction models generalizing table with
  | nil => rfl
  | cons s rest ih => simp [accessors, ih]

/-- The methods of a container are those of its classes. -/
theorem length_methods {p : Processor} {containerName : String} {kept : List Selected} {c : Container}
    (h : p.assemble containerName kept = .ok c) : c.methods.length = (kept.map p.methodCount).sum := by
  cases p with
  | targets t =>
    obtain ⟨⟨methods, table⟩, hb, rfl⟩ := map_eq_ok_iff.1 h
    have hlength := (forall₂_build hb).length_eq
    simp only [List.length_flatMap, Selected.planned, List.length_map] at hlength
    exact hlength.symm
  | bundles =>
    obtain rfl : _ = c := Except.ok.inj h
    have hcount : kept.map bundles.methodCount = List.replicate kept.length 1 :=
      show kept.map (fun _ => 1) = _ from List.map_const'
    rw [hcount, List.sum_replicate_nat, Nat.mul_one]
    exact length_accessors _ _ _ _
  | plugin plug =>
    obtain rfl : _ = c := Except.ok.inj h
    have hcount : kept.map (plugin plug).methodCount = List.replicate kept.length 0 :=
      show kept.map (fun _ => 0) = _ from List.map_const'
    rw [hcount, List.sum_replicate_nat, Nat.mul_zero]
    rfl

/-! ### Deletion -/

/-- Whether the declaration at a position contributes a method; of equal declarations the first does. -/
def contributesAt (p : Processor) (ds : List Declaration) (containerName : String) (i : Nat) : Prop :=
  ∃ d, ds[i]? = some d ∧ d ∉ ds.take i ∧ ∃ m, (d, m) ∈ p.contributions ds containerName

/-- Whether a class is selected only once the declaration at a position is deleted. -/
def succeedsAt (p : Processor) (ds : List Declaration) (i : Nat) (s : Selected) : Prop :=
  s ∈ (select (ds.eraseIdx i) p.marker).1 ∧ s ∉ (select ds p.marker).1

end Processor

/-- The classes that contribute to the container of a built-in processor are those that have methods. -/
private theorem exists_contribution_of_keeps {p : Processor} {ds : List Declaration} {containerName : String}
    {c : Container} (h : (p.container ds containerName).result = .ok c) {s : Selected}
    (hs : s ∈ (select ds p.marker).1) (hkeeps : p.keeps s) :
    ∃ m, (s.declaration, m) ∈ p.contributions ds containerName := by
  cases p with
  | targets t => exact (exists_contribution_targets h _).2 ⟨s, hs, rfl, hkeeps⟩
  | bundles =>
    have harguments : ¬hasArguments s := by simpa [Processor.keeps] using hkeeps
    exact (exists_contribution_bundles ds containerName _).2 ⟨s, hs, rfl, harguments⟩
  | plugin plug => cases hkeeps

/-- If filtering a list does not change a sum over it, then the elements that are filtered out count for nothing. -/
private theorem eq_zero_of_sum_filter {α : Type} {f : α → Nat} {q : α → Bool} {l : List α}
    (h : (l.map f).sum = ((l.filter q).map f).sum) {a : α} (ha : a ∈ l) (hq : q a = false) : f a = 0 := by
  have hsplit : ((l.filter q).map f).sum + ((l.filter fun a => !q a).map f).sum = (l.map f).sum := by
    simpa using List.sum_map_filter_add_sum_map_filter_not (fun a => q a = true) f l
  have hzero : ((l.filter fun a => !q a).map f).sum = 0 := by omega
  exact List.sum_eq_zero_iff_forall_eq_nat.1 hzero _ (List.mem_map_of_mem (List.mem_filter.2 ⟨ha, by simp [hq]⟩))

section Successor

variable {p : Processor} {ds : List Declaration} {containerName : String} {c : Container} {i : Nat} {first : Selected}
  {front back : List Selected}

/-- The classes that come forward are those of the name that is free now. -/
private theorem succeedsAt_iff (h : Vacates p.marker ds i first front back) (s : Selected) :
    p.succeedsAt ds i s ↔ s ∈ back ∧ first.name = s.name ∧ s ≠ first := by
  have hnodup := nodup_name_select (ds.eraseIdx i) p.marker
  rw [h.select_eraseIdx_eq, List.map_append, List.nodup_append] at hnodup
  unfold Processor.succeedsAt
  rw [h.select_eq, h.select_eraseIdx_eq]
  simp only [List.mem_append, List.mem_cons, List.mem_filter, decide_eq_true_eq, not_or, not_and, ne_eq, not_not]
  constructor
  · rintro ⟨hs | hs, hfront, hne, hback⟩
    · exact absurd hs hfront
    · exact ⟨hs, hback hs, hne⟩
  · rintro ⟨hs, hname, hne⟩
    refine ⟨Or.inr hs, fun hfront => ?_, hne, fun _ => hname⟩
    exact hnodup.2.2 _ (List.mem_map_of_mem hfront) _ (List.mem_map_of_mem hs) rfl

/-- If the deleted class had no methods, the kept classes are those that are kept without it, but for one of its
name. -/
private theorem kept_eq (h : Vacates p.marker ds i first front back) (hkeeps : p.keeps first = false) :
    (select ds p.marker).1.filter p.keeps =
      front.filter p.keeps ++ (back.filter p.keeps).filter (first.name ≠ ·.name) := by
  rw [h.select_eq, List.filter_append, List.filter_cons_of_neg (by simp [hkeeps]), List.filter_filter,
    List.filter_filter]
  exact congrArg _ (List.filter_congr fun r _ => Bool.and_comm _ _)

/-- If the container is the same, then no class that comes forward has methods: there would be more than before. -/
private theorem keeps_eq_false_of_same (h : Vacates p.marker ds i first front back) (hkeeps : p.keeps first = false)
    (hwith : p.assemble containerName ((select ds p.marker).1.filter p.keeps) = .ok c)
    (hwithout : p.assemble containerName ((select (ds.eraseIdx i) p.marker).1.filter p.keeps) = .ok c) {s : Selected}
    (hs : p.succeedsAt ds i s) : p.keeps s = false := by
  obtain ⟨hback, hname, -⟩ := (succeedsAt_iff h s).1 hs
  by_contra hkept
  rw [Bool.not_eq_false] at hkept
  have hlength := (Processor.length_methods hwithout).symm.trans (Processor.length_methods hwith)
  rw [h.select_eraseIdx_eq, kept_eq h hkeeps, List.filter_append, List.map_append, List.map_append, List.sum_append,
    List.sum_append, Nat.add_left_cancel_iff] at hlength
  have hzero := eq_zero_of_sum_filter hlength (List.mem_filter.2 ⟨hback, hkept⟩) (by simp [hname])
  exact absurd hzero (Processor.methodCount_pos hkept).ne'

/-- If the classes that come forward are rejected as well, then none ends the round, and the same classes are kept. -/
private theorem same_of_rejects (h : Vacates p.marker ds i first front back) (hrejects : p.rejects first)
    (hhalts : ∀ s ∈ (select ds p.marker).1, ¬p.halts s) (hall : ∀ s, p.succeedsAt ds i s → p.rejects s) :
    (∀ s ∈ (select (ds.eraseIdx i) p.marker).1, ¬p.halts s) ∧
      (select (ds.eraseIdx i) p.marker).1.filter p.keeps = (select ds p.marker).1.filter p.keeps := by
  have hsame : ∀ s ∈ back, first.name = s.name → p.rejects s := by
    intro s hs hname
    by_cases hne : s = first
    · exact hne ▸ hrejects
    · exact hall s ((succeedsAt_iff h s).2 ⟨hs, hname, hne⟩)
  constructor
  · intro s hs
    by_cases hselected : s ∈ (select ds p.marker).1
    · exact hhalts s hselected
    · exact (hall s ⟨hs, hselected⟩).2
  · rw [kept_eq h hrejects.1, h.select_eraseIdx_eq, List.filter_append]
    refine congrArg _ (List.filter_eq_self.2 fun s hs => ?_).symm
    obtain ⟨hs, hkeeps⟩ := List.mem_filter.1 hs
    have hname : first.name ≠ s.name := fun hname => by
      rw [(hsame s hs hname).1] at hkeeps
      cases hkeeps
    simp [hname]

/-- A selected class whose declaration contributes no method is rejected. -/
private theorem rejects_of_not_contributesAt (h : Vacates p.marker ds i first front back)
    (hc : (p.container ds containerName).result = .ok c) (hnone : ¬p.contributesAt ds containerName i) :
    p.rejects first := by
  refine ⟨?_, (Processor.container_ok_iff.1 hc).1 first h.mem_select⟩
  by_contra hkept
  rw [Bool.not_eq_false] at hkept
  obtain ⟨m, hm⟩ := exists_contribution_of_keeps hc h.mem_select hkept
  exact hnone ⟨_, h.declaration, h.not_earlier, m, hm⟩

end Successor

/-- Without a declaration that contributes no method a container is the same exactly if the class that comes forward in
its place, if there is one, is rejected as well.  A class comes forward only if it has the name of the deleted one,
which was selected and rejected. -/
theorem container_eraseIdx_iff {p : Processor} {ds : List Declaration} {containerName : String} {c : Container}
    (h : (p.container ds containerName).result = .ok c) {i : Nat} (hi : i < ds.length)
    (hnone : ¬p.contributesAt ds containerName i) :
    ((p.container (ds.eraseIdx i) containerName).result = .ok c ↔ ∀ s, p.succeedsAt ds i s → p.rejects s) ∧
      ∀ s, p.succeedsAt ds i s →
        ∃ first ∈ (select ds p.marker).1, first.declaration = ds[i] ∧ first.name = s.name ∧ p.rejects first := by
  obtain ⟨hhalts, hassemble⟩ := Processor.container_ok_iff.1 h
  rw [Processor.container_ok_iff]
  rcases select_eraseIdx p.marker hi with hsame | ⟨first, front, back, hvacates⟩
  · have hsucceeds : ∀ s, ¬p.succeedsAt ds i s := fun s hs => hs.2 (hsame ▸ hs.1)
    rw [hsame]
    exact ⟨iff_of_true ⟨hhalts, hassemble⟩ fun s hs => absurd hs (hsucceeds s), fun s hs => absurd hs (hsucceeds s)⟩
  · have hrejects := rejects_of_not_contributesAt hvacates h hnone
    refine ⟨⟨?_, fun hall => ?_⟩, fun s hs => ⟨first, hvacates.mem_select, ?_, ?_, hrejects⟩⟩
    · rintro ⟨hhalts', hassemble'⟩ s hs
      exact ⟨keeps_eq_false_of_same hvacates hrejects.1 hassemble hassemble' hs, hhalts' s hs.1⟩
    · obtain ⟨hhalts', hkept⟩ := same_of_rejects hvacates hrejects hhalts hall
      exact ⟨hhalts', hkept ▸ hassemble⟩
    · exact Option.some.inj (hvacates.declaration.symm.trans (List.getElem?_eq_getElem hi))
    · exact ((succeedsAt_iff hvacates s).1 hs).2.1

/-- A screen whose animation is no number. -/
def draftPayment : Declaration where
  name := "Pay"
  namespaceName := "app.drafts"
  markers := [⟨activityMarker, [("enter_anim", .text "slow")], 3, []⟩]
  path := some "app/drafts.py"
  line := 3

/-- A screen of the same name in a later module. -/
def finalPayment : Declaration where
  name := "Pay"
  namespaceName := "app.screens"
  markers := [⟨activityMarker, [], 5, []⟩]
  path := some "app/screens.py"
  line := 5

private theorem not_contributesAt_draft :
    ¬(Processor.targets activityTargets).contributesAt [draftPayment, finalPayment] "ActivityTargets" 0 := by
  have hcontributions :
      (Processor.targets activityTargets).contributions [draftPayment, finalPayment] "ActivityTargets" = [] := by
    decide
  rintro ⟨d, -, -, m, hm⟩
  rw [hcontributions] at hm
  cases hm

/-- The container of both screens has no methods; that of the second alone has one. -/
private theorem methodNames_payments :
    ((((Processor.targets activityTargets).container [draftPayment, finalPayment] "ActivityTargets").result.toOption.map
        (·.methodNames)) = some []) ∧
      (((Processor.targets activityTargets).container ([draftPayment, finalPayment].eraseIdx 0)
        "ActivityTargets").result.toOption.map (·.methodNames)) = some ["showPay"] := by
  decide +kernel

theorem container_eraseIdx_payments :
    ∃ c, ((Processor.targets activityTargets).container [draftPayment, finalPayment] "ActivityTargets").result = .ok c ∧
      ((((Processor.targets activityTargets).container ([draftPayment, finalPayment].eraseIdx 0)
          "ActivityTargets").result = .ok c) ↔
        ∀ s, (Processor.targets activityTargets).succeedsAt [draftPayment, finalPayment] 0 s →
          (Processor.targets activityTargets).rejects s) := by
  obtain ⟨c, hc, -⟩ := map_toOption_eq_some_iff.1 methodNames_payments.1
  exact ⟨c, hc, (container_eraseIdx_iff hc Nat.two_pos not_contributesAt_draft).1⟩

/-- A container may change with a declaration that contributes nothing to it. -/
theorem exists_displaced :
    ¬∀ p ∈ builtinProcessors.map (·.2), ∀ (ds : List Declaration) (containerName : String) (c : Container) (i : Nat),
      (p.container ds containerName).result = .ok c → i < ds.length → ¬p.contributesAt ds containerName i →
        (p.container (ds.eraseIdx i) containerName).result = .ok c := by
  intro hall
  have hmem : Processor.targets activityTargets ∈ builtinProcessors.map (·.2) := by decide
  obtain ⟨c, hboth, hnone⟩ := map_toOption_eq_some_iff.1 methodNames_payments.1
  obtain ⟨c', hsecond, hone⟩ := map_toOption_eq_some_iff.1 methodNames_payments.2
  have hsame := hall _ hmem _ _ c 0 hboth Nat.two_pos not_contributesAt_draft
  rw [hsecond, Except.ok.injEq] at hsame
  rw [← hsame, hone] at hnone
  cases hnone

end NavFactory
