import NavFactory.Proofs.Deletion
import NavFactory.Proofs.MethodShape

/-!
# Added declarations

Classes are selected and built in the order of their names, so that a declaration that is added has no part in what
comes before its name.  The classes with smaller names are selected as before (`earlier_insert`), whether the new one is
selected, refused or takes the place of another; their methods are built first and from the same imports
(`targetContainer_eq_emission`).  So these methods and the names of the types in them stay as they are
(`targetContainer_insert`).
-/

namespace NavFactory

namespace TargetKind

/-- The selected classes whose names come before a given one. -/
def earlier (t : TargetKind) (declarations : List Declaration) (name : String) : List Selected :=
  (select declarations t.marker).1.filter (·.name < name)

/-- The selected classes whose names do not come before a given one. -/
def later (t : TargetKind) (declarations : List Declaration) (name : String) : List Selected :=
  (select declarations t.marker).1.filter (¬·.name < name)

/-- The methods of the classes whose names come before a given one, with the imports that they leave. -/
def emission (t : TargetKind) (declarations : List Declaration) (containerName name : String) :
    Report (List Method × ImportTable) :=
  methodsForAll t (targetImports t containerName) (t.earlier declarations name)

/-- The container that starts with the methods of an emission and goes on with those of the other classes. -/
def completion (t : TargetKind) (declarations : List Declaration) (containerName name : String)
    (emitted : List Method × ImportTable) : Report Container := do
  let (others, table) ← methodsForAll t emitted.2 (t.later declarations name)
  pure ⟨t.kind, containerName, t.module, t.docstring, table, emitted.1 ++ others⟩

/-- The methods of a container for classes whose names come before a given one, each with its plan. -/
def methodsBefore (t : TargetKind) (declarations : List Declaration) (c : Container) (name : String) :
    List (PlannedMethod × Method) :=
  ((t.planned declarations).zip c.methods).filter (·.1.target.name < name)

end TargetKind

/-! ### Selection -/

section Selection

variable {ds : List Declaration} {marker : String}

/-- In a sorted list the elements below a bound come first. -/
private theorem filter_append_filter_not {α κ : Type} [LinearOrder κ] {key : α → κ} {l : List α}
    (hl : l.Pairwise fun a b => key a < key b) (bound : κ) :
    (l.filter fun a => key a < bound) ++ l.filter (fun a => ¬key a < bound) = l := by
  induction l with
  | nil => rfl
  | cons a l ih =>
    obtain ⟨ha, hl⟩ := List.pairwise_cons.1 hl
    by_cases hab : key a < bound
    · rw [List.filter_cons_of_pos (by simpa using hab), List.filter_cons_of_neg (by simpa using hab), List.cons_append,
        ih hl]
    · have hnone : l.filter (fun a => key a < bound) = [] := by
        rw [List.filter_eq_nil_iff]
        exact fun b hb hlt => hab ((ha b hb).trans (of_decide_eq_true hlt))
      have hih := ih hl
      rw [hnone, List.nil_append] at hih
      rw [List.filter_cons_of_neg (by simpa using hab), List.filter_cons_of_pos (by simpa using hab), hnone,
        List.nil_append, hih]

theorem earlier_append_later (t : TargetKind) (ds : List Declaration) (name : String) :
    t.earlier ds name ++ t.later ds name = (select ds t.marker).1 :=
  filter_append_filter_not (pairwise_name_select ds t.marker) name

/-- The classes selected before the name of an added declaration are those selected without it. -/
theorem earlier_insert (t : TargetKind) (front back : List Declaration) (d : Declaration) :
    t.earlier (front ++ d :: back) d.name = t.earlier (front ++ back) d.name := by
  have hi : front.length < (front ++ d :: back).length := by simp
  have herase : (front ++ d :: back).eraseIdx front.length = front ++ back := by
    simp [List.eraseIdx_append_of_length_le]
  unfold TargetKind.earlier
  rcases select_eraseIdx t.marker hi with hsame | ⟨first, before, after, hvacates⟩
  · rw [← herase, hsame]
  · have hname : first.name = d.name := by
      have := hvacates.declaration
      simp only [List.getElem?_append_right le_rfl, Nat.sub_self, List.getElem?_cons_zero, Option.some.injEq] at this
      rw [this]
      rfl
    rw [← herase, hvacates.select_eq, hvacates.select_eraseIdx_eq, List.filter_append, List.filter_append,
      List.filter_cons_of_neg (by simp [hname]), List.filter_filter]
    -- of the classes behind it only one of its own name may be new
    refine congrArg _ (List.filter_congr fun r _ => ?_)
    rw [← Bool.decide_and, decide_eq_decide]
    exact and_iff_left_of_imp fun hlt he => hlt.ne (he.symm.trans hname)

end Selection

/-! ### Runs -/

namespace Report

variable {α β γ : Type}

theorem andThen_assoc (r : Report α) (f : α → Report β) (g : β → Report γ) :
    (r.andThen f).andThen g = r.andThen fun a => (f a).andThen g := by
  obtain ⟨diagnostics, limit | a⟩ := r
  · rfl
  · rcases hf : f a with ⟨more, limit | b⟩ <;> simp [hf]

theorem andThen_pure (r : Report α) : r.andThen pure = r := by
  obtain ⟨diagnostics, limit | a⟩ := r
  · rfl
  · simp

end Report

/-- Building the methods of two lists of classes is building those of the first and then, with the imports that they
leave, those of the second. -/
theorem methodsForAll_append (t : TargetKind) (table : ImportTable) (first second : List Selected) :
    methodsForAll t table (first ++ second) =
      (methodsForAll t table first).andThen fun emitted =>
        (methodsForAll t emitted.2 second).andThen fun more => pure (emitted.1 ++ more.1, more.2) := by
  induction first generalizing table with
  | nil =>
    simp only [List.nil_append, methodsForAll, Report.pure_andThen]
    exact (Report.andThen_pure _).symm
  | cons s rest ih =>
    simp only [List.cons_append, methodsForAll, Report.bind_eq, ih, Report.andThen_assoc, Report.pure_andThen,
      List.append_assoc]

/-- A container is made by an emission and its completion. -/
theorem targetContainer_eq_emission (t : TargetKind) (ds : List Declaration) (containerName name : String) :
    targetContainer t ds containerName = (Report.tell (select ds t.marker).2).andThen fun _ =>
      (t.emission ds containerName name).andThen (t.completion ds containerName name) := by
  unfold targetContainer TargetKind.emission TargetKind.completion
  simp only [Report.bind_eq]
  rw [← earlier_append_later t ds name, methodsForAll_append]
  simp only [Report.andThen_assoc, Report.pure_andThen]

/-! ### Containers -/

/-- The methods planned for the accepted classes whose names come before a given one. -/
def TargetKind.plannedBefore (t : TargetKind) (declarations : List Declaration) (name : String) : List PlannedMethod :=
  ((t.earlier declarations name).filter t.accepts).flatMap (·.planned)

section Containers

variable {t : TargetKind} {ds : List Declaration} {containerName : String} {c : Container}

private theorem target_of_mem_flatMap {l : List Selected} {p : PlannedMethod} (h : p ∈ l.flatMap (·.planned)) :
    p.target ∈ l := by
  obtain ⟨s, hs, hp⟩ := List.mem_flatMap.1 h
  obtain ⟨step, -, rfl⟩ := List.mem_map.1 hp
  exact hs

private theorem planned_split (t : TargetKind) (ds : List Declaration) (name : String) :
    t.planned ds = t.plannedBefore ds name ++ ((t.later ds name).filter t.accepts).flatMap (·.planned) := by
  rw [TargetKind.planned, TargetKind.accepted, ← earlier_append_later t ds name, List.filter_append,
    List.flatMap_append, TargetKind.plannedBefore]

private theorem name_of_mem_plannedBefore {name : String} {p : PlannedMethod} (h : p ∈ t.plannedBefore ds name) :
    p.target.name < name :=
  of_decide_eq_true (List.mem_filter.1 (List.mem_filter.1 (target_of_mem_flatMap h)).1).2

private theorem name_of_mem_plannedAfter {name : String} {p : PlannedMethod}
    (h : p ∈ ((t.later ds name).filter t.accepts).flatMap (·.planned)) : ¬p.target.name < name :=
  of_decide_eq_true (List.mem_filter.1 (List.mem_filter.1 (target_of_mem_flatMap h)).1).2

/-- Two tables that a run of uses has grown to give the same names to the types that were used. -/
private theorem nameOf_eq_of_extends {table first second : ImportTable} {types : List TypeRef}
    (hfirst : first.Extends (table.useAll types).2) (hsecond : second.Extends (table.useAll types).2) {u : TypeRef}
    (hu : u ∈ types) : first.nameOf u = second.nameOf u :=
  List.map_inj_left.1 ((ImportTable.useAll_fst hfirst).symm.trans (ImportTable.useAll_fst hsecond)) u hu

private theorem methodsBefore_append {name : String} {methods others : List Method}
    (hlength : (t.plannedBefore ds name).length = methods.length) (hmethods : c.methods = methods ++ others) :
    t.methodsBefore ds c name = (t.plannedBefore ds name).zip methods := by
  have hbefore : ((t.plannedBefore ds name).zip methods).filter (·.1.target.name < name) =
      (t.plannedBefore ds name).zip methods := by
    rw [List.filter_eq_self]
    exact fun x hx => decide_eq_true (name_of_mem_plannedBefore (List.of_mem_zip hx).1)
  have hafter : ((((t.later ds name).filter t.accepts).flatMap (·.planned)).zip others).filter
      (·.1.target.name < name) = [] := by
    rw [List.filter_eq_nil_iff]
    exact fun x hx hlt => name_of_mem_plannedAfter (List.of_mem_zip hx).1 (of_decide_eq_true hlt)
  rw [TargetKind.methodsBefore, hmethods, planned_split t ds name, List.zip_append hlength, List.filter_append, hbefore,
    hafter, List.append_nil]

/-- The container of declarations starts with an emission, which has the methods of the classes before a name: what the
other classes add changes neither these methods nor the names of the types in them. -/
structure TargetKind.StartsWith (t : TargetKind) (ds : List Declaration) (containerName name : String)
    (emitted : Report (List Method × ImportTable)) : Prop where
  run_eq : targetContainer t ds containerName = (Report.tell (select ds t.marker).2).andThen fun _ =>
    emitted.andThen (t.completion ds containerName name)
  methods_eq : ∀ c, (targetContainer t ds containerName).result = .ok c →
    ∃ methods table, emitted.result = .ok (methods, table) ∧
      t.methodsBefore ds c name = (t.plannedBefore ds name).zip methods ∧
      ∀ p ∈ t.plannedBefore ds name, ∀ u ∈ t.typesOf p, c.imports.nameOf u = table.nameOf u

theorem startsWith_emission (t : TargetKind) (ds : List Declaration) (containerName name : String) :
    t.StartsWith ds containerName name (t.emission ds containerName name) where
  run_eq := targetContainer_eq_emission t ds containerName name
  methods_eq c hc := by
    obtain ⟨hprintable, all, table, hb, rfl⟩ := targetContainer_ok_iff.1 hc
    rw [planned_split t ds name, TargetKind.build_append] at hb
    cases hfirst : t.build (targetImports t containerName) (t.plannedBefore ds name) with
    | error limit =>
      rw [hfirst] at hb
      cases hb
    | ok first =>
      obtain ⟨methods, after⟩ := first
      rw [hfirst] at hb
      obtain ⟨⟨others, rest⟩, hsecond, hall⟩ := map_eq_ok_iff.1 hb
      obtain ⟨rfl, rfl⟩ := Prod.mk.inj hall
      obtain ⟨hafter, hbuilt⟩ := build_names hfirst
      have hextends : rest.Extends after := (build_names hsecond).1 ▸ ImportTable.extends_useAll _ _
      refine ⟨methods, after, methodsForAll_ok_iff.2 ⟨fun s hs => ?_, hfirst⟩,
        methodsBefore_append (hbuilt after (.refl after)).length_eq rfl, fun p hp u hu => ?_⟩
      · exact hprintable s (List.mem_filter.1 hs).1
      · rw [hafter] at hextends ⊢
        exact nameOf_eq_of_extends hextends (.refl _) (List.mem_flatMap.2 ⟨p, hp, hu⟩)

/-- With a declaration added anywhere, the classes before its name are selected as without it, and both containers start
with one emission, whether or not they can be completed.  If both are made, then they have the same methods for these
classes, and the types in them go by the same names. -/
theorem targetContainer_insert (t : TargetKind) (front back : List Declaration) (d : Declaration)
    (containerName : String) :
    t.earlier (front ++ d :: back) d.name = t.earlier (front ++ back) d.name ∧
      (∃ emitted, t.StartsWith (front ++ back) containerName d.name emitted ∧
        t.StartsWith (front ++ d :: back) containerName d.name emitted) ∧
      ∀ c c', (targetContainer t (front ++ back) containerName).result = .ok c →
        (targetContainer t (front ++ d :: back) containerName).result = .ok c' →
          t.methodsBefore (front ++ d :: back) c' d.name = t.methodsBefore (front ++ back) c d.name ∧
          ∀ p ∈ t.planned (front ++ back), p.target.name < d.name →
            ∀ u ∈ t.typesOf p, c'.imports.nameOf u = c.imports.nameOf u := by
  have hearlier := earlier_insert t front back d
  have hemission : t.emission (front ++ d :: back) containerName d.name =
      t.emission (front ++ back) containerName d.name := by
    rw [TargetKind.emission, TargetKind.emission, hearlier]
  have hplanned : t.plannedBefore (front ++ d :: back) d.name = t.plannedBefore (front ++ back) d.name := by
    rw [TargetKind.plannedBefore, TargetKind.plannedBefore, hearlier]
  have hwithout := startsWith_emission t (front ++ back) containerName d.name
  have hwith := startsWith_emission t (front ++ d :: back) containerName d.name
  rw [hemission] at hwith
  refine ⟨hearlier, ⟨_, hwithout, hwith⟩, fun c c' hc hc' => ?_⟩
  obtain ⟨methods, table, hr, hmethods, hnames⟩ := hwithout.methods_eq c hc
  obtain ⟨methods', table', hr', hmethods', hnames'⟩ := hwith.methods_eq c' hc'
  rw [hr, Except.ok.injEq, Prod.mk.injEq] at hr'
  obtain ⟨rfl, rfl⟩ := hr'
  rw [hplanned] at hmethods' hnames'
  refine ⟨hmethods'.trans hmethods.symm, fun p hp hlt u hu => ?_⟩
  have hbefore : p ∈ t.plannedBefore (front ++ back) d.name := by
    rw [planned_split t _ d.name, List.mem_append] at hp
    exact hp.resolve_right fun hafter => name_of_mem_plannedAfter hafter hlt
  rw [hnames' p hbefore u hu, hnames p hbefore u hu]

/-- A screen with a parameter whose type has the name of the one that `transfer` takes. -/
def walletScreen : Declaration where
  name := "Wallet"
  namespaceName := "app.wallet"
  markers :=
    [⟨activityMarker, [], 6, []⟩,
      ⟨parameterMarker, [("key", .text "limit"), ("type", .typeRef ⟨"app.wallet", "Amount"⟩)], 7, []⟩]
  path := some "app/wallet.py"
  line := 6

theorem targetContainer_insert_wallet :
    ∃ c c', (targetContainer activityTargets [transfer.declaration] "ActivityTargets").result = .ok c ∧
      (targetContainer activityTargets [walletScreen, transfer.declaration] "ActivityTargets").result = .ok c' ∧
      c'.methodNames = ["showTransfer", "showTransferForIban", "showWallet"] ∧
      activityTargets.methodsBefore [walletScreen, transfer.declaration] c' "Wallet" =
        activityTargets.methodsBefore [transfer.declaration] c "Wallet" := by
  have hrun : (targetContainer activityTargets [transfer.declaration] "ActivityTargets").result.toOption.map
      (·.methodNames) = some ["showTransfer", "showTransferForIban"] := by
    decide +kernel
  have hrun' : (targetContainer activityTargets [walletScreen, transfer.declaration]
      "ActivityTargets").result.toOption.map (·.methodNames) =
        some ["showTransfer", "showTransferForIban", "showWallet"] := by
    decide +kernel
  obtain ⟨c, hc, -⟩ := map_toOption_eq_some_iff.1 hrun
  obtain ⟨c', hc', hnames⟩ := map_toOption_eq_some_iff.1 hrun'
  refine ⟨c, c', hc, hc', hnames, ?_⟩
  exact ((targetContainer_insert activityTargets [] [transfer.declaration] walletScreen "ActivityTargets").2.2 c c' hc
    hc').1

end Containers

end NavFactory
