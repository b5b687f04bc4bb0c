import NavFactory.Proofs.Emission

/-!
# The methods of a target container

For every list of declarations the methods of a container are those planned for its accepted classes, in increasing
order of the names of the classes, and the warnings are those about the accepted classes that ask in vain for a method
without parameters (`targetContainer_methods`).
-/

namespace NavFactory

private theorem filter_isWarning_errors {l : List Diagnostic} (h : ∀ e ∈ l, ∃ d, e.IsErrorOn d) :
    l.filter (·.isWarning) = [] := by
  rw [List.filter_eq_nil_iff]
  intro e he
  obtain ⟨d, message, rfl⟩ := h e he
  exact Bool.false_ne_true

private theorem isErrorOn_select (ds : List Declaration) (marker : String) :
    ∀ e ∈ (select ds marker).2, ∃ d, e.IsErrorOn d := by
  obtain ⟨clashes, -, hproblems⟩ := select_split ds marker
  intro e he
  rw [hproblems, List.mem_append, List.mem_map] at he
  rcases he with he | ⟨⟨first, second⟩, -, rfl⟩
  · obtain ⟨d, -, -, -, rfl⟩ := mem_candidates_problems.1 he
    exact ⟨d, _, rfl⟩
  · exact ⟨second.declaration, _, rfl⟩

private theorem filter_isWarning_verdict (t : TargetKind) (s : Selected) :
    ((verdict t s).diagnostics s).filter (·.isWarning) =
      if t.accepts s ∧ s.forcesInVain then [forceEmptyWarning s] else [] := by
  cases hv : verdict t s with
  | unprintable limit => simp [Verdict.diagnostics, TargetKind.accepts, hv]
  | rejected errors =>
    have hacc : ¬t.accepts s := by simp [TargetKind.accepts, hv]
    rw [if_neg fun h => hacc h.1]
    exact filter_isWarning_errors fun e he => ⟨_, (verdict_rejected hv).2 e he⟩
  | accepted model =>
    have hacc : t.accepts s := accepts_iff.2 ⟨model, hv⟩
    simp only [hacc, true_and]
    change (forceEmptyWarnings s model).filter (·.isWarning) = _
    rw [(accepted_of_verdict hv).forceEmptyWarnings_eq]
    by_cases hw : s.forcesInVain
    · rw [if_pos hw]
      rfl
    · rw [if_neg hw]
      rfl

private theorem filter_isWarning_verdicts (t : TargetKind) (records : List Selected) :
    (records.flatMap fun s => (verdict t s).diagnostics s).filter (·.isWarning) =
      ((records.filter t.accepts).filter (·.forcesInVain)).map forceEmptyWarning := by
  induction records with
  | nil => rfl
  | cons s rest ih =>
    rw [List.flatMap_cons, List.filter_append, ih, filter_isWarning_verdict]
    by_cases ha : t.accepts s
    · by_cases hw : s.forcesInVain
      · simp [ha, hw]
      · simp [ha, hw]
    · simp [ha]

/-- If a container is made, its methods are those planned for the accepted classes, whose names increase; each class
that forces a method without parameters in vain has a warning, and there are no other warnings.  If none is made, a
value of some class has too many digits. -/
theorem targetContainer_methods (t : TargetKind) (declarations : List Declaration) (containerName : String) :
    match (targetContainer t declarations containerName).result with
    | .ok c =>
      (t.accepted declarations).Pairwise (fun a b => a.name < b.name) ∧
        List.Forall₂ t.Emits (t.planned declarations) c.methods ∧
        t.build (targetImports t containerName) (t.planned declarations) = .ok (c.methods, c.imports) ∧
        (targetContainer t declarations containerName).diagnostics.filter (·.isWarning) =
          ((t.accepted declarations).filter (·.forcesInVain)).map forceEmptyWarning
    | .error _ =>
      ∃ s ∈ (select declarations t.marker).1, ∃ a ∈ t.attributes,
        a.exceedsLimit s.usage ∧ (a.kind.accepts (a.valueIn s.usage) → t.accepts s) := by
  split
  · rename_i c hc
    refine ⟨?_, forall₂_methods hc, ?_, ?_⟩
    · exact (pairwise_name_select declarations t.marker).sublist List.filter_sublist
    · obtain ⟨-, methods, table, hb, rfl⟩ := targetContainer_ok_iff.1 hc
      exact hb
    · rw [diagnostics_targetContainer hc, List.filter_append,
        filter_isWarning_errors (isErrorOn_select declarations t.marker), List.nil_append, filter_isWarning_verdicts]
      rfl
  · rename_i limit hl
    cases limit
    exact targetContainer_error_iff.1 hl

end NavFactory
