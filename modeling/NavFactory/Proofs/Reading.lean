import Mathlib.Data.List.Basic
import NavFactory.Proofs.Selection
import NavFactory.Round.Plan

/-!
# Warnings of a reading

Reading a project reports errors about its files; the only warnings are those about the declarations whose parameters
nothing takes (`warnings_readDeclarations`).
-/

namespace NavFactory

/-! ### Declarations whose parameters nothing takes -/

/-- Whether a declaration has parameters that nothing takes. -/
def Declaration.isIdle (d : Declaration) : Prop :=
  d.carries parameterMarker ∧ ¬d.carries activityMarker ∧ ¬d.carries fragmentMarker

instance (d : Declaration) : Decidable d.isIdle := inferInstanceAs (Decidable (_ ∧ _))

/-- The warning for parameters that nothing takes. -/
def idleWarning (d : Declaration) : Diagnostic :=
  .against .warning ("@" ++ parameterMarker ++ " on " ++ d.name ++ " has no effect without @" ++ activityMarker ++
    " or @" ++ fragmentMarker) (some d)

private theorem idleParameters?_eq (d : Declaration) :
    idleParameters? d = if d.isIdle then some (idleWarning d) else none := by
  have hempty : (!(d.usages parameterMarker).isEmpty) = true ↔ d.carries parameterMarker := by
    unfold Declaration.carries Declaration.firstUsage?
    cases d.usages parameterMarker <;> simp
  unfold idleParameters? Declaration.isIdle idleWarning
  congr 1
  rw [eq_iff_iff]
  simp only [Bool.and_eq_true, hempty, Bool.not_eq_true', Bool.or_eq_false_iff, Declaration.carries,
    Bool.not_eq_true]

/-! ### Computations without warnings -/

namespace Trace

variable {α β : Type}

/-- Whether a computation of a round reports no warning. -/
def Quiet (t : Trace α) : Prop := (diagnosticsOf t.events).filter (·.isWarning) = []

private theorem quiet_pure (a : α) : (pure a : Trace α).Quiet := rfl

private theorem quiet_lift {ε : Type} (cause : ε → RoundFault) (result : Except ε α) : (lift cause result).Quiet := rfl

private theorem diagnosticsOf_reported (diagnostics : List Diagnostic) :
    diagnosticsOf (diagnostics.map .reported) = diagnostics := by
  unfold diagnosticsOf
  rw [List.filterMap_map]
  exact List.filterMap_some

private theorem quiet_log (records : List LogRecord) : (log records).Quiet := by
  have hnil : diagnosticsOf (records.map .logged) = [] := by
    simp [diagnosticsOf, Event.diagnostic?]
  rw [Quiet, log, hnil]
  rfl

private theorem quiet_tell {diagnostics : List Diagnostic} (h : ∀ e ∈ diagnostics, ¬e.isWarning) :
    (tell diagnostics).Quiet := by
  rw [Quiet, tell, diagnosticsOf_reported, List.filter_eq_nil_iff]
  exact h

private theorem warnings_andThen {t : Trace α} {f : α → Trace β} {a : α} (ht : t.Quiet) (ha : t.result = .ok a) :
    (diagnosticsOf (t >>= f).events).filter (·.isWarning) = (diagnosticsOf (f a).events).filter (·.isWarning) := by
  have hevents : (t >>= f).events = t.events ++ (f a).events := by
    change (t.andThen f).events = _
    rw [andThen, ha]
  rw [hevents, diagnosticsOf, List.filterMap_append, List.filter_append]
  change (diagnosticsOf t.events).filter _ ++ (diagnosticsOf (f a).events).filter _ = _
  rw [show (diagnosticsOf t.events).filter (·.isWarning) = [] from ht, List.nil_append]

private theorem quiet_andThen {t : Trace α} {f : α → Trace β} (ht : t.Quiet)
    (hf : ∀ a, t.result = .ok a → (f a).Quiet) : (t >>= f).Quiet := by
  rcases hr : t.result with fault | a
  · have hevents : (t >>= f).events = t.events := by
      change (t.andThen f).events = _
      rw [andThen, hr]
    rw [Quiet, hevents]
    exact ht
  · exact (warnings_andThen ht hr).trans (hf a hr)

private theorem quiet_forEach {f : α → Trace β} (hf : ∀ a, (f a).Quiet) (as : List α) : (forEach f as).Quiet := by
  induction as with
  | nil => exact quiet_pure _
  | cons a rest ih => exact quiet_andThen (hf a) fun b _ => quiet_andThen ih fun others _ => quiet_pure _

end Trace

private theorem readSource_errors {text : String} {source : SourceName} {ds : List Declaration}
    {diagnostics : List Diagnostic} (h : readSource text source = .ok (ds, diagnostics)) :
    ∀ e ∈ diagnostics, ¬e.isWarning := by
  unfold readSource at h
  split at h
  · cases h
  · cases h
    simp [malformedSource, Diagnostic.against, Diagnostic.isWarning]
  · rename_i body _
    simp only [bind, Except.bind] at h
    split at h
    · cases h
    · cases h
      simp

private theorem quiet_readFile (tree : Entry) (root : Path) (file : SourceFile) : (readFile tree root file).Quiet := by
  unfold readFile
  split
  · exact Trace.quiet_lift _ _
  · refine Trace.quiet_andThen (Trace.quiet_tell ?_) fun _ _ => Trace.quiet_pure _
    simp [unreadableSource, Diagnostic.against, Diagnostic.isWarning]
  · refine Trace.quiet_andThen (Trace.quiet_lift _ _) fun read hread => ?_
    obtain ⟨ds, diagnostics⟩ := read
    refine Trace.quiet_andThen (Trace.quiet_tell ?_) fun _ _ => Trace.quiet_pure _
    have hsource : (readSource _ _).mapError RoundFault.source = .ok (ds, diagnostics) := hread
    rename_i text _
    rcases hs : readSource text ⟨file.path, file.module⟩ with fault | r
    · rw [hs] at hsource
      cases hsource
    · rw [hs] at hsource
      cases hsource
      exact readSource_errors hs

private theorem quiet_readSourceRoot (tree : Entry) (current : List String) (settings : Settings) (root : Path) :
    (readSourceRoot tree current settings root).Quiet := by
  refine Trace.quiet_andThen (Trace.quiet_lift _ _) fun excludes _ => ?_
  refine Trace.quiet_andThen (Trace.quiet_lift _ _) fun scanned _ => ?_
  refine Trace.quiet_andThen (Trace.quiet_log _) fun _ _ => Trace.quiet_andThen (Trace.quiet_log _) fun _ _ => ?_
  refine Trace.quiet_andThen (Trace.quiet_forEach (quiet_readFile tree _) _) fun declarations _ => ?_
  exact Trace.quiet_andThen (Trace.quiet_log _) fun _ _ => Trace.quiet_pure _

/-- If the declarations of a project are read, the warnings are those about declarations whose parameters nothing takes,
each in its turn; if not, there are none. -/
theorem warnings_readDeclarations (tree : Entry) (current : List String) (settings : Settings) :
    (diagnosticsOf (readDeclarations tree current settings).events).filter (·.isWarning) =
      match (readDeclarations tree current settings).result with
      | .ok ds => (ds.filter (·.isIdle)).map idleWarning
      | .error _ => [] := by
  have hroots : (Trace.forEach (readSourceRoot tree current settings) settings.sourceRoots).Quiet :=
    Trace.quiet_forEach (quiet_readSourceRoot tree current settings) _
  rcases hr : (Trace.forEach (readSourceRoot tree current settings) settings.sourceRoots).result with fault | found
  · have hread : readDeclarations tree current settings =
        ⟨(Trace.forEach (readSourceRoot tree current settings) settings.sourceRoots).events, .error fault⟩ := by
      change Trace.andThen _ _ = _
      rw [Trace.andThen, hr]
    rw [hread]
    exact hroots
  · have hresult : (readDeclarations tree current settings).result = .ok found.flatten := by
      change (Trace.andThen _ _).result = _
      rw [Trace.andThen, hr]
      rfl
    rw [hresult]
    refine (Trace.warnings_andThen hroots hr).trans ?_
    change (diagnosticsOf ((found.flatten.filterMap idleParameters?).map .reported ++ [])).filter (·.isWarning) = _
    rw [List.append_nil, Trace.diagnosticsOf_reported]
    induction found.flatten with
    | nil => rfl
    | cons d rest ih =>
      rw [List.filterMap_cons, idleParameters?_eq]
      by_cases hd : d.isIdle
      · simp only [hd, if_true, List.filter_cons, decide_true, List.map_cons, ← ih]
        rfl
      · simp only [hd, if_false, List.filter_cons, decide_false, Bool.false_eq_true, ← ih]

end NavFactory
