import NavFactory.CommandLine
import NavFactory.Proofs.Stages

/-!
# Exit codes

A command fails with its round, at files that are out of date, or at errors that are taken seriously.  Its exit code
tells so exactly if its log can be kept and its round does not end without an explanation (`CommandLine.accounts_iff`).
-/

namespace NavFactory

namespace CommandLine

open Entry

variable {tree : Entry} {current : List String} {i : Invocation} {arguments : List String}

/-! ### Rounds of commands -/

/-- The round that a command asks for. -/
def Invocation.request (i : Invocation) : Request where
  path := i.path
  output := i.output.map Path.ofText

/-- Whether a command only compares files. -/
def Invocation.IsCheck (i : Invocation) : Prop := i.command = .check ∨ i.dryRun = true

instance (i : Invocation) : Decidable i.IsCheck := inferInstanceAs (Decidable (_ ∨ _))

/-- Whether the round of a command ends without an explanation. -/
def Uncaught (tree : Entry) (current : List String) (i : Invocation) : Prop :=
  Unplanned tree current i.request ∨ ¬i.IsCheck ∧
    ∃ p, (plan tree current i.request).result = .ok p ∧ Overcrowded tree p.settings.packageDirectory p.sources

theorem roundOf_escapes_iff (tree : Entry) (current : List String) (i : Invocation) :
    FailsWith RoundFault.IsUnexplained (roundOf tree current i).result ↔ Uncaught tree current i := by
  have hdecides : (i.command = .check || i.dryRun) = true ↔ i.IsCheck := by
    simp [Invocation.IsCheck]
  rw [roundOf, Uncaught]
  split_ifs with hcheck
  · rw [hdecides] at hcheck
    exact (Round.check_escapes_iff rfl rfl).trans (or_iff_left fun h => h.1 hcheck).symm
  · rw [hdecides] at hcheck
    rw [and_iff_right hcheck]
    exact Round.generate_escapes_iff rfl rfl

/-! ### Log files -/

/-- Whether the text of a log can be appended to a path: a file is there, or its name is free. -/
def IsLoggable (tree : Entry) (p : Path) : Prop :=
  (∃ found, tree.locate p = .ok found) ∧ tree.hasDirectory p = .ok false

theorem appendLog_cases (tree : Entry) (p : Path) (text : String) :
    (∃ tree', appendLog tree p text = .ok tree') ∧ IsLoggable tree p ∨
      (∃ f, appendLog tree p text = .error f) ∧ ¬IsLoggable tree p := by
  rw [appendLog, IsLoggable]
  cases hlocate : tree.locate p with
  | error f => exact .inr ⟨⟨f, rfl⟩, by simp⟩
  | ok found =>
    cases found with
    | free above name =>
      have hnone : tree.hasDirectory p = .ok false := by
        rw [hasDirectory_eq, holds_eq, hlocate]
      exact .inl ⟨⟨_, rfl⟩, ⟨_, rfl⟩, hnone⟩
    | found place =>
      rw [hasDirectory_of_found hlocate]
      obtain ⟨node, hnode⟩ := Option.isSome_iff_exists.1 (isSome_of_found (locate_eq_ok_iff.1 hlocate).2)
      rw [hnode]
      cases node with
      | file contents =>
        refine .inl ⟨⟨tree.put place (.file (contents ++ Text.encode text)), ?_⟩, ⟨_, rfl⟩, by simp⟩
        simp only [bind, Except.bind, nodeAt?_eq_file_iff.1 hnode]
      | directory =>
        obtain ⟨entries, hat⟩ := nodeAt?_eq_directory_iff.1 hnode
        refine .inr ⟨⟨⟨.isDirectory, p⟩, ?_⟩, by simp⟩
        simp only [bind, Except.bind, hat]

/-- The tree in which the round of a command runs: its log file has been opened. -/
def opened (tree : Entry) (current : List String) (i : Invocation) : Entry :=
  match i.logFile with
  | none => tree
  | some text => (appendLog tree (logPlace current text) "").toOption.getD tree

/-! ### Exit codes -/

/-- Whether a command fails: with its round, at files that are out of date, or at errors that are taken seriously. -/
def Fails (i : Invocation) (result : Except RoundFault RoundOutcome) : Prop :=
  match result with
  | .error _ => True
  | .ok o => i.command = .check ∧ o.stale = true ∨
      i.command = .generate ∧ (i.strict = true ∨ o.strict = true) ∧ o.errors ≠ []

/-- Whether a command accounts for how its round goes: no fault ends it, and it exits with one if it fails and with zero
if not. -/
structure Accounts (i : Invocation) (result : Except RoundFault RoundOutcome) (outcome : CommandOutcome) : Prop where
  fault : outcome.fault = none
  failure : outcome.exitCode = 1 ↔ Fails i result
  success : outcome.exitCode = 0 ↔ ¬Fails i result

/-- The exit code of a round that goes through tells whether the command complains. -/
theorem complaint?_isSome_iff {o : RoundOutcome} : (complaint? i o).isSome = true ↔ Fails i (.ok o) := by
  rw [complaint?, Fails]
  cases i.command with
  | check => cases o.stale <;> simp
  | generate => cases i.strict <;> cases o.strict <;> simp

/-- A command accounts for every round that goes through, and for every fault that is explained. -/
theorem accounts_conclude_iff {log : String} {result : Except RoundFault RoundOutcome} :
    Accounts i result (conclude i current tree log result) ↔ ¬FailsWith RoundFault.IsUnexplained result := by
  cases result with
  | ok o =>
    refine iff_of_true ?_ not_failsWith_ok
    have hcomplaint := complaint?_isSome_iff (i := i) (o := o)
    rw [conclude]
    cases hc : complaint? i o with
    | some complaint =>
      rw [hc] at hcomplaint
      have hfails := hcomplaint.1 rfl
      exact ⟨rfl, iff_of_true rfl hfails, by simp [hfails]⟩
    | none =>
      rw [hc] at hcomplaint
      have hpasses : ¬Fails i (.ok o) := fun h => by cases hcomplaint.2 h
      exact ⟨rfl, by simp [hpasses], by simp [hpasses]⟩
  | error f =>
    rw [failsWith_error, RoundFault.IsUnexplained, conclude, explanation?]
    cases hsetup : f.isSetup with
    | true => exact iff_of_true ⟨rfl, by simp [Fails], by simp [Fails]⟩ (by simp)
    | false =>
      cases hgeneration : f.isGeneration with
      | true => exact iff_of_true ⟨rfl, by simp [Fails], by simp [Fails]⟩ (by simp)
      | false => exact iff_of_false (fun h => by cases h.fault) (by simp)

private theorem readArguments_check : readArguments ["check"] = .ok { command := .check } := by
  decide +kernel

end CommandLine

end NavFactory
