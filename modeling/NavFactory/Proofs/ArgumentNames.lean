import NavFactory.Factory
import NavFactory.Proofs.ImportNames

/-!
# Names of arguments

The argument for a key is the name made from the key with as few underscores behind it as make it free
(`argumentName_eq`).  Arguments for several keys are handed out one after the other (`argumentsFor`), so that they are
all different (`nodup_argumentsFor`), whatever the keys.
-/

namespace NavFactory

/-! ### Underscores -/

/-- A name with underscores behind it. -/
def underscored (name : String) (n : Nat) : String := String.ofList (name.toList ++ List.replicate n '_')

@[simp]
theorem underscored_zero (name : String) : underscored name 0 = name := by
  simp [underscored]

private theorem underscored_succ (name : String) (n : Nat) : underscored name (n + 1) = underscored name n ++ "_" := by
  rw [underscored, List.replicate_succ', ← List.append_assoc, String.ofList_append]
  rfl

private theorem underscored_underscored (name : String) (m n : Nat) :
    underscored (underscored name m) n = underscored name (m + n) := by
  rw [underscored, underscored, underscored, String.toList_ofList, List.append_assoc, List.replicate_append_replicate]

private theorem underscored_injective (name : String) : Function.Injective (underscored name) := by
  intro m n h
  have hlength := congrArg List.length (String.ofList_inj.1 h)
  simpa using hlength

/-- No reserved word ends with an underscore, and neither does the list of the providers. -/
private theorem underscored_succ_not_mem (name : String) (n : Nat) :
    underscored name (n + 1) ∉ parameterList :: Text.reservedWords := by
  have hends : ∀ x ∈ parameterList :: Text.reservedWords, x.toList.getLast? ≠ some '_' := by
    decide
  intro hmem
  apply hends _ hmem
  rw [underscored_succ, String.toList_append]
  simp

/-! ### The argument for a key -/

theorem isBlockedArgument_eq_false_iff {taken : List String} {name : String} :
    isBlockedArgument taken name = false ↔ ¬Text.isReserved name ∧ name ≠ parameterList ∧ name ∉ taken := by
  simp [isBlockedArgument, and_assoc]

/-- Of several names, each with one underscore more than the one before, the first that is not blocked is taken. -/
private theorem untilFree_eq {blocked : String → Bool} {candidate : Nat → String}
    (hnext : ∀ n, candidate (n + 1) = candidate n ++ "_") {fuel n : Nat} (hn : n ≤ fuel)
    (hfree : blocked (candidate n) = false) :
    ∃ k, untilFree blocked fuel (candidate 0) = candidate k ∧ blocked (candidate k) = false ∧
      ∀ m < k, blocked (candidate m) = true := by
  induction fuel generalizing candidate n with
  | zero =>
    obtain rfl : n = 0 := Nat.le_zero.1 hn
    exact ⟨0, rfl, hfree, nofun⟩
  | succ fuel ih =>
    rw [untilFree]
    split
    · rename_i hblocked
      cases n with
      | zero => rw [hblocked] at hfree; cases hfree
      | succ n =>
        rw [← hnext 0]
        obtain ⟨k, hk, hkfree, hleast⟩ := @ih (fun k => candidate (k + 1)) (fun k => hnext (k + 1)) n
          (Nat.le_of_succ_le_succ hn) hfree
        refine ⟨k + 1, hk, hkfree, fun m hm => ?_⟩
        cases m with
        | zero => exact hblocked
        | succ m => exact hleast m (Nat.lt_of_succ_lt_succ hm)
    · rename_i hopen
      exact ⟨0, rfl, Bool.eq_false_iff.2 hopen, nofun⟩

/-- The argument for a key has as few underscores behind it as make it free: of the names with at least one underscore
only those that are taken are blocked, so that there is a free one. -/
theorem argumentName_eq (key : String) (taken : List String) :
    ∃ n, argumentName key taken = underscored (sanitizeKey key) n ∧
      isBlockedArgument taken (underscored (sanitizeKey key) n) = false ∧
      ∀ m < n, isBlockedArgument taken (underscored (sanitizeKey key) m) = true := by
  have hinj : Function.Injective fun n => underscored (sanitizeKey key) (n + 1) := fun m n h =>
    Nat.succ_injective (underscored_injective _ h)
  obtain ⟨n, hn, hfree⟩ := exists_free hinj taken
  have hword := underscored_succ_not_mem (sanitizeKey key) n
  rw [List.mem_cons, not_or] at hword
  have hblocked : isBlockedArgument taken (underscored (sanitizeKey key) (n + 1)) = false :=
    isBlockedArgument_eq_false_iff.2 ⟨by simpa [Text.isReserved] using hword.2, hword.1, hfree⟩
  have hfuel : n + 1 ≤ taken.length + 2 := by omega
  have heq := untilFree_eq (underscored_succ (sanitizeKey key)) hfuel hblocked
  rwa [underscored_zero] at heq

/-- The argument for a key is free. -/
theorem argumentName_free (key : String) (taken : List String) :
    isBlockedArgument taken (argumentName key taken) = false := by
  obtain ⟨n, heq, hfree, -⟩ := argumentName_eq key taken
  rwa [heq]

/-- Names that are taken add nothing but underscores to the argument for a key. -/
theorem exists_argumentName_eq (key : String) (taken : List String) :
    ∃ n, argumentName key taken = underscored (argumentName key []) n := by
  obtain ⟨n, heq, hfree, -⟩ := argumentName_eq key taken
  obtain ⟨k, hk, -, hleast⟩ := argumentName_eq key []
  -- a name that is free although others are taken would have been free without them
  have hle : k ≤ n := by
    by_contra hlt
    have hblocked := hleast n (Nat.lt_of_not_le hlt)
    rw [isBlockedArgument_eq_false_iff] at hfree
    rw [isBlockedArgument_eq_false_iff.2 ⟨hfree.1, hfree.2.1, List.not_mem_nil⟩] at hblocked
    cases hblocked
  exact ⟨n - k, by rw [heq, hk, underscored_underscored, Nat.add_sub_cancel' hle]⟩

/-! ### The arguments of a method -/

/-- Arguments for several keys, each of which is taken for those after it. -/
def argumentsFor (taken : List String) : List String → List String
  | [] => []
  | key :: rest => argumentName key taken :: argumentsFor (argumentName key taken :: taken) rest

section Arguments

variable {taken keys : List String}

theorem length_argumentsFor : (argumentsFor taken keys).length = keys.length := by
  induction keys generalizing taken with
  | nil => rfl
  | cons key rest ih => simp [argumentsFor, ih]

/-- The arguments of a method are free. -/
theorem free_of_mem_argumentsFor {argument : String} (h : argument ∈ argumentsFor taken keys) :
    isBlockedArgument taken argument = false := by
  induction keys generalizing taken with
  | nil => cases h
  | cons key rest ih =>
    rcases List.mem_cons.1 h with rfl | h
    · exact argumentName_free key taken
    · obtain ⟨hword, hlist, hfree⟩ := isBlockedArgument_eq_false_iff.1 (ih h)
      exact isBlockedArgument_eq_false_iff.2 ⟨hword, hlist, fun hm => hfree (List.mem_cons_of_mem _ hm)⟩

/-- The arguments of a method are all different: each is taken for those after it. -/
theorem nodup_argumentsFor : (argumentsFor taken keys).Nodup := by
  induction keys generalizing taken with
  | nil => exact List.nodup_nil
  | cons key rest ih =>
    refine List.nodup_cons.2 ⟨fun h => ?_, ih⟩
    exact (isBlockedArgument_eq_false_iff.1 (free_of_mem_argumentsFor h)).2.2 List.mem_cons_self

/-- Each argument is the one that its key would have alone, with underscores behind it. -/
theorem forall₂_argumentsFor :
    List.Forall₂ (fun key argument => ∃ n, argument = underscored (argumentName key []) n) keys
      (argumentsFor taken keys) := by
  induction keys generalizing taken with
  | nil => exact List.Forall₂.nil
  | cons key rest ih => exact List.Forall₂.cons (exists_argumentName_eq key taken) ih

end Arguments

/-- Entries get the arguments for their keys. -/
theorem assignArguments_eq (typeName : ParameterEntry → String) (taken : List String) (entries : List ParameterEntry) :
    assignArguments taken (entries.zip (entries.map typeName)) =
      (entries.zip (argumentsFor taken (entries.map (·.key)))).map fun (e, argument) => (e, typeName e, argument) := by
  induction entries generalizing taken with
  | nil => rfl
  | cons e rest ih => simp [assignArguments, argumentsFor, ih]

end NavFactory
