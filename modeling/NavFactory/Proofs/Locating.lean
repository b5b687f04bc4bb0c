import Mathlib.Data.List.Induction
import NavFactory.Files.Access
import NavFactory.Proofs.Places

/-!
# Where paths lead

A path is followed name by name through the directories of a tree.  What it leads to is what its last name leads to
from the directory that the names before lead to (`Entry.Leads.concat`, `Entry.exists_leads_of_ok`).  In a tree in
which more stands than before, everything that was found is still found at its place (`Entry.Grows.locate_found`).
-/

namespace NavFactory

/-- Whether a text is a single step of a path. -/
def Path.IsStep (text : String) : Prop := Path.ofText text = ⟨"", [text]⟩

instance (text : String) : Decidable (Path.IsStep text) := inferInstanceAs (Decidable (_ = _))

theorem Path.child_of_isStep {step : String} (h : Path.IsStep step) (p : Path) :
    p.child step = ⟨p.root, p.parts ++ [step]⟩ := by
  rw [child, h]
  exact join_relative p _ rfl

namespace Entry

variable {tree tree' tree'' : Entry} {here parts rest names place : List String} {name : String} {p : Path}
  {found : Place}

/-! ### Following names -/

/-- Where a single name leads from a directory. -/
def step (tree : Entry) (here : List String) (name : String) : Except FileProblem Place :=
  if name = ".." then .ok (.found here.dropLast)
  else if maxNameLength < name.utf8ByteSize then .error .nameTooLong
  else if (tree.nodeAt? (here ++ [name])).isSome then .ok (.found (here ++ [name]))
  else .ok (.free here name)

private theorem nodeAt?_child {entries : List (String × Entry)} (h : tree.at? here = some (.directory entries))
    (name : String) : tree.nodeAt? (here ++ [name]) = ((directory entries).child? name).map node := by
  rw [nodeAt?, at?_append, h, Option.bind_some, at?_cons]
  cases (directory entries).child? name <;> simp

/-- The first name of a path decides where the rest is looked up. -/
theorem locateFrom_cons (h : tree.nodeAt? here = some .directory) (name : String) (rest : List String) :
    tree.locateFrom here (name :: rest) = match tree.step here name with
      | .ok (.found next) => tree.locateFrom next rest
      | .ok (.free above name) => if rest.isEmpty then .ok (.free above name) else .error .missing
      | .error problem => .error problem := by
  obtain ⟨entries, hd⟩ := nodeAt?_eq_directory_iff.1 h
  rw [locateFrom, hd, step, nodeAt?_child hd]
  simp only [beq_iff_eq, Option.isSome_map]
  by_cases hup : name = ".."
  · simp [hup]
  · rw [if_neg hup, if_neg hup]
    by_cases hlong : maxNameLength < name.utf8ByteSize
    · simp [hlong]
    · rw [if_neg hlong, if_neg hlong]
      cases (directory entries).child? name <;> rfl

theorem locateFrom_singleton (h : tree.nodeAt? here = some .directory) (name : String) :
    tree.locateFrom here [name] = tree.step here name := by
  rw [locateFrom_cons h]
  cases tree.step here name with
  | error problem => rfl
  | ok place => cases place <;> rfl

/-- A path goes on beyond a place only if that is a directory. -/
theorem directory_of_locateFrom_ok (h : tree.locateFrom here (name :: rest) = .ok found) :
    tree.nodeAt? here = some .directory := by
  rw [locateFrom] at h
  rw [nodeAt?]
  cases hd : tree.at? here with
  | none =>
    rw [hd] at h
    cases h
  | some d =>
    rw [hd] at h
    cases d with
    | file contents => cases h
    | directory entries => rfl

theorem locateFrom_append (hrest : rest ≠ []) (here parts : List String) :
    tree.locateFrom here (parts ++ rest) = match tree.locateFrom here parts with
      | .ok (.found next) => tree.locateFrom next rest
      | .ok (.free ..) => .error .missing
      | .error problem => .error problem := by
  induction parts generalizing here with
  | nil => rw [List.nil_append, locateFrom]
  | cons name parts ih =>
    rw [List.cons_append]
    by_cases hd : tree.nodeAt? here = some .directory
    · rw [locateFrom_cons hd, locateFrom_cons hd]
      cases tree.step here name with
      | error problem => rfl
      | ok place =>
        cases place with
        | found next => exact ih next
        | free above name => cases parts <;> simp [hrest]
    · rw [locateFrom, locateFrom]
      cases hat : tree.at? here with
      | none => rfl
      | some d =>
        cases d with
        | file contents => rfl
        | directory entries => exact absurd (nodeAt?_eq_directory_iff.2 ⟨entries, hat⟩) hd

/-- What can be wrong with names that are followed: one is missing, too long, or behind a file. -/
theorem problem_of_locateFrom {problem : FileProblem} (h : tree.locateFrom here parts = .error problem) :
    problem = .missing ∨ problem = .notDirectory ∨ problem = .nameTooLong := by
  induction parts generalizing here with
  | nil =>
    rw [locateFrom] at h
    cases h
  | cons name rest ih =>
    rw [locateFrom] at h
    split at h
    · cases h
      exact .inl rfl
    · cases h
      exact .inr (.inl rfl)
    · rename_i d _ _
      cases hchild : d.child? name with
      | some c =>
        simp only [hchild] at h
        split_ifs at h
        · exact ih h
        · cases h
          exact .inr (.inr rfl)
        · exact ih h
      | none =>
        simp only [hchild] at h
        split_ifs at h
        · exact ih h
        · cases h
          exact .inr (.inr rfl)
        · cases h
          exact .inl rfl

/-- Names on the way from the top of a tree to a directory. -/
structure Leads (tree : Entry) (parts here : List String) : Prop where
  located : tree.locateFrom [] parts = .ok (.found here)
  directory : tree.nodeAt? here = some .directory

/-- One more name behind those that lead to a directory. -/
theorem Leads.concat (h : tree.Leads parts here) (name : String) :
    tree.locateFrom [] (parts ++ [name]) = tree.step here name := by
  rw [locateFrom_append (List.cons_ne_nil _ _), h.located]
  exact locateFrom_singleton h.directory name

/-- What several names lead to is what the last one leads to from a directory. -/
theorem exists_leads_of_ok (h : tree.locateFrom [] (parts ++ [name]) = .ok found) :
    ∃ here, tree.Leads parts here ∧ tree.step here name = .ok found := by
  rw [locateFrom_append (List.cons_ne_nil _ _)] at h
  cases hparts : tree.locateFrom [] parts with
  | error problem =>
    rw [hparts] at h
    cases h
  | ok place =>
    rw [hparts] at h
    cases place with
    | free above name => cases h
    | found here =>
      have hleads : tree.Leads parts here := ⟨hparts, directory_of_locateFrom_ok h⟩
      exact ⟨here, hleads, by rw [← h]; exact (locateFrom_singleton hleads.directory name).symm⟩

theorem step_eq_found_iff : tree.step here name = .ok (.found place) ↔
    name = ".." ∧ place = here.dropLast ∨
      name ≠ ".." ∧ name.utf8ByteSize ≤ maxNameLength ∧ place = here ++ [name] ∧ (tree.nodeAt? place).isSome := by
  rw [step]
  split_ifs with hup hlong hthere
  · constructor
    · rintro ⟨⟩
      exact .inl ⟨hup, rfl⟩
    · rintro (⟨-, rfl⟩ | ⟨hup', -⟩)
      · rfl
      · exact absurd hup hup'
  · simp [hup, Nat.not_le.2 hlong]
  · constructor
    · rintro ⟨⟩
      exact .inr ⟨hup, Nat.not_lt.1 hlong, rfl, hthere⟩
    · rintro (⟨hup', -⟩ | ⟨-, -, rfl, -⟩)
      · exact absurd hup' hup
      · rfl
  · constructor
    · rintro ⟨⟩
    · rintro (⟨hup', -⟩ | ⟨-, -, rfl, hsome⟩)
      · exact absurd hup' hup
      · exact absurd hsome hthere

theorem step_eq_free_iff {above : List String} {n : String} :
    tree.step here name = .ok (.free above n) ↔
      (above = here ∧ n = name) ∧ name ≠ ".." ∧ name.utf8ByteSize ≤ maxNameLength ∧
        tree.nodeAt? (here ++ [name]) = none := by
  rw [step]
  split_ifs with hup hlong hthere
  · simp [hup]
  · simp [Nat.not_le.2 hlong]
  · simp [Option.isSome_iff_ne_none.1 hthere]
  · constructor
    · rintro ⟨⟩
      exact ⟨⟨rfl, rfl⟩, hup, Nat.not_lt.1 hlong, Option.not_isSome_iff_eq_none.1 hthere⟩
    · rintro ⟨⟨rfl, rfl⟩, -⟩
      rfl

/-- A free name belongs to a directory that is there. -/
theorem free_of_locateFrom {above : List String} (h : tree.locateFrom [] parts = .ok (.free above name)) :
    parts = parts.dropLast ++ [name] ∧ tree.Leads parts.dropLast above ∧ name ≠ ".." ∧
      name.utf8ByteSize ≤ maxNameLength ∧ tree.nodeAt? (above ++ [name]) = none := by
  obtain rfl | ⟨init, last, rfl⟩ := List.eq_nil_or_concat' parts
  · cases h
  · obtain ⟨here, hleads, hstep⟩ := exists_leads_of_ok h
    obtain ⟨⟨rfl, rfl⟩, hup, hfits, hfree⟩ := step_eq_free_iff.1 hstep
    rw [List.dropLast_concat]
    exact ⟨rfl, hleads, hup, hfits, hfree⟩

private theorem nodeAt?_dropLast (h : (tree.nodeAt? place).isSome) : (tree.nodeAt? place.dropLast).isSome := by
  obtain rfl | ⟨init, last, rfl⟩ := List.eq_nil_or_concat' place
  · exact h
  · rw [List.dropLast_concat, nodeAt?_of_below (List.cons_ne_nil _ _) h]
    rfl

/-- Something stands at a place that is found. -/
theorem isSome_of_found (h : tree.locateFrom [] parts = .ok (.found place)) : (tree.nodeAt? place).isSome := by
  obtain rfl | ⟨init, last, rfl⟩ := List.eq_nil_or_concat' parts
  · cases h
    rfl
  · obtain ⟨here, hleads, hstep⟩ := exists_leads_of_ok h
    obtain ⟨-, rfl⟩ | ⟨-, -, -, hthere⟩ := step_eq_found_iff.1 hstep
    · exact nodeAt?_dropLast (by rw [hleads.directory]; rfl)
    · exact hthere

/-- A file below the top of a tree is found behind its own name. -/
theorem leads_of_file {contents : List UInt8} (h : tree.locateFrom [] parts = .ok (.found place))
    (hplace : place ≠ []) (hfile : tree.nodeAt? place = some (.file contents)) :
    ∃ init name here, parts = init ++ [name] ∧ place = here ++ [name] ∧ tree.Leads init here ∧ name ≠ ".." ∧
      name.utf8ByteSize ≤ maxNameLength := by
  obtain rfl | ⟨init, name, rfl⟩ := List.eq_nil_or_concat' parts
  · cases h
    exact absurd rfl hplace
  · obtain ⟨here, hleads, hstep⟩ := exists_leads_of_ok h
    obtain ⟨-, rfl⟩ | ⟨hup, hfits, rfl, -⟩ := step_eq_found_iff.1 hstep
    · obtain rfl | ⟨above, last, rfl⟩ := List.eq_nil_or_concat' here
      · exact absurd rfl hplace
      · rw [List.dropLast_concat] at hfile
        have hdirectory := nodeAt?_of_below (List.cons_ne_nil _ _) (by rw [hleads.directory]; rfl)
        rw [hfile] at hdirectory
        cases hdirectory
    · exact ⟨init, name, here, rfl, rfl, hleads, hup, hfits⟩

theorem Leads.eq (h : tree.Leads parts here) {there : List String} (h' : tree.Leads parts there) : there = here := by
  have := h.located.symm.trans h'.located
  cases this
  rfl

theorem leads_nil (h : tree.nodeAt? [] = some .directory) : tree.Leads [] [] := ⟨by rw [locateFrom], h⟩

/-- The top of a tree in which names lead to a directory is one. -/
theorem Leads.top (h : tree.Leads parts here) : tree.nodeAt? [] = some .directory := by
  cases here with
  | nil => exact h.directory
  | cons name rest => exact nodeAt?_of_below (List.cons_ne_nil name rest) (by rw [List.nil_append, h.directory]; rfl)

/-- A directory is reached by its own names, which are among those on any way to it and never a double dot. -/
theorem Leads.self (h : tree.Leads parts here) : tree.Leads here here ∧ ".." ∉ here ∧ here ⊆ parts := by
  induction parts using List.reverseRecOn generalizing here with
  | nil =>
    cases h.located
    exact ⟨h, by simp, List.Subset.refl _⟩
  | append_singleton parts name ih =>
    obtain ⟨above, hleads, hstep⟩ := exists_leads_of_ok h.located
    obtain ⟨hself, hnames, hsub⟩ := ih hleads
    obtain ⟨rfl, rfl⟩ | ⟨hup, hfits, rfl, hthere⟩ := step_eq_found_iff.1 hstep
    · have hbelow : above.dropLast ⊆ parts ++ [".."] := fun x hx =>
        List.mem_append_left _ (hsub (List.dropLast_subset _ hx))
      refine ⟨?_, fun hmem => hnames (List.dropLast_subset _ hmem), hbelow⟩
      obtain rfl | ⟨init, last, rfl⟩ := List.eq_nil_or_concat' above
      · exact hself
      · obtain ⟨there, hthere, hlast⟩ := exists_leads_of_ok hself.located
        obtain ⟨rfl, -⟩ | ⟨-, -, heq, -⟩ := step_eq_found_iff.1 hlast
        · exact absurd (List.mem_append_right _ List.mem_cons_self) hnames
        · obtain ⟨rfl, -⟩ := List.append_inj' heq rfl
          rw [List.dropLast_concat]
          exact hthere
    · refine ⟨⟨?_, h.directory⟩, ?_, ?_⟩
      · rw [hself.concat, step_eq_found_iff]
        exact .inr ⟨hup, hfits, rfl, hthere⟩
      · simp [hnames, hup.symm]
      · exact List.append_subset.2 ⟨fun x hx => List.mem_append_left _ (hsub hx), List.subset_append_right _ _⟩

/-- Where names lead is where they point to without looking at the tree. -/
theorem collapse_of_found (h : tree.locateFrom here parts = .ok (.found place)) : Path.collapse here parts = place := by
  induction parts generalizing here with
  | nil =>
    cases h
    rfl
  | cons name rest ih =>
    rw [locateFrom_cons (directory_of_locateFrom_ok h)] at h
    cases hstep : tree.step here name with
    | error problem =>
      rw [hstep] at h
      cases h
    | ok found =>
      rw [hstep] at h
      cases found with
      | free above name =>
        simp only at h
        split_ifs at h
        cases h
      | found next =>
        have hrest := ih h
        obtain ⟨rfl, rfl⟩ | ⟨hup, -, rfl, -⟩ := step_eq_found_iff.1 hstep
        · exact hrest
        · rw [← hrest, Path.collapse]
          exact hup

/-! ### Absolute paths -/

theorem hasNull_eq_false_iff : p.hasNull = false ↔ ∀ part ∈ p.parts, '\x00' ∉ part.toList := by
  simp [Path.hasNull]

theorem locate_eq_ok_iff : tree.locate p = .ok found ↔
    p.hasNull = false ∧ tree.locateFrom [] p.parts = .ok found := by
  rw [locate]
  cases p.hasNull with
  | true => exact ⟨fun h => (by cases h), fun h => (by cases h.1)⟩
  | false => cases tree.locateFrom [] p.parts <;> simp

/-- An entry is found at the place that its path leads to. -/
theorem find_eq_ok_iff {e : Entry} : tree.find p = .ok e ↔
    ∃ place, tree.locate p = .ok (.found place) ∧ tree.at? place = some e := by
  rw [find]
  cases tree.locate p with
  | error fault => simp [bind, Except.bind]
  | ok found =>
    cases found with
    | free above name => simp [bind, Except.bind]
    | found place => cases hat : tree.at? place <;> simp [bind, Except.bind, hat]

theorem locate_of_nil (tree : Entry) (hparts : p.parts = []) : tree.locate p = .ok (.found []) := by
  rw [locate, Path.hasNull, hparts]
  rfl

/-- Where the path of a name in a directory leads. -/
theorem Leads.locate (h : tree.Leads parts here) (hparts : p.parts = parts ++ [name])
    (hnull : ∀ part ∈ p.parts, '\x00' ∉ part.toList) (hup : name ≠ "..") (hfits : name.utf8ByteSize ≤ maxNameLength) :
    tree.locate p =
      .ok (if (tree.nodeAt? (here ++ [name])).isSome then .found (here ++ [name]) else .free here name) := by
  rw [locate_eq_ok_iff, hparts, h.concat, step, if_neg hup, if_neg (Nat.not_lt.2 hfits)]
  refine ⟨hasNull_eq_false_iff.2 hnull, ?_⟩
  split_ifs <;> rfl

theorem path_of_locate_error {fault : FileFault} (h : tree.locate p = .error fault) : fault.path = p := by
  rw [locate] at h
  split_ifs at h
  · cases h
    rfl
  · cases hfrom : tree.locateFrom [] p.parts with
    | ok found =>
      rw [hfrom] at h
      cases h
    | error problem =>
      rw [hfrom] at h
      cases h
      rfl

/-- What a test of a path says depends on where it leads and what stands there. -/
theorem holds_eq (tree : Entry) (p : Path) (test : Node → Bool) :
    (tree.holds p fun e => test e.node) = match tree.locate p with
      | .error fault => if fault.isAbsence then .ok false else .error fault
      | .ok (.free ..) => .ok false
      | .ok (.found place) => .ok ((tree.nodeAt? place).any test) := by
  rw [holds, find]
  cases tree.locate p with
  | error fault => rfl
  | ok found =>
    cases found with
    | free above name => rfl
    | found place =>
      simp only [bind, Except.bind, nodeAt?]
      cases tree.at? place <;> rfl

/-- Whether there is something at a path depends on where it leads. -/
theorem hasEntry_congr (h : tree'.locate p = tree.locate p) : tree'.hasEntry p = tree.hasEntry p := by
  have heq : ∀ tree : Entry, tree.hasEntry p = _ := fun tree => holds_eq tree p fun _ => true
  rw [heq, heq, h]
  cases hlocate : tree.locate p with
  | error fault => rfl
  | ok found =>
    cases found with
    | free above name => rfl
    | found place =>
      obtain ⟨node, hnode⟩ := Option.isSome_iff_exists.1 (isSome_of_found (locate_eq_ok_iff.1 hlocate).2)
      obtain ⟨node', hnode'⟩ := Option.isSome_iff_exists.1 (isSome_of_found (locate_eq_ok_iff.1 (h.trans hlocate)).2)
      simp only [hnode, hnode', Option.any_some]

theorem hasDirectory_eq (tree : Entry) (p : Path) : tree.hasDirectory p = tree.holds p fun e => e.node.isDirectory := by
  simp only [hasDirectory, isDirectory_node]

/-- Whether there is a directory at a path depends on where it leads, and what kind of thing stands there. -/
theorem hasDirectory_congr (h : tree'.locate p = tree.locate p)
    (hkind : ∀ place, tree.locate p = .ok (.found place) → tree'.kindAt? place = tree.kindAt? place) :
    tree'.hasDirectory p = tree.hasDirectory p := by
  have hany : ∀ (tree : Entry) place, (tree.nodeAt? place).any Node.isDirectory = (tree.kindAt? place).any id := by
    intro tree place
    rw [kindAt?]
    cases tree.nodeAt? place <;> rfl
  rw [hasDirectory_eq, hasDirectory_eq, holds_eq, holds_eq, h]
  cases hlocate : tree.locate p with
  | error fault => rfl
  | ok found =>
    cases found with
    | free above name => rfl
    | found place => simp only [hany, hkind place hlocate]

theorem hasDirectory_of_found (h : tree.locate p = .ok (.found here)) :
    tree.hasDirectory p = .ok (tree.nodeAt? here = some .directory) := by
  rw [hasDirectory_eq, holds_eq, h]
  dsimp only
  cases tree.nodeAt? here with
  | none => simp
  | some node => cases node <;> simp [Node.isDirectory]

/-- A path to a directory, if a test finds one there. -/
theorem found_of_hasDirectory (h : tree.hasDirectory p = .ok true) :
    ∃ here, tree.locate p = .ok (.found here) ∧ tree.nodeAt? here = some .directory := by
  rw [hasDirectory_eq, holds_eq] at h
  cases hlocate : tree.locate p with
  | error fault =>
    rw [hlocate] at h
    simp only at h
    split_ifs at h
    cases h
  | ok found =>
    rw [hlocate] at h
    cases found with
    | free above name => cases h
    | found here =>
      rw [Except.ok.injEq, Option.any_eq_true] at h
      obtain ⟨node, hnode, hdirectory⟩ := h
      cases node with
      | file contents => cases hdirectory
      | directory => exact ⟨here, rfl, hnode⟩

/-- Whether a path leads to the same in two trees, and the same stands there. -/
structure SameAt (tree tree' : Entry) (p : Path) : Prop where
  locate : tree'.locate p = tree.locate p
  node : ∀ place, tree.locate p = .ok (.found place) → tree'.nodeAt? place = tree.nodeAt? place

/-! ### Trees that grow -/

/-- Everything that stands in a tree still stands in another, and every directory of the one is a directory of the
other. -/
structure Grows (tree tree' : Entry) : Prop where
  isSome : ∀ names, (tree.nodeAt? names).isSome → (tree'.nodeAt? names).isSome
  directory : ∀ names, tree.nodeAt? names = some .directory → tree'.nodeAt? names = some .directory

namespace Grows

theorem refl (tree : Entry) : tree.Grows tree := ⟨fun _ => id, fun _ => id⟩

theorem trans (h : tree.Grows tree') (h' : tree'.Grows tree'') : tree.Grows tree'' :=
  ⟨fun names hs => h'.isSome names (h.isSome names hs), fun names hd => h'.directory names (h.directory names hd)⟩

end Grows

/-- Names lead to the same directory where all directories of a tree are kept. -/
theorem Leads.mono (h : tree.Leads parts here)
    (hkeeps : ∀ names, tree.nodeAt? names = some .directory → tree'.nodeAt? names = some .directory) :
    tree'.Leads parts here := by
  induction parts using List.reverseRecOn generalizing here with
  | nil =>
    obtain ⟨hlocated, hdirectory⟩ := h
    cases hlocated
    exact ⟨by rw [locateFrom], hkeeps _ hdirectory⟩
  | append_singleton parts name ih =>
    obtain ⟨above, hleads, hstep⟩ := exists_leads_of_ok h.located
    have hleads' := ih hleads
    refine ⟨?_, hkeeps _ h.directory⟩
    rw [hleads'.concat, step_eq_found_iff]
    exact (step_eq_found_iff.1 hstep).imp_right fun ⟨hup, hfits, hplace, _⟩ =>
      ⟨hup, hfits, hplace, by rw [hkeeps _ h.directory]; rfl⟩

theorem Grows.leads (hgrows : tree.Grows tree') (h : tree.Leads parts here) : tree'.Leads parts here :=
  h.mono hgrows.directory

/-- What is found in a tree is found at its place in a tree that has grown from it. -/
theorem Grows.locate_found (hgrows : tree.Grows tree') (h : tree.locate p = .ok (.found place)) :
    tree'.locate p = .ok (.found place) := by
  obtain ⟨hnull, h⟩ := locate_eq_ok_iff.1 h
  refine locate_eq_ok_iff.2 ⟨hnull, ?_⟩
  obtain hparts | ⟨init, last, hparts⟩ := List.eq_nil_or_concat' p.parts <;> rw [hparts] at h ⊢
  · exact h
  · obtain ⟨here, hleads, hstep⟩ := exists_leads_of_ok h
    rw [(hgrows.leads hleads).concat, step_eq_found_iff]
    exact (step_eq_found_iff.1 hstep).imp_right fun ⟨hup, hfits, hplace, hthere⟩ =>
      ⟨hup, hfits, hplace, hgrows.isSome _ hthere⟩

/-- A path that led to a free name leads to what has been put there. -/
theorem Grows.locate_free {above : List String} (hgrows : tree.Grows tree')
    (h : tree.locate p = .ok (.free above name)) (hthere : (tree'.nodeAt? (above ++ [name])).isSome) :
    tree'.locate p = .ok (.found (above ++ [name])) := by
  obtain ⟨hnull, h⟩ := locate_eq_ok_iff.1 h
  refine locate_eq_ok_iff.2 ⟨hnull, ?_⟩
  obtain hparts | ⟨init, last, hparts⟩ := List.eq_nil_or_concat' p.parts <;> rw [hparts] at h ⊢
  · cases h
  · obtain ⟨here, hleads, hstep⟩ := exists_leads_of_ok h
    obtain ⟨⟨rfl, rfl⟩, hup, hlong, -⟩ := step_eq_free_iff.1 hstep
    rw [(hgrows.leads hleads).concat, step, if_neg hup, if_neg (Nat.not_lt.2 hlong), if_pos hthere]

theorem grows_put_file (h : tree.HasPlace place) (hold : tree.nodeAt? place ≠ some .directory)
    (contents : List UInt8) : tree.Grows (tree.put place (.file contents)) where
  isSome names hs := by
    rw [nodeAt?_put_file h hold]
    split_ifs <;> simp [hs]
  directory names hd := by
    rw [nodeAt?_put_file h hold, if_neg (by rintro rfl; exact hold hd)]
    exact hd

theorem grows_put_emptyDirectory (h : tree.HasPlace place) (hfree : tree.nodeAt? place = none) :
    tree.Grows (tree.put place .emptyDirectory) where
  isSome names hs := by
    rw [nodeAt?_put_emptyDirectory h hfree]
    split_ifs <;> simp [hs]
  directory names hd := by
    rw [nodeAt?_put_emptyDirectory h hfree]
    split_ifs <;> simp [hd]

end Entry

end NavFactory
