import Mathlib.Data.List.Basic
import NavFactory.Files.Tree

/-!
# Places of a file tree

A tree is seen as what stands at each of its places (`Entry.nodeAt?`).  Setting the entry of a place changes what stands
there and below it, and nothing else (`Entry.nodeAt?_put`); what was put into a free place is removed without a trace
(`Entry.erase_put`).
-/

namespace NavFactory

/-- What stands at a place of a file tree. -/
inductive Node
  | file (contents : List UInt8)
  | directory
deriving DecidableEq

def Node.isDirectory : Node → Bool
  | .directory => true
  | .file _ => false

namespace Entry

/-- What an entry is, apart from what it holds as a directory. -/
def node : Entry → Node
  | .file contents => .file contents
  | .directory _ => .directory

/-- What stands at the place that names lead to. -/
def nodeAt? (e : Entry) (names : List String) : Option Node := (e.at? names).map node

/-- Whether what stands at a place is a directory, if anything stands there. -/
def kindAt? (e : Entry) (names : List String) : Option Bool := (e.nodeAt? names).map Node.isDirectory

variable {e new : Entry} {names place rest : List String} {name : String} {contents : List UInt8}

theorem node_eq_directory_iff : e.node = .directory ↔ ∃ entries, e = .directory entries := by
  cases e <;> simp [node]

theorem node_eq_file_iff : e.node = .file contents ↔ e = .file contents := by
  cases e <;> simp [node]

theorem isDirectory_node (e : Entry) : e.node.isDirectory = e.isDirectory := by
  cases e <;> rfl

theorem at?_cons (e : Entry) (name : String) (rest : List String) :
    e.at? (name :: rest) = (e.child? name).bind (·.at? rest) := by
  rw [at?]
  cases e.child? name <;> rfl

theorem at?_append (e : Entry) (names rest : List String) : e.at? (names ++ rest) = (e.at? names).bind (·.at? rest) := by
  induction names generalizing e with
  | nil => rw [List.nil_append, at?_nil, Option.bind_some]
  | cons name names ih =>
    rw [List.cons_append, at?_cons, at?_cons]
    cases e.child? name with
    | none => rfl
    | some c => exact ih c

@[simp] theorem nodeAt?_nil (e : Entry) : e.nodeAt? [] = some e.node := by simp [nodeAt?]

theorem nodeAt?_cons (e : Entry) (name : String) (rest : List String) :
    e.nodeAt? (name :: rest) = (e.child? name).bind (·.nodeAt? rest) := by
  rw [nodeAt?, at?_cons]
  cases e.child? name <;> rfl

theorem nodeAt?_eq_none_iff : e.nodeAt? names = none ↔ e.at? names = none := Option.map_eq_none_iff

theorem nodeAt?_eq_directory_iff :
    e.nodeAt? names = some .directory ↔ ∃ entries, e.at? names = some (.directory entries) := by
  rw [nodeAt?, Option.map_eq_some_iff]
  constructor
  · rintro ⟨d, hd, hnode⟩
    obtain ⟨entries, rfl⟩ := node_eq_directory_iff.1 hnode
    exact ⟨entries, hd⟩
  · rintro ⟨entries, hd⟩
    exact ⟨_, hd, rfl⟩

theorem nodeAt?_eq_file_iff : e.nodeAt? names = some (.file contents) ↔ e.at? names = some (.file contents) := by
  rw [nodeAt?, Option.map_eq_some_iff]
  constructor
  · rintro ⟨d, hd, hnode⟩
    rw [hd, node_eq_file_iff.1 hnode]
  · exact fun hd => ⟨_, hd, rfl⟩

/-- Only a directory has something below it. -/
theorem nodeAt?_of_below (hrest : rest ≠ []) (h : (e.nodeAt? (names ++ rest)).isSome) :
    e.nodeAt? names = some .directory := by
  rw [nodeAt?, at?_append, Option.isSome_map] at h
  rw [nodeAt?]
  obtain ⟨name, rest, rfl⟩ := List.exists_cons_of_ne_nil hrest
  cases hd : e.at? names with
  | none =>
    rw [hd] at h
    cases h
  | some d =>
    cases d with
    | directory entries => rfl
    | file contents =>
      rw [hd, Option.bind_some, at?_cons] at h
      cases h

/-! ### Setting an entry -/

/-- A place that can be set: some names, of which the last belongs to a directory that is there. -/
structure HasPlace (e : Entry) (place : List String) : Prop where
  ne_nil : place ≠ []
  parent : e.nodeAt? place.dropLast = some .directory

theorem HasPlace.of_append (h : e.nodeAt? names = some .directory) (name : String) : e.HasPlace (names ++ [name]) where
  ne_nil := by simp
  parent := by rwa [List.dropLast_concat]

theorem hasPlace_cons_iff (hrest : rest ≠ []) :
    e.HasPlace (name :: rest) ↔ ∃ entries c, e = .directory entries ∧ entries.lookup name = some c ∧ c.HasPlace rest := by
  obtain ⟨next, rest, rfl⟩ := List.exists_cons_of_ne_nil hrest
  constructor
  · rintro ⟨-, hparent⟩
    rw [List.dropLast_cons_cons, nodeAt?_cons] at hparent
    cases e with
    | file contents => cases hparent
    | directory entries =>
      obtain ⟨c, hc, hparent⟩ := Option.bind_eq_some_iff.1 hparent
      exact ⟨entries, c, rfl, hc, List.cons_ne_nil _ _, hparent⟩
  · rintro ⟨entries, c, rfl, hc, -, hparent⟩
    refine ⟨List.cons_ne_nil _ _, ?_⟩
    rw [List.dropLast_cons_cons, nodeAt?_cons, show (directory entries).child? name = some c from hc, Option.bind_some]
    exact hparent

theorem hasPlace_singleton_iff : e.HasPlace [name] ↔ ∃ entries, e = .directory entries := by
  rw [← node_eq_directory_iff]
  constructor
  · intro h
    simpa using h.parent
  · exact fun h => ⟨List.cons_ne_nil _ _, by simpa using h⟩

theorem put_below {entries : List (String × Entry)} {c : Entry} (hc : entries.lookup name = some c)
    (hrest : rest ≠ []) (new : Entry) :
    (directory entries).put (name :: rest) new = .directory (setEntry name (c.put rest new) entries) := by
  obtain ⟨next, rest, rfl⟩ := List.exists_cons_of_ne_nil hrest
  rw [put, hc]
  simp

private theorem erase_below {entries : List (String × Entry)} {c : Entry} (hc : entries.lookup name = some c)
    (hrest : rest ≠ []) : (directory entries).erase (name :: rest) = .directory (setEntry name (c.erase rest) entries) := by
  obtain ⟨next, rest, rfl⟩ := List.exists_cons_of_ne_nil hrest
  rw [erase, hc]
  simp

private theorem nodeAt?_directory_setEntry (name : String) (new : Entry) (entries : List (String × Entry)) (m : String)
    (rest : List String) :
    (directory (setEntry name new entries)).nodeAt? (m :: rest) =
      if m = name then new.nodeAt? rest else (directory entries).nodeAt? (m :: rest) := by
  rw [nodeAt?_cons, nodeAt?_cons, child?, child?, Entry.entries, Entry.entries, lookup_setEntry]
  split <;> rfl

/-- Setting the entry of a place changes what stands there and below it, and nothing else. -/
theorem nodeAt?_put (h : e.HasPlace place) (new : Entry) (names : List String) :
    (e.put place new).nodeAt? names =
      if place <+: names then new.nodeAt? (names.drop place.length) else e.nodeAt? names := by
  induction place generalizing e names with
  | nil => exact absurd rfl h.ne_nil
  | cons name rest ih =>
    by_cases hrest : rest = []
    · subst hrest
      obtain ⟨entries, rfl⟩ := hasPlace_singleton_iff.1 h
      cases names with
      | nil => simp [put, node]
      | cons m names =>
        rw [put, nodeAt?_directory_setEntry]
        by_cases hm : m = name
        · simp [hm]
        · rw [if_neg hm, if_neg fun hprefix => hm (List.cons_prefix_cons.1 hprefix).1.symm]
    · obtain ⟨entries, c, rfl, hc, hplace⟩ := (hasPlace_cons_iff hrest).1 h
      rw [put_below hc hrest]
      cases names with
      | nil => simp [node]
      | cons m names =>
        rw [nodeAt?_directory_setEntry]
        by_cases hm : m = name
        · rw [if_pos hm, ih hplace, hm, List.length_cons, List.drop_succ_cons, nodeAt?_cons,
            show (directory entries).child? name = some c from hc, Option.bind_some]
          simp
        · rw [if_neg hm, if_neg fun hprefix => hm (List.cons_prefix_cons.1 hprefix).1.symm]

/-- A place that is no directory has nothing below it. -/
private theorem nodeAt?_below_eq_none (h : e.nodeAt? place ≠ some .directory) (hrest : rest ≠ []) :
    e.nodeAt? (place ++ rest) = none := by
  by_contra hsome
  exact h (nodeAt?_of_below hrest (Option.isSome_iff_ne_none.2 hsome))

private theorem nodeAt?_put_leaf (h : e.HasPlace place) (hold : e.nodeAt? place ≠ some .directory)
    (hleaf : ∀ name rest, new.nodeAt? (name :: rest) = none) (names : List String) :
    (e.put place new).nodeAt? names = if names = place then some new.node else e.nodeAt? names := by
  rw [nodeAt?_put h]
  by_cases hn : names = place
  · simp [hn]
  · rw [if_neg hn]
    split
    · rename_i hprefix
      obtain ⟨rest, rfl⟩ := hprefix
      have hrest : rest ≠ [] := fun he => hn (by rw [he, List.append_nil])
      obtain ⟨name, below, rfl⟩ := List.exists_cons_of_ne_nil hrest
      rw [List.drop_left, hleaf, nodeAt?_below_eq_none hold hrest]
    · rfl

/-- A file that is put into a place where no directory stands. -/
theorem nodeAt?_put_file (h : e.HasPlace place) (hold : e.nodeAt? place ≠ some .directory) (contents : List UInt8)
    (names : List String) :
    (e.put place (.file contents)).nodeAt? names = if names = place then some (.file contents) else e.nodeAt? names :=
  nodeAt?_put_leaf h hold (fun _ _ => rfl) names

/-- A directory that is made in a free place. -/
theorem nodeAt?_put_emptyDirectory (h : e.HasPlace place) (hfree : e.nodeAt? place = none) (names : List String) :
    (e.put place .emptyDirectory).nodeAt? names = if names = place then some .directory else e.nodeAt? names :=
  nodeAt?_put_leaf h (by simp [hfree]) (fun _ _ => rfl) names

/-- Setting something below an entry sets it in that entry. -/
theorem at?_put_append {d : Entry} (h : e.at? names = some d) (hrest : rest ≠ []) (new : Entry) :
    (e.put (names ++ rest) new).at? names = some (d.put rest new) := by
  induction names generalizing e with
  | nil =>
    rw [at?_nil] at h
    cases h
    rw [List.nil_append, at?_nil]
  | cons first names ih =>
    rw [at?_cons] at h
    obtain ⟨c, hc, hat⟩ := Option.bind_eq_some_iff.1 h
    cases e with
    | file contents => cases hc
    | directory entries =>
      have hlookup : entries.lookup first = some c := hc
      rw [List.cons_append, put_below hlookup (by simp [hrest]), at?_cons, child?, Entry.entries, lookup_setEntry,
        if_pos rfl, Option.bind_some]
      exact ih hat

/-- Setting something that is neither above nor below an entry leaves it as it is. -/
theorem at?_put_of_apart (h : e.HasPlace place) (habove : ¬place <+: names) (hbelow : ¬names <+: place)
    (new : Entry) : (e.put place new).at? names = e.at? names := by
  induction place generalizing e names with
  | nil => exact absurd rfl h.ne_nil
  | cons name rest ih =>
    cases names with
    | nil => exact absurd (List.nil_prefix) hbelow
    | cons m names =>
      rw [List.cons_prefix_cons, not_and] at habove hbelow
      by_cases hrest : rest = []
      · subst hrest
        have hm : m ≠ name := fun heq => habove heq.symm List.nil_prefix
        obtain ⟨entries, rfl⟩ := hasPlace_singleton_iff.1 h
        rw [put, at?_cons, at?_cons, child?, child?, Entry.entries, Entry.entries, lookup_setEntry, if_neg hm]
      · obtain ⟨entries, c, rfl, hc, hplace⟩ := (hasPlace_cons_iff hrest).1 h
        rw [put_below hc hrest, at?_cons, at?_cons, child?, child?, Entry.entries, Entry.entries, lookup_setEntry]
        split_ifs with hm
        · rw [hm, hc, Option.bind_some, Option.bind_some]
          exact ih hplace (habove hm.symm) (hbelow hm)
        · rfl

/-- The entries of a directory in which a name is set. -/
theorem at?_put_concat {entries : List (String × Entry)} (h : e.at? names = some (.directory entries)) (name : String)
    (new : Entry) : (e.put (names ++ [name]) new).at? names = some (.directory (setEntry name new entries)) := by
  rw [at?_put_append h (List.cons_ne_nil _ _), put]

theorem length_setEntry_le (name : String) (new : Entry) (entries : List (String × Entry)) :
    (setEntry name new entries).length ≤ entries.length + 1 := by
  induction entries with
  | nil => exact Nat.le_refl _
  | cons entry rest ih =>
    rw [setEntry]
    split_ifs
    · simp
    · simpa using ih

/-! ### Removing an entry -/

private theorem filter_setEntry {entries : List (String × Entry)} (h : entries.lookup name = none) (new : Entry) :
    (setEntry name new entries).filter (·.1 != name) = entries := by
  induction entries with
  | nil => simp [setEntry]
  | cons entry rest ih =>
    obtain ⟨m, c⟩ := entry
    by_cases hm : name = m
    · simp [hm] at h
    · rw [List.lookup_cons, beq_eq_false_iff_ne.2 hm] at h
      simp [setEntry, hm, ih h, Ne.symm hm]

private theorem setEntry_setEntry (name : String) (new new' : Entry) (entries : List (String × Entry)) :
    setEntry name new (setEntry name new' entries) = setEntry name new entries := by
  induction entries with
  | nil => simp [setEntry]
  | cons entry rest ih =>
    obtain ⟨m, c⟩ := entry
    by_cases hm : name = m
    · simp [setEntry, hm]
    · simp [setEntry, hm, ih]

private theorem setEntry_self {entries : List (String × Entry)} {c : Entry} (h : entries.lookup name = some c) :
    setEntry name c entries = entries := by
  induction entries with
  | nil => cases h
  | cons entry rest ih =>
    obtain ⟨m, c'⟩ := entry
    by_cases hm : name = m
    · subst hm
      obtain rfl : c' = c := by simpa using h
      simp [setEntry]
    · rw [List.lookup_cons, beq_eq_false_iff_ne.2 hm] at h
      simp [setEntry, hm, ih h]

/-- What is put into a free place is removed without a trace. -/
theorem erase_put (h : e.HasPlace place) (hfree : e.nodeAt? place = none) (new : Entry) :
    (e.put place new).erase place = e := by
  induction place generalizing e with
  | nil => exact absurd rfl h.ne_nil
  | cons name rest ih =>
    by_cases hrest : rest = []
    · subst hrest
      obtain ⟨entries, rfl⟩ := hasPlace_singleton_iff.1 h
      have hlookup : entries.lookup name = none := by
        cases hc : entries.lookup name with
        | none => rfl
        | some c => simp [nodeAt?_cons, child?, Entry.entries, hc] at hfree
      rw [put, erase, filter_setEntry hlookup]
    · obtain ⟨entries, c, rfl, hc, hplace⟩ := (hasPlace_cons_iff hrest).1 h
      have hbelow : c.nodeAt? rest = none := by
        rwa [nodeAt?_cons, show (directory entries).child? name = some c from hc, Option.bind_some] at hfree
      rw [put_below hc hrest, erase_below (by rw [lookup_setEntry, if_pos rfl]) hrest, ih hplace hbelow,
        setEntry_setEntry, setEntry_self hc]

end Entry

end NavFactory
