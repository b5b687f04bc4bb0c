/-!
# File trees

An entry of a file tree is a file with its bytes or a directory of named entries.  `at?` looks an entry up by the
names on the way to it, `put` sets it, and `erase` removes it.
-/

namespace NavFactory

/-- A file or a directory. -/
inductive Entry
  | file (contents : List UInt8)
  | directory (entries : List (String × Entry))

namespace Entry

/-- A directory that holds nothing. -/
def emptyDirectory : Entry := .directory []

def isDirectory : Entry → Bool
  | .directory _ => true
  | .file _ => false

/-- The entries of a directory; a file has none. -/
def entries : Entry → List (String × Entry)
  | .directory entries => entries
  | .file _ => []

/-- The entry of a given name in a directory. -/
def child? (e : Entry) (name : String) : Option Entry := e.entries.lookup name

/-- The entry that names lead to. -/
def at? : Entry → List String → Option Entry
  | e, [] => some e
  | e, name :: rest => match e.child? name with
    | some c => c.at? rest
    | none => none

/-- Sets the entry of a name; a name that is there keeps its place. -/
def setEntry (name : String) (e : Entry) : List (String × Entry) → List (String × Entry)
  | [] => [(name, e)]
  | (n, c) :: rest => if name == n then (n, e) :: rest else (n, c) :: setEntry name e rest

/-- Sets the entry that names lead to.  Nothing changes if they do not lead to a directory. -/
def put : Entry → List String → Entry → Entry
  | _, [], new => new
  | .file contents, _ :: _, _ => .file contents
  | .directory entries, [name], new => .directory (setEntry name new entries)
  | .directory entries, name :: rest, new => match entries.lookup name with
    | some c => .directory (setEntry name (c.put rest new) entries)
    | none => .directory entries

/-- Removes the entry that names lead to. -/
def erase : Entry → List String → Entry
  | e, [] => e
  | .file contents, _ :: _ => .file contents
  | .directory entries, [name] => .directory (entries.filter (·.1 != name))
  | .directory entries, name :: rest => match entries.lookup name with
    | some c => .directory (setEntry name (c.erase rest) entries)
    | none => .directory entries

@[simp] theorem at?_nil (e : Entry) : e.at? [] = some e := by simp [at?]

theorem lookup_setEntry (name n : String) (e : Entry) (entries : List (String × Entry)) :
    (setEntry name e entries).lookup n = if n = name then some e else entries.lookup n := by
  induction entries with
  | nil =>
    by_cases h : n = name
    · simp [setEntry, h]
    · simp [setEntry, List.lookup_cons, h, beq_eq_false_iff_ne.mpr h]
  | cons entry rest ih =>
    obtain ⟨m, c⟩ := entry
    by_cases hm : name = m
    · subst hm
      by_cases h : n = name
      · simp [setEntry, h]
      · simp [setEntry, List.lookup_cons, h, beq_eq_false_iff_ne.mpr h]
    · by_cases h : n = m
      · subst h
        simp [setEntry, hm, Ne.symm hm]
      · simp [setEntry, List.lookup_cons, hm, beq_eq_false_iff_ne.mpr h, ih]

end Entry

end NavFactory
