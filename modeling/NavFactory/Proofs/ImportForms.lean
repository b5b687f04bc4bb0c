import NavFactory.Proofs.Source.Passages
import NavFactory.Proofs.Spelling

/-!
# Import lines as forms

The import lines of a table are the texts of import forms (`ImportTable.lines_eq_forms`).  They are read exactly if each
imported type can be named in an import (`ImportTable.isReadable_forms_iff`): the names that the table gives the types are
names then as well.
-/

namespace NavFactory

open Source (ImportEntry ImportForm IsWord)
open Source.Parser (isName)

namespace ImportStatement

/-- An imported name with its local name, as an entry of an import. -/
def entry (n : String × String) : ImportEntry := ⟨n.1, if n.2 = n.1 then none else some n.2⟩

/-- A statement that imports something, as a form. -/
def form (i : ImportStatement) : ImportForm where
  relative := false
  first := (DottedPath.ofText i.module).headD ""
  rest := (DottedPath.ofText i.module).tail
  entry := entry (i.names.headD ("", ""))
  entries := i.names.tail.map entry

variable {i : ImportStatement} {n : String × String}

private theorem shown_entry (n : String × String) : (entry n).shown = shown n := by
  rw [shown, entry]
  by_cases h : n.2 = n.1
  · rw [if_pos h, if_pos h, ImportEntry.shown]
  · rw [if_neg h, if_neg h, ImportEntry.shown]

theorem parts_form (i : ImportStatement) : i.form.parts = DottedPath.ofText i.module := by
  obtain ⟨first, rest, hparts⟩ := List.exists_cons_of_ne_nil (DottedPath.ofText_ne_nil i.module)
  rw [ImportForm.parts, form, hparts]
  rfl

theorem entries_form (h : i.names ≠ []) : i.form.entry :: i.form.entries = i.names.map entry := by
  obtain ⟨n, rest, hnames⟩ := List.exists_cons_of_ne_nil h
  rw [form, hnames]
  rfl

theorem shown_form (h : i.names ≠ []) : i.form.shown = i.text := by
  have hmodule : ".".intercalate (DottedPath.ofText i.module) = i.module := DottedPath.text_ofText i.module
  have hentries : (i.names.map entry).map ImportEntry.shown = i.names.map shown := by
    rw [List.map_map]
    exact List.map_congr_left fun n _ => shown_entry n
  rw [ImportForm.shown, parts_form, entries_form h, hmodule, hentries, text]
  rfl

theorem hasWords_entry (hname : IsWord n.1.toList) (hlocal : IsWord n.2.toList) : (entry n).HasWords := by
  refine ⟨hname, fun id hid => ?_⟩
  rw [entry, Option.ite_none_left_eq_some] at hid
  exact Option.some.inj hid.2 ▸ hlocal

theorem isReadable_entry (hname : isName n.1) (hlocal : isName n.2) : (entry n).isReadable := by
  rw [ImportEntry.isReadable, entry, hname, Bool.true_and]
  split_ifs
  · rfl
  · exact hlocal

end ImportStatement

namespace ImportTable

/-- The import lines of a table, as forms. -/
def forms (table : ImportTable) : List ImportForm := table.statements.map (·.form)

variable {table : ImportTable} {f : ImportForm}

private theorem names_ne_nil {i : ImportStatement} (hi : i ∈ table.statements) : i.names ≠ [] := by
  obtain ⟨module, hmodule, rfl⟩ := List.mem_map.1 hi
  obtain ⟨a, ha, rfl⟩ := List.mem_map.1 ((table.mem_modules module).1 hmodule)
  refine List.ne_nil_of_mem (mem_sortBy.2 (List.mem_map_of_mem (List.mem_filter.2 ⟨ha, ?_⟩)))
  exact beq_self_eq_true _

theorem lines_eq_forms (table : ImportTable) : table.lines = table.forms.map (·.shown) := by
  rw [lines_eq, forms, List.map_map]
  exact List.map_congr_left fun i hi => (ImportStatement.shown_form (names_ne_nil hi)).symm

/-- Each form imports from the module of an imported type, and each of its entries is an imported type of this module. -/
private theorem entries_of_mem_forms (hf : f ∈ table.forms) :
    ∃ module, (∃ a ∈ table.aliases, a.1.module = module) ∧ f.relative = false ∧ f.parts = DottedPath.ofText module ∧
      ∀ e ∈ f.entry :: f.entries, ∃ a ∈ table.aliases, e = ImportStatement.entry (a.1.name, a.2) := by
  obtain ⟨i, hi, rfl⟩ := List.mem_map.1 hf
  have hnames := names_ne_nil hi
  obtain ⟨module, hmodule, rfl⟩ := List.mem_map.1 hi
  refine ⟨module, List.mem_map.1 ((table.mem_modules module).1 hmodule), rfl, ImportStatement.parts_form _, ?_⟩
  rw [ImportStatement.entries_form hnames]
  intro e he
  obtain ⟨n, hn, rfl⟩ := List.mem_map.1 he
  obtain ⟨a, ha, rfl⟩ := List.mem_map.1 (mem_sortBy.1 hn)
  exact ⟨a, (List.mem_filter.1 ha).1, rfl⟩

/-- Each imported type is an entry of a form for its module. -/
private theorem exists_form {a : TypeRef × String} (ha : a ∈ table.aliases) :
    ∃ f ∈ table.forms, f.parts = DottedPath.ofText a.1.module ∧
      ImportStatement.entry (a.1.name, a.2) ∈ f.entry :: f.entries := by
  have hmodule : a.1.module ∈ table.modules := (table.mem_modules _).2 (List.mem_map_of_mem ha)
  have hi : _ ∈ table.statements := List.mem_map_of_mem hmodule
  refine ⟨_, List.mem_map_of_mem hi, ImportStatement.parts_form _, ?_⟩
  rw [ImportStatement.entries_form (names_ne_nil hi)]
  exact List.mem_map_of_mem (mem_sortBy.2 (List.mem_map_of_mem (List.mem_filter.2 ⟨ha, beq_self_eq_true _⟩)))

theorem relative_of_mem_forms (hf : f ∈ table.forms) : f.relative = false := by
  obtain ⟨-, -, hrelative, -, -⟩ := entries_of_mem_forms hf
  exact hrelative

/-- Import lines for spelled types are made of words. -/
theorem hasWords_of_mem_forms (htried : table.Tried) (hspelled : ∀ a ∈ table.aliases, a.1.IsSpelled)
    (hf : f ∈ table.forms) : f.HasWords := by
  obtain ⟨-, ⟨a, ha, rfl⟩, -, hparts, hentries⟩ := entries_of_mem_forms hf
  refine ⟨fun w hw => (hspelled a ha).module w (hparts ▸ hw), fun e he => ?_⟩
  obtain ⟨b, hb, rfl⟩ := hentries e he
  obtain ⟨n, hn⟩ := htried b hb
  exact ImportStatement.hasWords_entry (hspelled b hb).name (hn ▸ isWord_candidateName (hspelled b hb) n)

/-- Import lines are read exactly if the types can be named in imports. -/
theorem isReadable_forms_iff (htried : table.Tried) :
    (∀ f ∈ table.forms, f.isReadable) ↔ ∀ a ∈ table.aliases, a.1.isImportable := by
  constructor
  · intro h a ha
    obtain ⟨f, hf, hparts, hentry⟩ := exists_form ha
    have hread := h f hf
    rw [ImportForm.isReadable, Bool.and_eq_true, hparts, List.all_eq_true (l := f.entry :: f.entries)] at hread
    have hname := hread.2 _ hentry
    rw [ImportEntry.isReadable, Bool.and_eq_true] at hname
    rw [TypeRef.isImportable, Bool.and_eq_true]
    exact ⟨hread.1, hname.1⟩
  · intro h f hf
    obtain ⟨-, ⟨a, ha, rfl⟩, -, hparts, hentries⟩ := entries_of_mem_forms hf
    have himportable := h a ha
    rw [TypeRef.isImportable, Bool.and_eq_true] at himportable
    rw [ImportForm.isReadable, Bool.and_eq_true, hparts, List.all_eq_true (l := f.entry :: f.entries)]
    refine ⟨himportable.1, fun e he => ?_⟩
    obtain ⟨b, hb, rfl⟩ := hentries e he
    obtain ⟨n, hn⟩ := htried b hb
    refine ImportStatement.isReadable_entry ?_ (hn ▸ isName_candidateName (h b hb) n)
    exact (Bool.and_eq_true_iff.1 (h b hb)).2

end ImportTable

end NavFactory
