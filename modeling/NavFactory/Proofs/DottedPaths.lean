import NavFactory.Proofs.Hiding
import NavFactory.Reader

/-!
# Dotted paths

How dotted paths are put together as texts and cut again.  A path is cut at its last dot (`Scope.splitLast_dot`), and the
module of a source file is the path of the identifiers that it is made of (`exists_names_of_moduleNameOf?`).
-/

namespace NavFactory

variable {path head name module : String} {rest front back init : List String}

namespace DottedPath

theorem text_singleton (name : String) : text [name] = name := String.intercalate_singleton

theorem text_cons (hrest : rest ≠ []) (head : String) : text (head :: rest) = head ++ "." ++ text rest :=
  String.intercalate_cons_of_ne_nil hrest

theorem text_append (hfront : front ≠ []) (hback : back ≠ []) : text (front ++ back) = text front ++ "." ++ text back :=
  String.intercalate_append_of_ne_nil hfront hback

/-- The head of a path can be read off the path and its other parts. -/
theorem text_cons_inj {other : String} : text (head :: rest) = text (other :: rest) ↔ head = other := by
  obtain rfl | hne := eq_or_ne rest []
  · rw [text_singleton, text_singleton]
  · rw [text_cons hne, text_cons hne, String.append_left_inj, String.append_left_inj]

/-- A path with one more part inside is another path. -/
theorem text_insert_ne (hfront : front ≠ []) (name : String) (back : List String) :
    text (front ++ name :: back) ≠ text (front ++ back) := by
  have hne : name :: back ≠ [] := List.cons_ne_nil _ _
  intro heq
  have hlength := congrArg String.length heq
  obtain rfl | hback := eq_or_ne back []
  · rw [List.append_nil, text_append hfront hne] at hlength
    simp only [String.length_append] at hlength
    have : ".".length = 1 := rfl
    omega
  · rw [text_append hfront hne, text_append hfront hback, text_cons hback] at hlength
    simp only [String.length_append] at hlength
    have : ".".length = 1 := rfl
    omega

theorem text_ofText (s : String) : text (ofText s) = s := Text.intercalate_parts '.' s

theorem ofText_ne_nil (s : String) : ofText s ≠ [] := Text.parts_ne_nil '.' s

theorem ofText_text (hnames : ∀ n ∈ rest, '.' ∉ n.toList) (hne : rest ≠ []) : ofText (text rest) = rest :=
  Text.parts_intercalate hnames hne

theorem ofText_dot (path : String) (hname : '.' ∉ name.toList) : ofText (path ++ "." ++ name) = ofText path ++ [name] := by
  rw [ofText, ofText, ← Text.parts_of_notMem hname]
  exact Text.parts_append '.' path name

end DottedPath

namespace Scope

/-- A path is cut in front of its last name. -/
theorem splitLast_dot (path : String) (hname : '.' ∉ name.toList) : splitLast (path ++ "." ++ name) = some (path, name) := by
  rw [splitLast, DottedPath.ofText_dot path hname, List.reverse_concat]
  cases hparts : (DottedPath.ofText path).reverse with
  | nil => exact absurd (List.reverse_eq_nil_iff.1 hparts) (DottedPath.ofText_ne_nil path)
  | cons before rest =>
    simp only [← hparts, List.reverse_reverse, DottedPath.text_ofText]

theorem splitLast_text (hinit : init ≠ []) (hname : '.' ∉ name.toList) :
    splitLast (DottedPath.text (init ++ [name])) = some (DottedPath.text init, name) := by
  rw [DottedPath.text_append hinit (List.cons_ne_nil _ _), DottedPath.text_singleton, splitLast_dot _ hname]

end Scope

/-- The module of a source file is made of identifiers. -/
theorem exists_names_of_moduleNameOf? (h : moduleNameOf? path = some module) :
    ∃ names, names ≠ [] ∧ (∀ n ∈ names, Text.isIdentifier n = true) ∧ module = DottedPath.text names := by
  rw [moduleNameOf?] at h
  set parts := pathParts (String.ofList (path.toList.take (path.length - sourceSuffix.length)))
  set names := if parts.getLast? == some "__init__" then parts.dropLast else parts
  split_ifs at h with hvalid
  rw [Bool.and_eq_true, List.all_eq_true] at hvalid
  exact ⟨names, by simpa using hvalid.1, hvalid.2, (Option.some.inj h).symm⟩

/-- The parts of the module of a source file. -/
theorem ofText_of_moduleNameOf? (h : moduleNameOf? path = some module) :
    module ≠ "" ∧ ∀ n ∈ DottedPath.ofText module, n ≠ "" := by
  obtain ⟨names, hne, hidentifiers, rfl⟩ := exists_names_of_moduleNameOf? h
  have hdots : ∀ n ∈ names, '.' ∉ n.toList := fun n hn => Text.notMem_of_isIdentifier (hidentifiers n hn) (by decide)
  have hparts := DottedPath.ofText_text hdots hne
  rw [hparts]
  refine ⟨?_, fun n hn => Text.ne_empty_of_isIdentifier (hidentifiers n hn)⟩
  intro hempty
  rw [hempty] at hparts
  obtain rfl : [""] = names := hparts
  exact absurd (hidentifiers "" List.mem_cons_self) (by decide)

end NavFactory
