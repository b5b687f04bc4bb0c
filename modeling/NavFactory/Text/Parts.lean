/-!
# Parts of texts

A text is cut at each occurrence of a character; joining the parts with the character gives the text back.
-/

namespace NavFactory.Text

/-- The parts of a text between the occurrences of a character. -/
def parts (separator : Char) (s : String) : List String := (s.toList.splitOn separator).map String.ofList

/-- Parts that do not hold the character are what their join is cut into. -/
theorem parts_intercalate {separator : Char} {texts : List String} (h : ∀ s ∈ texts, separator ∉ s.toList)
    (hne : texts ≠ []) : parts separator ((String.singleton separator).intercalate texts) = texts := by
  have hlists : (texts.map String.toList).map String.ofList = texts := by
    rw [List.map_map]
    exact (List.map_congr_left fun _ _ => String.ofList_toList).trans (List.map_id _)
  rw [parts, String.toList_intercalate, String.toList_singleton, List.splitOn_intercalate, hlists]
  · intro l hl
    obtain ⟨s, hs, rfl⟩ := List.mem_map.1 hl
    exact h s hs
  · simpa using hne

/-- A text that does not hold the character is not cut. -/
theorem parts_of_notMem {separator : Char} {s : String} (h : separator ∉ s.toList) : parts separator s = [s] := by
  have hwhole := @parts_intercalate separator [s] (by simpa using h) (List.cons_ne_nil _ _)
  rwa [String.intercalate_singleton] at hwhole

private theorem notMem_of_mem_splitOn {separator : Char} {cs l : List Char} (h : l ∈ cs.splitOn separator) :
    separator ∉ l := by
  induction cs generalizing l with
  | nil =>
    obtain rfl : l = [] := by simpa using h
    simp
  | cons c cs ih =>
    rw [List.splitOn_cons_eq_if_modifyHead] at h
    obtain ⟨first, rest, hsplit⟩ := List.exists_cons_of_ne_nil (List.splitOn_ne_nil separator cs)
    rw [hsplit] at h ih
    split at h
    · rcases List.mem_cons.1 h with rfl | h
      · simp
      · exact ih h
    · rename_i hc
      rw [List.modifyHead_cons] at h
      rcases List.mem_cons.1 h with rfl | h
      · rw [List.mem_cons, not_or]
        exact ⟨fun heq => hc (beq_iff_eq.2 heq.symm), ih List.mem_cons_self⟩
      · exact ih (List.mem_cons_of_mem _ h)

/-- No part holds the character. -/
theorem notMem_of_mem_parts {separator : Char} {s part : String} (h : part ∈ parts separator s) :
    separator ∉ part.toList := by
  obtain ⟨l, hl, rfl⟩ := List.mem_map.1 h
  rw [String.toList_ofList]
  exact notMem_of_mem_splitOn hl

/-- A text with the character in it is cut there. -/
theorem parts_append (separator : Char) (s t : String) :
    parts separator (s ++ String.singleton separator ++ t) = parts separator s ++ parts separator t := by
  rw [parts, String.toList_append, String.toList_append, String.toList_singleton, List.append_assoc,
    List.singleton_append, List.splitOn_append_cons_self, List.map_append]
  rfl

/-- The parts of a text give it back. -/
theorem intercalate_parts (separator : Char) (s : String) :
    (String.singleton separator).intercalate (parts separator s) = s := by
  have hlists : ((s.toList.splitOn separator).map String.ofList).map String.toList = s.toList.splitOn separator := by
    rw [List.map_map]
    exact (List.map_congr_left fun _ _ => String.toList_ofList).trans (List.map_id _)
  rw [← String.toList_inj, String.toList_intercalate, String.toList_singleton, parts, hlists, List.intercalate_splitOn]

theorem parts_ne_nil (separator : Char) (s : String) : parts separator s ≠ [] := by
  simp [parts]

end NavFactory.Text
