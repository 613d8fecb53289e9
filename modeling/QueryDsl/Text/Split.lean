/-!
# Splitting text

A text is cut at every separator by `List.splitOn`, so the empty text is one empty part. No part holds a separator
(`not_mem_of_mem_splitOn`); this and the text are all that the parts depend on (`splitOn_eq_cons_iff`). The lines of a
text (`lines`) are its parts between line feeds, without what belongs to the line ends.
-/

namespace QueryDsl.Text

/-- No part holds a separator. -/
theorem not_mem_of_mem_splitOn {separator : Char} {cs part : List Char} (h : part ∈ cs.splitOn separator) :
    separator ∉ part := by
  induction cs generalizing part with
  | nil => simp_all [List.splitOn_nil]
  | cons c cs ih =>
    rw [List.splitOn_cons_eq_if_modifyHead] at h
    obtain ⟨first, others, hparts⟩ := List.exists_cons_of_ne_nil (List.splitOn_ne_nil separator cs)
    rw [hparts] at h ih
    split at h
    · rcases List.mem_cons.1 h with rfl | h
      · simp
      · exact ih h
    · next hc =>
      rcases List.mem_cons.1 h with rfl | h
      · have hfirst := ih List.mem_cons_self
        grind
      · exact ih (List.mem_cons_of_mem _ h)

/-- A text is its first part, and the others with a separator in front of each. -/
theorem intercalate_cons_eq (separator : Char) (first : List Char) (others : List (List Char)) :
    [separator].intercalate (first :: others) = first ++ others.flatMap (separator :: ·) := by
  induction others generalizing first with
  | nil => simp
  | cons part others ih =>
    rw [List.intercalate_cons_cons, ih]
    simp

/-- The parts of a text are those without separators that make it up. -/
theorem splitOn_eq_cons_iff {separator : Char} {cs first : List Char} {others : List (List Char)} :
    cs.splitOn separator = first :: others ↔
      (∀ part ∈ first :: others, separator ∉ part) ∧ cs = first ++ others.flatMap (separator :: ·) := by
  rw [← intercalate_cons_eq]
  constructor
  · intro h
    rw [← h]
    exact ⟨fun part => not_mem_of_mem_splitOn, (List.intercalate_splitOn separator).symm⟩
  · rintro ⟨hparts, rfl⟩
    exact List.splitOn_intercalate separator hparts (List.cons_ne_nil first others)

/-- A line without the carriage return that its end begins with. -/
def dropReturn (line : List Char) : List Char :=
  if line.getLast? = some '\r' then line.dropLast else line

/-- The lines of a text. A line ends in a line feed or in a carriage return and a line feed; the last one may lack its
end, and is no line if it is empty. -/
def lines (cs : List Char) : List (List Char) :=
  match (cs.splitOn '\n').reverse with
  | [] => []
  | last :: ended => (ended.map dropReturn).reverse ++ (if last = [] then [] else [last])

end QueryDsl.Text
