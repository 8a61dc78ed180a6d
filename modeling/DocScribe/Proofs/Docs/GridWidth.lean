import DocScribe.Docs.TableInsertion

/-! The width of a table whose rows differ in length: the length of its longest row. -/

namespace DocScribe.Docs
open DocScribe Markdown TableInsertion

variable {cells : Grid}

private theorem max?_lengths (rows : cells ≠ []) : (cells.map List.length).max? = some (width cells) := by
  obtain ⟨first, rest, rfl⟩ := List.exists_cons_of_ne_nil rows
  rw [List.map_cons, List.max?_cons', width, List.map_cons, List.foldl_cons, Nat.zero_max]

theorem width_attained (rows : cells ≠ []) : ∃ row ∈ cells, row.length = width cells :=
  List.mem_map.mp (List.max?_mem (max?_lengths rows))

theorem length_le_width {row : List (List Span)} (member : row ∈ cells) : row.length ≤ width cells := by
  have greatest := List.max?_eq_some_iff.mp (max?_lengths (List.ne_nil_of_mem member))
  exact greatest.2 row.length (List.mem_map_of_mem member)

theorem width_eq_zero (cells : Grid) : width cells = 0 ↔ cells.all List.isEmpty = true := by
  rw [List.all_eq_true]
  constructor
  · intro zero row member
    have short := length_le_width member
    rw [zero, Nat.le_zero, List.length_eq_zero_iff] at short
    exact List.isEmpty_iff.mpr short
  · intro empty
    by_cases none : cells = []
    · rw [none]
      rfl
    · obtain ⟨row, member, attained⟩ := width_attained none
      rw [← attained, List.length_eq_zero_iff]
      exact List.isEmpty_iff.mp (empty row member)

theorem width_ne_zero (filled : ∃ row ∈ cells, row ≠ []) : width cells ≠ 0 := by
  obtain ⟨row, member, some⟩ := filled
  rw [ne_eq, width_eq_zero, List.all_eq_true]
  intro empty
  exact some (List.isEmpty_iff.mp (empty row member))

/-- A row with empty cells added, read off column by column. -/
theorem padded_eq {row : List (List Span)} {columns : Nat} (fits : row.length ≤ columns) :
    row ++ List.replicate (columns - row.length) [] = (List.range columns).map fun column => row.getD column [] := by
  apply List.ext_getElem
  · simp only [List.length_append, List.length_replicate, List.length_map, List.length_range]
    omega
  · intro column _ _
    by_cases own : column < row.length
    · simp [own]
    · simp [List.getElem_append_right (Nat.le_of_not_lt own), Nat.le_of_not_lt own]

end DocScribe.Docs
