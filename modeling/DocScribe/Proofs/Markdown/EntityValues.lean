import DocScribe.Markdown.Entity
import DocScribe.Proofs.Text.NullFree

/-! No character reference stands for U+0000: its number stands for the replacement character, and no name
has it. -/

namespace DocScribe.Markdown.Entity
open DocScribe Text

section Names

/-- No entry of a row stands for U+0000. -/
def isFreeRow (row : List Char) : Bool := (Text.splitAt ' ' row).all fun text => null ∉ (entry text).2

private theorem isFreeRow_ofList {row : String} {chars : List Char} (same : row = String.ofList chars)
    (free : isFreeRow chars = true) : isFreeRow row.toList = true := by
  rw [same, String.toList_ofList]
  exact free

-- row by row on characters, as the kernel is slow at taking strings apart
private theorem isFreeRow_rows : ∀ row ∈ entityRows, isFreeRow row.toList = true := by
  dsimp only [entityRows]
  repeat refine List.forall_mem_cons.mpr ⟨isFreeRow_ofList rfl (by decide +kernel), ?_⟩
  exact List.forall_mem_nil _

private theorem named_null {name value : List Char} (named : named? name = some value) : null ∉ value := by
  obtain ⟨front, back, split, -⟩ := List.lookup_eq_some_iff.mp named
  have among : (String.ofList name, value) ∈ table := split ▸ List.mem_append_right front List.mem_cons_self
  obtain ⟨row, inTable, inRow⟩ := List.mem_flatMap.mp among
  obtain ⟨text, inside, same⟩ := List.mem_map.mp inRow
  have free := List.all_eq_true.mp (isFreeRow_rows row inTable) text inside
  rw [same] at free
  exact of_decide_eq_true free

end Names

private theorem ofNat_isValid {n : Nat} (valid : isValid n = true) : Char.ofNat n ≠ null := by
  simp only [isValid, Bool.not_eq_true', Bool.or_eq_false_iff, Bool.and_eq_false_iff, decide_eq_false_iff_not] at valid
  exact ofNat_ne_null (by unfold Nat.isValidChar; omega) (by omega)

theorem reference_null {text value : List Char} {length : Nat} (found : reference? text = some (value, length)) :
    null ∉ value := by
  obtain ⟨body, -, found⟩ := Option.bind_eq_some_iff.mp found
  split at found
  next digits =>
    obtain ⟨n, -, same⟩ := Option.bind_eq_some_iff.mp found
    cases same
    rw [List.mem_singleton]
    split
    next valid => exact (ofNat_isValid valid).symm
    · decide
  · obtain ⟨_, named, same⟩ := Option.bind_eq_some_iff.mp found
    cases same
    exact named_null named

end DocScribe.Markdown.Entity
