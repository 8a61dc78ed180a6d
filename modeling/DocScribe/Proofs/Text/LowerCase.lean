import DocScribe.Proofs.Text.Trimming
import DocScribe.Text.Case
import Mathlib.Algebra.GroupWithZero.Nat

/-! How long the lower case of a text is. The length of a character's form does not depend on where the character
stands, so a text has another lower case than any part of it. -/

namespace DocScribe.Text

/-- How many characters the lower case of a character has. Both forms of a sigma have one. -/
def lowerWidth (c : Char) : Nat := if c.toNat == 0x3a3 then 1 else (lowerChar c).length

private theorem lowerWidth_pos (c : Char) : 0 < lowerWidth c := by
  unfold lowerWidth lowerChar
  split
  · exact Nat.one_pos
  · split
    · exact Nat.one_pos
    · split
      · exact Nat.two_pos
      · exact Nat.one_pos

private theorem length_lowerFrom (before text : List Char) : (lowerFrom before text).length = (text.map lowerWidth).sum := by
  induction text generalizing before with
  | nil => rfl
  | cons c rest ih =>
    rw [lowerFrom, List.length_append, ih, List.map_cons, List.sum_cons, lowerWidth]
    split <;> rfl

private theorem eq_nil_of_lowerWidth {text : List Char} (none : (text.map lowerWidth).sum = 0) : text = [] := by
  cases text with
  | nil => rfl
  | cons c rest =>
    have some := lowerWidth_pos c
    rw [List.map_cons, List.sum_cons] at none
    omega

private theorem eq_of_lowerFrom_infix {part text : List Char} (inside : part <:+: text)
    (same : lowerFrom [] part = lowerFrom [] text) : part = text := by
  obtain ⟨front, back, rfl⟩ := inside
  have widths := congrArg List.length same
  simp only [length_lowerFrom, List.map_append, List.sum_append] at widths
  obtain rfl : front = [] := eq_nil_of_lowerWidth (by omega)
  obtain rfl : back = [] := eq_nil_of_lowerWidth (by omega)
  rw [List.nil_append, List.append_nil]

/-- Trimming a text changes its lower case, unless there is nothing to trim. -/
theorem lower_trim_eq_iff (text : String) : lower (trim text) = lower text ↔ trim text = text := by
  constructor
  · intro same
    have forms := String.ofList_injective same
    rw [trim, String.toList_ofList] at forms
    rw [trim, eq_of_lowerFrom_infix (infix_trimBy isBlank text.toList) forms, String.ofList_toList]
  · intro whole
    rw [whole]

end DocScribe.Text
