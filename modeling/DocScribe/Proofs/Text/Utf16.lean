import DocScribe.Text.Units

/-! Texts as sequences of UTF-16 code units. A text can be read back from its units, and from any place
that does not split a pair of surrogates, so a text that stands inside the units of another stands
inside that text. -/

namespace DocScribe.Text

/-- The code units of a character: its own number, or a pair of surrogates. -/
def charCodes (c : Char) : List Nat :=
  if c.toNat < 0x10000 then [c.toNat]
  else [0xD800 + (c.toNat - 0x10000) / 0x400, 0xDC00 + (c.toNat - 0x10000) % 0x400]

def codes (text : List Char) : List Nat := text.flatMap charCodes

@[simp] theorem codes_nil : codes [] = [] := rfl

@[simp] theorem codes_cons (c : Char) (text : List Char) : codes (c :: text) = charCodes c ++ codes text := rfl

@[simp] theorem codes_append (first second : List Char) : codes (first ++ second) = codes first ++ codes second := by
  simp [codes]

@[simp] theorem length_charCodes (c : Char) : (charCodes c).length = charUnits c := by
  unfold charCodes charUnits
  split <;> rfl

@[simp] theorem length_codes (text : List Char) : (codes text).length = listUnits text := by
  induction text with
  | nil => rfl
  | cons c text ih => simp [ih]

attribute [simp] listUnits_append

theorem charUnits_pos (c : Char) : 0 < charUnits c := by
  unfold charUnits
  split <;> omega

theorem length_le_listUnits (text : List Char) : text.length ≤ listUnits text := by
  induction text with
  | nil => exact Nat.le_refl _
  | cons c text ih =>
    have positive := charUnits_pos c
    simp only [listUnits_cons, List.length_cons]
    omega

theorem listUnits_eq_zero {text : List Char} : listUnits text = 0 ↔ text = [] := by
  cases text with
  | nil => simp
  | cons c text =>
    have positive := charUnits_pos c
    simp only [listUnits_cons, reduceCtorEq, iff_false]
    omega

theorem units_eq_zero {text : String} : units text = 0 ↔ text = "" := by
  rw [units, listUnits_eq_zero, String.toList_eq_nil_iff]

theorem units_pos {text : String} : 0 < units text ↔ text ≠ "" := by
  rw [Nat.pos_iff_ne_zero, ne_eq, units_eq_zero]

theorem codes_eq_nil {text : List Char} : codes text = [] ↔ text = [] := by
  rw [← List.length_eq_zero_iff, length_codes, listUnits_eq_zero]

/-- The second unit of a pair. -/
def IsTrail (unit : Nat) : Prop := 0xDC00 ≤ unit ∧ unit < 0xE000

private theorem scalar_range (c : Char) : (c.toNat < 0xD800 ∨ 0xDFFF < c.toNat) ∧ c.toNat < 0x110000 := by
  have valid := c.valid
  simp only [UInt32.isValidChar, Nat.isValidChar] at valid
  change c.toNat < 0xD800 ∨ 0xDFFF < c.toNat ∧ c.toNat < 0x110000 at valid
  omega

private theorem charCodes_head (c : Char) : ∃ head rest, charCodes c = head :: rest ∧ ¬ IsTrail head := by
  have range := scalar_range c
  unfold charCodes IsTrail
  split
  · exact ⟨_, _, rfl, by omega⟩
  · exact ⟨_, _, rfl, by omega⟩

private theorem codes_head {text : List Char} (some : text ≠ []) :
    ∃ head rest, codes text = head :: rest ∧ ¬ IsTrail head := by
  cases text with
  | nil => exact absurd rfl some
  | cons c text =>
    obtain ⟨head, rest, same, noTrail⟩ := charCodes_head c
    exact ⟨head, rest ++ codes text, by simp [same], noTrail⟩

private theorem charCodes_cancel {c d : Char} {first second : List Nat}
    (same : charCodes c ++ first = charCodes d ++ second) : c = d ∧ first = second := by
  have rangeC := scalar_range c
  have rangeD := scalar_range d
  unfold charCodes at same
  split at same <;> split at same <;>
    simp only [List.cons_append, List.nil_append, List.cons.injEq] at same
  · exact ⟨Char.toNat_inj.mp same.1, same.2⟩
  · omega
  · omega
  · refine ⟨Char.toNat_inj.mp ?_, same.2.2⟩
    omega

theorem codes_cancel {first text : List Char} {rest : List Nat} (same : codes text = codes first ++ rest) :
    ∃ more, text = first ++ more ∧ codes more = rest := by
  induction first generalizing text with
  | nil => exact ⟨text, rfl, by simpa using same⟩
  | cons c first ih =>
    cases text with
    | nil =>
      have positive := charUnits_pos c
      have length := congrArg List.length same
      simp at length
      omega
    | cons d text =>
      simp only [codes_cons, List.append_assoc] at same
      obtain ⟨rfl, tails⟩ := charCodes_cancel same
      obtain ⟨more, rfl, units⟩ := ih tails
      exact ⟨more, rfl, units⟩

/-- A text whose units stand anywhere in the units of another stands at that place in it: a place that
splits a pair is followed by its second unit, with which no text starts. -/
theorem codes_aligned {text inner : List Char} {front back : List Nat} (some : inner ≠ [])
    (same : codes text = front ++ codes inner ++ back) :
    ∃ left right, text = left ++ inner ++ right ∧ codes left = front ∧ codes right = back := by
  induction text generalizing front with
  | nil =>
    have empty : codes inner = [] := by
      have := same.symm
      simp only [codes_nil, List.append_eq_nil_iff] at this
      exact this.1.2
    exact absurd (codes_eq_nil.mp empty) some
  | cons c text ih =>
    cases front with
    | nil =>
      rw [List.nil_append] at same
      obtain ⟨more, whole, units⟩ := codes_cancel same
      exact ⟨[], more, whole, rfl, units⟩
    | cons unit front =>
      by_cases single : c.toNat < 0x10000
      · have own : charCodes c = [c.toNat] := if_pos single
        simp only [codes_cons, own, List.cons_append, List.nil_append, List.cons.injEq] at same
        obtain ⟨left, right, rfl, before, after⟩ := ih same.2
        exact ⟨c :: left, right, rfl, by simp [own, before, same.1], after⟩
      · have own : charCodes c = [0xD800 + (c.toNat - 0x10000) / 0x400, 0xDC00 + (c.toNat - 0x10000) % 0x400] :=
          if_neg single
        simp only [codes_cons, own, List.cons_append, List.nil_append, List.cons.injEq] at same
        cases front with
        | nil =>
          obtain ⟨head, rest, units, noTrail⟩ := codes_head some
          simp only [units, List.nil_append, List.cons_append, List.cons.injEq] at same
          have trail : IsTrail head := by
            rw [← same.2.1]
            unfold IsTrail
            omega
          exact absurd trail noTrail
        | cons second front =>
          simp only [List.cons_append, List.cons.injEq] at same
          obtain ⟨left, right, rfl, before, after⟩ := ih same.2.2
          exact ⟨c :: left, right, rfl, by simp [own, before, same.1, same.2.1], after⟩

end DocScribe.Text
