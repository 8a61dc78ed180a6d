import DocScribe.Text.Search

/-! Where a needle stands in a sequence. A piece in which the needle never starts, whatever stands behind
it, stays so in any sequence: only where such pieces end is the needle to be looked for. -/

namespace DocScribe.Text

private theorem findIn_isSome (needle hay : List Char) : (findIn needle hay).isSome = true ↔ needle <:+: hay := by
  induction hay with
  | nil =>
    rw [findIn, List.infix_nil]
    cases needle <;> simp
  | cons c rest ih =>
    rw [findIn, List.infix_cons_iff]
    by_cases here : needle.isPrefixOf (c :: rest) = true
    · rw [if_pos here]
      simp [List.isPrefixOf_iff_prefix.mp here]
    · rw [if_neg here, Option.isSome_map, ih]
      have notHere : ¬ needle <+: c :: rest := fun holds => here (List.isPrefixOf_iff_prefix.mpr holds)
      simp [notHere]

theorem occursIn_iff (needle hay : List Char) : occursIn needle hay = true ↔ needle <:+: hay :=
  findIn_isSome needle hay

section Quiet
variable {α : Type} {needle : List α}

/-- The needle does not start in a piece, whatever stands behind the piece. -/
def Quiet (needle piece : List α) : Prop :=
  ∀ left right rest, piece = left ++ right → right ≠ [] → ¬ needle <+: right ++ rest

theorem Quiet.nil : Quiet needle [] := by
  intro left right rest same some
  exact absurd (List.append_eq_nil_iff.mp same.symm).2 some

theorem Quiet.append {first second : List α} (one : Quiet needle first) (other : Quiet needle second) :
    Quiet needle (first ++ second) := by
  intro left right rest same some starts
  rcases List.append_eq_append_iff.mp same with ⟨middle, rfl, rfl⟩ | ⟨middle, rfl, rfl⟩
  · exact other middle right rest rfl some starts
  · by_cases empty : middle = []
    · subst empty
      exact other [] second rest rfl (by simpa using some) (by simpa using starts)
    · rw [List.append_assoc] at starts
      exact one left middle (second ++ rest) rfl empty starts

theorem Quiet.flatMap {pieces : List β} {f : β → List α} (each : ∀ piece ∈ pieces, Quiet needle (f piece)) :
    Quiet needle (pieces.flatMap f) := by
  induction pieces with
  | nil => exact Quiet.nil
  | cons piece pieces ih =>
    rw [List.flatMap_cons]
    exact (each piece (by simp)).append (ih fun other member => each other (by simp [member]))

theorem Quiet.single {first single : α} (different : single ≠ first) : Quiet (first :: needle) [single] := by
  intro left right rest same some starts
  have whole : right = [single] := by
    cases left with
    | nil => exact same.symm
    | cons head left =>
      simp only [List.cons_append, List.cons.injEq, List.nil_eq, List.append_eq_nil_iff] at same
      exact absurd same.2.2 some
  subst whole
  exact different (List.cons_prefix_cons.mp starts).1.symm

theorem Quiet.of_not_mem {first : α} {piece : List α} (absent : first ∉ piece) : Quiet (first :: needle) piece := by
  have each : Quiet (first :: needle) (piece.flatMap fun single => [single]) :=
    Quiet.flatMap fun single member => Quiet.single fun same => absent (same ▸ member)
  simpa using each

/-- A needle that stands in front of something that it does not hold stands before it. -/
theorem prefix_before {front back : List α} {separator : α} (starts : needle <+: front ++ separator :: back)
    (absent : separator ∉ needle) : needle <+: front := by
  obtain ⟨rest, same⟩ := starts
  rcases List.append_eq_append_iff.mp same with ⟨middle, rfl, _⟩ | ⟨middle, rfl, tail⟩
  · exact List.prefix_append _ _
  · cases middle with
    | nil => simp
    | cons head middle =>
      simp only [List.cons_append, List.cons.injEq] at tail
      exact absurd (by simp [tail.1]) absent

theorem Quiet.line {first separator : α} {text : List α} (without : ¬ (first :: needle) <:+: text)
    (absent : separator ∉ first :: needle) : Quiet (first :: needle) (text ++ [separator]) := by
  intro left right rest same some starts
  obtain ⟨inner, last, rfl⟩ : ∃ inner last, right = inner ++ [last] :=
    ⟨right.dropLast, right.getLast some, (List.dropLast_concat_getLast some).symm⟩
  rw [← List.append_assoc] at same
  obtain ⟨rfl, single⟩ := List.append_inj' same rfl
  obtain rfl : separator = last := by simpa using single
  rw [List.append_assoc] at starts
  exact without (((prefix_before starts absent).isInfix).trans (List.suffix_append _ _).isInfix)

/-- Where a quiet piece is passed, the needle starts behind it. -/
theorem Quiet.behind {front piece back : List α} (quiet : Quiet needle piece) {place : Nat}
    (starts : needle <+: (front ++ (piece ++ back)).drop place) (passed : front.length ≤ place) :
    front.length + piece.length ≤ place := by
  obtain ⟨steps, rfl⟩ := Nat.exists_eq_add_of_le passed
  rw [List.drop_length_add_append] at starts
  rcases Nat.lt_or_ge steps piece.length with inside | outside
  · rw [List.drop_append_of_le_length (by omega)] at starts
    refine absurd starts (quiet (piece.take steps) (piece.drop steps) back (List.take_append_drop _ _).symm ?_)
    simpa using inside
  · omega

end Quiet
end DocScribe.Text
