import DocScribe.Proofs.Text.Occurrence
import DocScribe.Proofs.Text.Separated
import DocScribe.Text.Blank

/-! The words of a text: what stands in it without a line end or an indenting character. Cutting a text keeps
no word that it did not have, and joining texts at such characters brings in none. -/

namespace DocScribe.Text

def SetsApart (c : Char) : Prop := isIndent c = true ∨ c = '\n'

instance : DecidablePred SetsApart := fun c => inferInstanceAs (Decidable (isIndent c = true ∨ c = '\n'))

/-- Holds no character that sets words apart. -/
def IsWord (word : List Char) : Prop := ∀ c ∈ word, ¬ SetsApart c

/-- Every word of a text stands in its source. -/
def WordsOf (source text : List Char) : Prop := ∀ word, IsWord word → word <:+: text → word <:+: source

theorem IsWord.of_all {accepts : Char → Bool} (space : accepts ' ' = false) (tab : accepts '\t' = false)
    (lineEnd : accepts '\n' = false) {word : List Char} (all : word.all accepts = true) : IsWord word := by
  intro c among separates
  have accepted := List.all_eq_true.mp all c among
  simp only [SetsApart, isIndent, Bool.or_eq_true, beq_iff_eq] at separates
  obtain (rfl | rfl) | rfl := separates
  · exact Bool.false_ne_true (space.symm.trans accepted)
  · exact Bool.false_ne_true (tab.symm.trans accepted)
  · exact Bool.false_ne_true (lineEnd.symm.trans accepted)

theorem IsWord.apart {word front back : List Char} (isWord : IsWord word) {c : Char} (separates : SetsApart c)
    (inside : word <:+: front ++ c :: back) : word <:+: front ∨ word <:+: back := by
  have absent : c ∉ word := fun among => isWord c among separates
  induction front with
  | nil =>
    rcases List.infix_cons_iff.mp inside with starts | later
    · rw [← List.nil_append (c :: back)] at starts
      exact .inl (prefix_before starts absent).isInfix
    · exact .inr later
  | cons d front ih =>
    rcases List.infix_cons_iff.mp inside with starts | later
    · have starts : word <+: (d :: front) ++ c :: back := starts
      exact .inl (prefix_before starts absent).isInfix
    · exact (ih later).imp_left List.infix_cons

namespace WordsOf
variable {source text : List Char}

theorem refl (source : List Char) : WordsOf source source := fun _ _ inside => inside

theorem piece (words : WordsOf source text) {part : List Char} (inside : part <:+: text) : WordsOf source part :=
  fun word isWord stands => words word isWord (stands.trans inside)

theorem nil : WordsOf source [] := fun word _ stands => by
  rw [List.infix_nil.mp stands]
  exact List.nil_infix

theorem apart {back : List Char} (words : WordsOf source text) {c : Char} (separates : SetsApart c)
    (behind : WordsOf source back) : WordsOf source (text ++ c :: back) := by
  intro word isWord stands
  rcases isWord.apart separates stands with front | later
  · exact words word isWord front
  · exact behind word isWord later

theorem spaced (words : WordsOf source text) (count : Nat) : WordsOf source (List.replicate count ' ' ++ text) := by
  induction count with
  | zero => exact words
  | succ count ih => exact nil.apart (.inl rfl) ih

theorem lines {texts : List (List Char)} (words : ∀ text ∈ texts, WordsOf source text) :
    WordsOf source (joinWith ['\n'] texts) := by
  induction texts with
  | nil => exact nil
  | cons first texts ih =>
    obtain ⟨here, later⟩ := List.forall_mem_cons.mp words
    cases texts with
    | nil => simpa [joinWith] using here
    | cons second texts =>
      rw [joinWith, List.intercalate_cons_cons, List.append_assoc]
      exact here.apart (.inr rfl) (ih later)

theorem holds (words : WordsOf source text) {c : Char} (among : c ∈ text) : SetsApart c ∨ c ∈ source := by
  by_cases separates : SetsApart c
  · exact .inl separates
  · have isWord : IsWord [c] := List.forall_mem_singleton.mpr separates
    have stands : [c] <:+: text := by
      obtain ⟨front, back, rfl⟩ := List.append_of_mem among
      exact ⟨front, back, by simp⟩
    exact .inr ((words [c] isWord stands).subset List.mem_cons_self)

end WordsOf

end DocScribe.Text
