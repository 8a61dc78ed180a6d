import DocScribe.Docs.Compile
import DocScribe.Proofs.Text.Occurrence
import Mathlib.Data.Finset.Card

/-! The tag of image markers. A text has fewer places than there are tags to try, and two tags cannot
start a marker at the same place, so a tag that the text does not use is found. -/

namespace DocScribe.Docs
open DocScribe

def opener (tag : List Char) : List Char := "[[".toList ++ tag ++ [':']

def markerChars (tag digits : List Char) : List Char := opener tag ++ (digits ++ "]]".toList)

def IsPlainTag (tag : List Char) : Prop := ∀ c ∈ tag, c.isAlphanum = true

theorem IsPlainTag.not_mem {tag : List Char} (plain : IsPlainTag tag) {c : Char} (other : c.isAlphanum = false) :
    c ∉ tag := by
  intro member
  rw [plain c member] at other
  cases other

theorem opener_eq (tag : List Char) : opener tag = '[' :: '[' :: (tag ++ [':']) := rfl

theorem length_opener (tag : List Char) : (opener tag).length = tag.length + 3 := by
  simp [opener_eq]

theorem not_mem_opener {tag : List Char} (plain : IsPlainTag tag) {c : Char} (other : c.isAlphanum = false)
    (bracket : c ≠ '[') (colon : c ≠ ':') : c ∉ opener tag := by
  simp [opener_eq, bracket, colon, plain.not_mem other]

theorem toDigits_alphanum {n : Nat} {c : Char} (member : c ∈ Nat.toDigits 10 n) : c.isAlphanum = true := by
  simp [Char.isAlphanum, Nat.isDigit_of_mem_toDigits (by decide) (by decide) member]

private theorem toList_numberedTag (n : Nat) :
    (numberedTag n).toList = 'I' :: 'M' :: 'G' :: if n = 0 then [] else Nat.toDigits 10 n := by
  unfold numberedTag
  by_cases zero : n = 0
  · simp [zero, defaultTag]
  · simp [zero, defaultTag, toString, Nat.toList_repr]

private theorem numberedTag_plain (n : Nat) : IsPlainTag (numberedTag n).toList := by
  intro c member
  rw [toList_numberedTag] at member
  simp only [List.mem_cons] at member
  rcases member with rfl | rfl | rfl | digit
  · rfl
  · rfl
  · rfl
  · split at digit
    · simp at digit
    · exact toDigits_alphanum digit

private theorem toDigits_injective {m n : Nat} (same : Nat.toDigits 10 m = Nat.toDigits 10 n) : m = n := by
  have values := congrArg (Nat.ofDigitChars 10 · 0) same
  simpa using values

private theorem numberedTag_injective {m n : Nat} (same : (numberedTag m).toList = (numberedTag n).toList) : m = n := by
  rw [toList_numberedTag, toList_numberedTag] at same
  simp only [List.cons.injEq, true_and] at same
  have digits (k : Nat) : Nat.toDigits 10 k ≠ [] := Nat.toDigits_ne_nil
  by_cases first : m = 0 <;> by_cases second : n = 0 <;> simp only [first, second, ↓reduceIte] at same
  · rw [first, second]
  · exact absurd same.symm (digits n)
  · exact absurd same (digits m)
  · exact toDigits_injective same

private theorem tag_of_opener {tag text : List Char} (plain : IsPlainTag tag) (starts : opener tag <+: text) :
    (text.drop 2).takeWhile (· != ':') = tag := by
  obtain ⟨rest, rfl⟩ := starts
  have inside : ∀ c ∈ tag, (c != ':') = true := by
    intro c member
    simp only [bne_iff_ne, ne_eq]
    rintro rfl
    exact plain.not_mem rfl member
  simp [opener_eq, List.takeWhile_append_of_pos inside]

/-- Each round passes over a tag that is used, and a tag that is free ends the search. -/
theorem firstFreeTag_spec (text : List Char) (rounds n : Nat) :
    ∃ passed ≤ rounds, firstFreeTag text rounds n = numberedTag (n + passed) ∧
      (∀ earlier < passed, usesTag text (numberedTag (n + earlier)) = true) ∧
      (passed < rounds → usesTag text (numberedTag (n + passed)) = false) := by
  induction rounds generalizing n with
  | zero => exact ⟨0, Nat.le_refl 0, rfl, fun earlier none => absurd none (Nat.not_lt_zero earlier),
      fun none => absurd none (Nat.not_lt_zero 0)⟩
  | succ rounds ih =>
    cases used : usesTag text (numberedTag n) with
    | false =>
      have found : firstFreeTag text (rounds + 1) n = numberedTag (n + 0) := by
        simp [firstFreeTag, used]
      exact ⟨0, Nat.zero_le _, found, fun earlier none => absurd none (Nat.not_lt_zero earlier), fun _ => used⟩
    | true =>
      obtain ⟨passed, within, found, before, free⟩ := ih (n + 1)
      have further (steps : Nat) : n + 1 + steps = n + (steps + 1) := by omega
      rw [further] at found free
      refine ⟨passed + 1, by omega, by simp [firstFreeTag, used, found], ?_, fun fewer => free (by omega)⟩
      intro earlier inside
      cases earlier with
      | zero => exact used
      | succ earlier =>
        rw [← further]
        exact before earlier (by omega)

theorem usesTag_iff (text : List Char) (tag : String) : usesTag text tag = true ↔ opener tag.toList <:+: text := by
  simp [usesTag, Text.occursIn_iff, opener]

/-- A text cannot use more tags than it has places. -/
theorem exists_unusedTag (text : List Char) : ∃ n < text.length + 1, usesTag text (numberedTag n) = false := by
  by_contra none
  have places : ∀ n ∈ Finset.range (text.length + 1),
      ∃ place ∈ Finset.range text.length, opener (numberedTag n).toList <+: text.drop place := by
    intro n member
    have used : usesTag text (numberedTag n) = true := by
      by_contra unused
      exact none ⟨n, Finset.mem_range.mp member, by simpa using unused⟩
    obtain ⟨front, back, rfl⟩ := (usesTag_iff text _).mp used
    refine ⟨front.length, ?_, by simp [List.append_assoc]⟩
    simp only [Finset.mem_range, List.length_append, length_opener]
    omega
  choose! placeOf inside starts using places
  obtain ⟨m, memberM, n, memberN, different, same⟩ :=
    Finset.exists_ne_map_eq_of_card_lt_of_maps_to (by simp) inside
  have first := tag_of_opener (numberedTag_plain m) (starts m memberM)
  have second := tag_of_opener (numberedTag_plain n) (starts n memberN)
  rw [same] at first
  exact different (numberedTag_injective (first.symm.trans second))

/-- The search ends at the first tag that is free, in so few rounds that more of them change nothing. -/
theorem firstFreeTag_first (text : List Char) :
    ∃ number, usesTag text (numberedTag number) = false ∧
      (∀ earlier < number, usesTag text (numberedTag earlier) = true) ∧
      ∀ rounds, text.length < rounds → firstFreeTag text rounds 0 = numberedTag number := by
  obtain ⟨free, small, unused⟩ := exists_unusedTag text
  have ends (rounds : Nat) (enough : text.length < rounds) :
      ∃ number, firstFreeTag text rounds 0 = numberedTag number ∧ usesTag text (numberedTag number) = false ∧
        ∀ earlier < number, usesTag text (numberedTag earlier) = true := by
    obtain ⟨number, within, found, before, last⟩ := firstFreeTag_spec text rounds 0
    simp only [Nat.zero_add] at found before last
    have fewer : number < rounds := by
      by_contra all
      have used := before free (by omega)
      rw [unused] at used
      cases used
    exact ⟨number, found, last fewer, before⟩
  obtain ⟨number, _, isFree, before⟩ := ends (text.length + 1) (Nat.lt_succ_self _)
  refine ⟨number, isFree, before, ?_⟩
  intro rounds enough
  obtain ⟨other, found, otherFree, otherBefore⟩ := ends rounds enough
  have same : other = number := by
    rcases Nat.lt_trichotomy other number with less | same | more
    · exact absurd ((before other less).symm.trans otherFree) (by simp)
    · exact same
    · exact absurd ((otherBefore number more).symm.trans isFree) (by simp)
  rw [found, same]

private theorem chooseTag_first (text : String) :
    ∃ number, chooseTag text = numberedTag number ∧ usesTag text.toList (numberedTag number) = false := by
  obtain ⟨number, free, _, ends⟩ := firstFreeTag_first text.toList
  have enough : text.toList.length < text.length + 1 := by
    rw [String.length_toList]
    exact Nat.lt_succ_self _
  exact ⟨number, ends _ enough, free⟩

theorem chooseTag_unused (text : String) : usesTag text.toList (chooseTag text) = false := by
  obtain ⟨number, found, free⟩ := chooseTag_first text
  rw [found]
  exact free

theorem chooseTag_plain (text : String) : IsPlainTag (chooseTag text).toList := by
  obtain ⟨number, found, _⟩ := chooseTag_first text
  rw [found]
  exact numberedTag_plain number

end DocScribe.Docs
