import DocScribe.Text.Search

/-! Splitting what was joined: words without the separator come out of their joined text as they were. -/

namespace DocScribe.Text

theorem splitBy_ne_nil (isSeparator : Char → Bool) (text : List Char) : splitBy isSeparator text ≠ [] := by
  cases text with
  | nil => exact List.cons_ne_nil _ _
  | cons c rest =>
    unfold splitBy
    split
    · exact List.cons_ne_nil _ _
    · split <;> exact List.cons_ne_nil _ _

theorem splitAt_cons_separator (separator : Char) (text : List Char) :
    splitAt separator (separator :: text) = [] :: splitAt separator text := by
  simp [splitAt, splitBy]

theorem splitAt_append (separator : Char) (text more : List Char) :
    splitAt separator (text ++ separator :: more) = splitAt separator text ++ splitAt separator more := by
  induction text with
  | nil => exact splitAt_cons_separator separator more
  | cons c rest ih =>
    obtain ⟨part, parts, split⟩ := List.exists_cons_of_ne_nil (splitBy_ne_nil (· == separator) rest)
    simp only [splitAt] at ih
    simp only [splitAt, List.cons_append, splitBy, ih, split]
    cases c == separator <;> rfl

theorem infix_of_mem_splitBy (isSeparator : Char → Bool) (text : List Char) :
    ∃ first others, splitBy isSeparator text = first :: others ∧ first <+: text ∧
      ∀ part ∈ others, part <:+: text := by
  induction text with
  | nil => exact ⟨[], [], rfl, List.nil_prefix, by simp⟩
  | cons c rest ih =>
    obtain ⟨first, others, split, ahead, inner⟩ := ih
    have later (part : List Char) (among : part ∈ first :: others) : part <:+: c :: rest := by
      rcases List.mem_cons.mp among with rfl | among
      · exact List.infix_cons ahead.isInfix
      · exact List.infix_cons (inner part among)
    unfold splitBy
    split
    · exact ⟨[], first :: others, by rw [split], List.nil_prefix, later⟩
    · refine ⟨c :: first, others, by rw [split], (List.prefix_cons_inj c).mpr ahead, ?_⟩
      exact fun part among => later part (List.mem_cons_of_mem first among)

theorem infix_of_mem_splitAt {separator : Char} {text part : List Char} (among : part ∈ splitAt separator text) :
    part <:+: text := by
  obtain ⟨first, others, split, ahead, inner⟩ := infix_of_mem_splitBy (· == separator) text
  rw [splitAt, split] at among
  rcases List.mem_cons.mp among with rfl | among
  · exact ahead.isInfix
  · exact inner part among

theorem intercalate_splitAt (separator : Char) (text : List Char) : [separator].intercalate (splitAt separator text) = text := by
  induction text with
  | nil => rfl
  | cons c rest ih =>
    obtain ⟨part, parts, split⟩ := List.exists_cons_of_ne_nil (splitBy_ne_nil (· == separator) rest)
    simp only [splitAt] at ih
    rw [split] at ih
    simp only [splitAt, splitBy, split]
    by_cases own : c = separator
    · simp [own, List.intercalate_cons_cons, ih]
    · simp only [beq_false_of_ne own, Bool.false_eq_true, ↓reduceIte]
      cases parts with
      | nil => simpa [List.intercalate] using ih
      | cons second parts => simpa [List.intercalate_cons_cons] using ih

/-- With a separator behind every part, one more follows the text. -/
theorem flatMap_splitAt (separator : Char) (text : List Char) :
    ((splitAt separator text).flatMap fun part => part ++ [separator]) = text ++ [separator] := by
  have ended {parts : List (List Char)} (some : parts ≠ []) :
      (parts.flatMap fun part => part ++ [separator]) = [separator].intercalate parts ++ [separator] := by
    induction parts with
    | nil => exact absurd rfl some
    | cons part parts ih => cases parts with
      | nil => simp [List.intercalate]
      | cons second parts =>
        rw [List.flatMap_cons, ih (List.cons_ne_nil _ _), List.intercalate_cons_cons]
        simp
  rw [splitAt, ended (splitBy_ne_nil _ text), ← splitAt, intercalate_splitAt]

theorem mem_joinWith {c : Char} {separator : List Char} {texts : List (List Char)} (among : c ∈ joinWith separator texts) :
    c ∈ separator ∨ ∃ text ∈ texts, c ∈ text := by
  induction texts with
  | nil => simp [joinWith] at among
  | cons text texts ih =>
    cases texts with
    | nil => exact .inr ⟨text, List.mem_cons_self .., by simpa [joinWith] using among⟩
    | cons second texts =>
      rw [joinWith, List.intercalate_cons_cons, List.append_assoc, List.mem_append, List.mem_append] at among
      rcases among with own | between | later
      · exact .inr ⟨text, List.mem_cons_self .., own⟩
      · exact .inl between
      · exact (ih later).imp_right fun ⟨other, member, inside⟩ => ⟨other, List.mem_cons_of_mem _ member, inside⟩

theorem splitAt_word {separator : Char} {word : List Char} (free : separator ∉ word) : splitAt separator word = [word] := by
  induction word with
  | nil => rfl
  | cons c word ih =>
    obtain ⟨other, rest⟩ := not_or.mp (mt List.mem_cons.mpr free)
    have own : (c == separator) = false := beq_false_of_ne fun same => other same.symm
    have tail : splitBy (· == separator) word = [word] := ih rest
    simp only [splitAt, splitBy, own, tail, Bool.false_eq_true, ↓reduceIte]

private theorem splitAt_separated {separator : Char} {word : List Char} (free : separator ∉ word) (more : List Char) :
    splitAt separator (word ++ separator :: more) = word :: splitAt separator more := by
  rw [splitAt_append, splitAt_word free]
  rfl

theorem splitAt_intercalate {separator : Char} {words : List (List Char)} (some : words ≠ [])
    (free : ∀ word ∈ words, separator ∉ word) : splitAt separator ([separator].intercalate words) = words := by
  induction words with
  | nil => exact absurd rfl some
  | cons word words ih =>
    cases words with
    | nil =>
      rw [List.intercalate_singleton]
      exact splitAt_word (free word (by simp))
    | cons second words =>
      rw [List.intercalate_cons_cons, List.append_assoc, List.singleton_append, splitAt_separated (free word (by simp)),
        ih (by simp) fun other member => free other (List.mem_cons_of_mem word member)]

end DocScribe.Text
