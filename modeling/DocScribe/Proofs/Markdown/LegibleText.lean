import DocScribe.Markdown.InlineReader
import Mathlib.Data.List.Basic

/-! Text of which every character is shown as it is, as an escape, or inside a code span. A part is
judged with what follows it, so that no rule can reach beyond it. -/

namespace DocScribe.Markdown
open DocScribe InlineReader

/-- The characters of a code span whose text is kept. -/
structure IsCodeText (text : List Char) : Prop where
  filled : text ≠ []
  noTick : '`' ∉ text
  noBreak : '\n' ∉ text
  keepsEnds : ¬ (text.head? = some ' ' ∧ text.getLast? = some ' ' ∧ text.any (!Text.isBlank ·))

instance : DecidablePred IsCodeText := fun _ =>
  decidable_of_iff (_ ∧ _ ∧ _ ∧ _) ⟨fun ⟨filled, noTick, noBreak, keepsEnds⟩ => ⟨filled, noTick, noBreak, keepsEnds⟩,
    fun valid => ⟨valid.filled, valid.noTick, valid.noBreak, valid.keepsEnds⟩⟩

/-- No rule applies to a character before `rest`. -/
def IsLiteral (c : Char) (rest : List Char) : Prop :=
  c ∉ ['\n', '\\', '`', '~', '*', '_', '[', ']', '<'] ∧ (c = '!' → rest.head? ≠ some '[') ∧
    (c = '&' → Entity.reference? rest = none)

/-- What a text shows before `tail`: its characters, and whether each is code. -/
inductive Legible (tail : List Char) : List Char → List (Char × Bool) → Prop where
  | nil : Legible tail [] []
  | literal {c rest shown} (own : IsLiteral c (rest ++ tail)) (more : Legible tail rest shown) :
      Legible tail (c :: rest) ((c, false) :: shown)
  | escaped {c rest shown} (mark : Text.isAsciiPunctuation c = true) (more : Legible tail rest shown) :
      Legible tail ('\\' :: c :: rest) ((c, false) :: shown)
  | lineEnd {rest shown} (starts : ∀ c ∈ (rest ++ tail).head?, Text.isIndent c = false) (more : Legible tail rest shown) :
      Legible tail ('\\' :: '\n' :: rest) (('\n', false) :: shown)
  | code {text rest shown} (valid : IsCodeText text) (apart : (rest ++ tail).head? ≠ some '`')
      (more : Legible tail rest shown) :
      Legible tail ('`' :: (text ++ '`' :: rest)) (text.map (·, true) ++ shown)

/-- What is read in one go from the start of a text, and what it shows. -/
inductive FirstPart (tail : List Char) : (first rest : List Char) → List (Char × Bool) → Prop where
  | run {first rest} (some : first ≠ []) (plain : ∀ c ∈ first, isSpecial c = false)
      (stops : ∀ c ∈ rest.head?, isSpecial c = true) : FirstPart tail first rest (first.map (·, false))
  | literal {c rest} (own : IsLiteral c (rest ++ tail)) (special : isSpecial c = true) : FirstPart tail [c] rest [(c, false)]
  | escaped {c rest} (mark : Text.isAsciiPunctuation c = true) : FirstPart tail ['\\', c] rest [(c, false)]
  | lineEnd {rest} (starts : ∀ c ∈ (rest ++ tail).head?, Text.isIndent c = false) :
      FirstPart tail ['\\', '\n'] rest [('\n', false)]
  | code {text rest} (valid : IsCodeText text) (apart : (rest ++ tail).head? ≠ some '`') :
      FirstPart tail ('`' :: (text ++ ['`'])) rest (text.map (·, true))

variable {tail : List Char}

theorem FirstPart.positive {first rest : List Char} {shown : List (Char × Bool)} (part : FirstPart tail first rest shown) :
    0 < first.length := by
  cases part with
  | run some => exact List.length_pos_iff.mpr some
  | literal => exact Nat.zero_lt_one
  | escaped | lineEnd => exact Nat.zero_lt_two
  | code => exact Nat.zero_lt_succ _

theorem FirstPart.noBracket {first rest : List Char} {shown : List (Char × Bool)} (part : FirstPart tail first rest shown) :
    first.head? ≠ some '[' ∧ first.head? ≠ some ']' := by
  cases part with
  | run some plain =>
    obtain ⟨c, first, rfl⟩ := List.exists_cons_of_ne_nil some
    have own := plain c (List.mem_cons_self ..)
    constructor
    all_goals
      intro same
      cases same
      exact absurd own (by decide)
  | literal own =>
    constructor
    all_goals
      intro same
      cases same
      exact own.1 (by decide)
  | escaped | lineEnd | code => simp

/-- The characters up to the next special one are shown as they are. -/
theorem Legible.plainRun {text : List Char} {shown : List (Char × Bool)} (legible : Legible tail text shown) :
    ∃ later, shown = (text.takeWhile (!isSpecial ·)).map (·, false) ++ later ∧
      Legible tail (text.dropWhile (!isSpecial ·)) later := by
  induction legible with
  | nil => exact ⟨[], rfl, .nil⟩
  | @literal c rest shown own more ih =>
    by_cases special : isSpecial c = true
    · exact ⟨(c, false) :: shown, by simp [special], by simpa [special] using Legible.literal own more⟩
    · obtain ⟨later, split, left⟩ := ih
      exact ⟨later, by simp [special, split], by simpa [special] using left⟩
  | @escaped c rest shown mark more ih =>
    exact ⟨(c, false) :: shown, rfl, .escaped mark more⟩
  | @lineEnd rest shown starts more ih =>
    exact ⟨('\n', false) :: shown, rfl, .lineEnd starts more⟩
  | @code text rest shown valid apart more ih =>
    exact ⟨text.map (·, true) ++ shown, rfl, .code valid apart more⟩

theorem Legible.firstPart {text : List Char} {shown : List (Char × Bool)} (legible : Legible tail text shown) (some : text ≠ []) :
    ∃ first rest own later, text = first ++ rest ∧ shown = own ++ later ∧ FirstPart tail first rest own ∧
      Legible tail rest later := by
  cases legible with
  | nil => exact absurd rfl some
  | @literal c rest shown own more =>
    cases special : isSpecial c with
    | true => exact ⟨[c], rest, _, shown, rfl, rfl, .literal own special, more⟩
    | false =>
      obtain ⟨later, split, left⟩ := (Legible.literal own more).plainRun
      refine ⟨_, _, _, later, List.takeWhile_append_dropWhile.symm, split, .run ?_ (fun d among => ?_) (fun d first => ?_), left⟩
      · simp [special]
      · simpa using List.all_eq_true.mp List.all_takeWhile d among
      · have := List.head?_dropWhile_not (!isSpecial ·) (c :: rest)
        rw [first] at this
        simpa using this
  | escaped mark more => exact ⟨_, _, _, _, rfl, rfl, .escaped mark, more⟩
  | lineEnd starts more => exact ⟨_, _, _, _, rfl, rfl, .lineEnd starts, more⟩
  | code valid apart more => exact ⟨_, _, _, _, by simp, rfl, .code valid apart, more⟩

theorem Legible.filled {text : List Char} {shown : List (Char × Bool)} (legible : Legible tail text shown) (some : text ≠ []) :
    shown ≠ [] := by
  cases legible with
  | nil => exact absurd rfl some
  | literal => exact List.cons_ne_nil _ _
  | escaped => exact List.cons_ne_nil _ _
  | lineEnd => exact List.cons_ne_nil _ _
  | code valid => exact List.append_ne_nil_of_left_ne_nil (by simpa using valid.filled) _

theorem Legible.mem {text : List Char} {shown : List (Char × Bool)} (legible : Legible tail text shown) :
    ∀ c ∈ text, c = '\\' ∨ c = '`' ∨ c ∈ shown.map Prod.fst := by
  induction legible with
  | nil => simp
  | @literal c rest shown own more ih =>
    intro d among
    rcases List.mem_cons.mp among with rfl | among
    · exact .inr (.inr (List.mem_cons_self ..))
    · exact (ih d among).imp_right (.imp_right (List.mem_cons_of_mem _))
  | @escaped c rest shown mark more ih =>
    intro d among
    rcases List.mem_cons.mp among with rfl | among
    · exact .inl rfl
    · rcases List.mem_cons.mp among with rfl | among
      · exact .inr (.inr (List.mem_cons_self ..))
      · exact (ih d among).imp_right (.imp_right (List.mem_cons_of_mem _))
  | @lineEnd rest shown starts more ih =>
    intro d among
    rcases List.mem_cons.mp among with rfl | among
    · exact .inl rfl
    · rcases List.mem_cons.mp among with rfl | among
      · exact .inr (.inr (List.mem_cons_self ..))
      · exact (ih d among).imp_right (.imp_right (List.mem_cons_of_mem _))
  | @code text rest shown valid apart more ih =>
    intro d among
    simp only [List.mem_cons, List.mem_append] at among
    simp only [List.map_append, List.map_map, Function.comp_def, List.map_id', List.mem_append]
    rcases among with rfl | inside | rfl | among
    · exact .inr (.inl rfl)
    · exact .inr (.inr (.inl inside))
    · exact .inr (.inl rfl)
    · exact (ih d among).imp_right (.imp_right .inr)

theorem Legible.head {text : List Char} {shown : List (Char × Bool)} (legible : Legible tail text shown) :
    ∀ c ∈ text.head?, c = '\\' ∨ c = '`' ∨ shown.head?.map Prod.fst = some c := by
  intro c first
  cases legible with
  | nil => cases first
  | literal own more => exact .inr (.inr first)
  | escaped mark more => exact .inl (Option.some.inj first).symm
  | lineEnd starts more => exact .inl (Option.some.inj first).symm
  | code valid apart more => exact .inr (.inl (Option.some.inj first).symm)

/-- The last character is the one that is shown last, or ends a code span. -/
theorem Legible.last {text : List Char} {shown : List (Char × Bool)} (legible : Legible tail text shown) :
    ∀ c ∈ text.getLast?, c = '`' ∨ shown.getLast?.map Prod.fst = some c := by
  -- what ends the text when nothing follows its first part
  have alone {c : Char} {rest : List Char} {shown : List (Char × Bool)} (code : Bool) (more : Legible tail rest shown)
      (ih : ∀ d ∈ rest.getLast?, d = '`' ∨ shown.getLast?.map Prod.fst = some d) :
      ∀ d ∈ (c :: rest).getLast?, d = '`' ∨ ((c, code) :: shown).getLast?.map Prod.fst = some d := by
    intro d last
    by_cases some : rest = []
    · subst some
      cases more
      exact .inr last
    · rw [List.getLast?_cons_of_ne_nil some] at last
      rw [List.getLast?_cons_of_ne_nil (more.filled some)]
      exact ih d last
  induction legible with
  | nil => simp
  | literal own more ih => exact alone false more ih
  | escaped mark more ih =>
    rw [List.getLast?_cons_cons]
    exact alone false more ih
  | lineEnd starts more ih =>
    rw [List.getLast?_cons_cons]
    exact alone false more ih
  | @code text rest shown valid apart more ih =>
    intro d last
    by_cases some : rest = []
    · subst some
      rw [← List.cons_append, List.getLast?_concat] at last
      exact .inl (Option.some.inj last).symm
    · have split : '`' :: (text ++ '`' :: rest) = '`' :: (text ++ ['`']) ++ rest := by simp
      rw [split, List.getLast?_append_of_ne_nil _ some] at last
      rw [List.getLast?_append_of_ne_nil _ (more.filled some)]
      exact ih d last

end DocScribe.Markdown
