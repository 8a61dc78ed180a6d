import DocScribe.Proofs.Markdown.ReadingSteps

/-! The end of a label is found by passing what stands inside, which is legible text and marks around it. -/

namespace DocScribe.Markdown
open DocScribe InlineReader

/-- Nothing is remembered of the positions from here on. -/
def InlineMemory.Fresh (memory : InlineMemory) (pos : Nat) : Prop := ∀ place, pos ≤ place → memory.reaches.getD place 0 = 0

section Looking
variable {context : InlineContext} {text : List Char} (whole : context.source = Source.ofChars text) {limit pos : Nat}
  (skip : Nat → Scan Nat) (memory : InlineMemory)
include whole

/-- Looking ahead passes the same characters as reading. -/
theorem lookAhead_firstPart {part first rest tail : List Char} {shown : List (Char × Bool)}
    (stands : StandsAt text pos part tail limit)
    (split : part = first ++ rest) (ends : Ends pos part tail limit) (own : FirstPart tail first rest shown) :
    ∃ found, (lookAhead context limit skip pos).run memory = (found, memory) ∧ found.getD (pos + 1) = pos + first.length := by
  have front := stands.front first split
  cases own with
  | run some plain stops =>
    have skipped := skipWhile_run front plain (ends.run split some plain stops)
    obtain ⟨c, first, rfl⟩ := List.exists_cons_of_ne_nil some
    have here : (Source.ofChars text).at? pos = .some c := front.at?_eq
    refine ⟨_, ?_, Option.getD_some⟩
    simp only [lookAhead, whole, here, plain c List.mem_cons_self, skipped]
    rfl
  | @literal c _ own special =>
    obtain ⟨others, noImage, noReference⟩ := own
    have here : (Source.ofChars text).at? pos = some c := front.at?_eq
    have behind : (Source.ofChars text).after (pos + 1) = rest ++ tail := (front.behind [c] (List.append_nil [c]).symm).after_eq
    refine ⟨none, ?_, rfl⟩
    simp only [List.mem_cons, List.not_mem_nil, or_false, not_or] at others
    simp only [lookAhead, whole, here, special]
    simp only [Bool.not_true, Bool.false_eq_true, ↓reduceIte]
    split
    all_goals try (simp_all; done)
    · rw [StateT.run_bind, imageAt_literal whole skip memory front (noImage rfl)]
      rfl
    · rw [behind, noReference rfl]
      rfl
    · rfl
  | @escaped c _ mark =>
    have here : (Source.ofChars text).at? pos = some '\\' := front.at?_eq
    have behind : (Source.ofChars text).at? (pos + 1) = some c := (front.behind ['\\'] rfl).at?_eq
    have further : ¬ limit ≤ pos + 1 := by
      have := front.fits
      simp only [List.length_cons, List.length_nil] at this
      omega
    have printed : (some c == some '\n') = false := by
      refine beq_false_of_ne fun same => ?_
      cases same
      exact absurd mark (by decide)
    have special : isSpecial '\\' = true := by decide
    refine ⟨_, ?_, Option.getD_some⟩
    simp only [lookAhead, whole, here, behind, special, printed, further, Bool.not_true, Bool.false_eq_true, ↓reduceIte]
    rfl
  | lineEnd starts =>
    have here : (Source.ofChars text).at? pos = some '\\' := front.at?_eq
    have second : StandsAt text (pos + 1) ['\n'] (rest ++ tail) limit := front.behind ['\\'] rfl
    have behind : (Source.ofChars text).at? (pos + 1) = some '\n' := second.at?_eq
    have further : ¬ limit ≤ pos + 1 := by
      have := front.fits
      simp only [List.length_cons, List.length_nil] at this
      omega
    have special : isSpecial '\\' = true := by decide
    refine ⟨_, ?_, Option.getD_some⟩
    simp only [lookAhead, whole, here, behind, special, further, nextLine_eq second starts, Bool.not_true, Bool.false_eq_true,
      ↓reduceIte]
    rfl
  | @code code _ valid apart =>
    have here : (Source.ofChars text).at? pos = some '`' := front.at?_eq
    have special : isSpecial '`' = true := by decide
    have size : ('`' :: (code ++ ['`'])).length = code.length + 2 := by simp
    rw [size]
    refine ⟨_, ?_, Option.getD_some⟩
    simp only [lookAhead, whole, here, special, ticksAt_code front valid apart, Bool.not_true, Bool.false_eq_true, ↓reduceIte]
    rfl

/-- Marks of styles are passed one by one. -/
theorem lookAhead_mark {mark : Char} {more : List Char} (stands : StandsAt text pos [mark] more limit)
    (isMark : mark = '*' ∨ mark = '~') :
    (lookAhead context limit skip pos).run memory = (none, memory) := by
  have here : (Source.ofChars text).at? pos = some mark := stands.at?_eq
  have special : isSpecial mark = true := by rcases isMark with rfl | rfl <;> decide
  simp only [lookAhead, whole, here, special]
  rcases isMark with rfl | rfl <;> rfl

end Looking

namespace InlineMemory
variable {memory : InlineMemory} {pos place : Nat}

theorem Fresh.mono (fresh : memory.Fresh pos) (further : pos ≤ place) : memory.Fresh place :=
  fun other behind => fresh other (Nat.le_trans further behind)

/-- What is remembered of a position that is passed does not matter behind it. -/
theorem Fresh.set (fresh : memory.Fresh pos) (further : pos < place) (reach : Nat) :
    Fresh { memory with reaches := memory.reaches.setIfInBounds pos reach } place := by
  intro other behind
  have old := fresh other (by omega)
  have apart : pos ≠ other := by omega
  simpa [Array.getD_eq_getD_getElem?, Array.getElem?_setIfInBounds, apart] using old

end InlineMemory

/-- Passing goes from one position to another, over no bracket. -/
inductive Passes (context : InlineContext) (limit nesting : Nat) : Nat → InlineMemory → Nat → InlineMemory → Prop
  | here {pos memory} : Passes context limit nesting pos memory pos memory
  | step {pos memory place later stop final} (inside : pos < limit) (further : pos < place)
      (noBracket : context.source.at? pos ≠ some '[' ∧ context.source.at? pos ≠ some ']')
      (passed : (InlineReader.skip context limit (nesting + 1) pos).run memory = (place, later))
      (more : Passes context limit nesting place later stop final) : Passes context limit nesting pos memory stop final

namespace Passes
variable {context : InlineContext} {limit nesting pos place stop : Nat} {memory later final : InlineMemory}

theorem trans (first : Passes context limit nesting pos memory place later)
    (second : Passes context limit nesting place later stop final) :
    Passes context limit nesting pos memory stop final := by
  induction first with
  | here => exact second
  | step inside further noBracket passed more ih => exact .step inside further noBracket passed (ih second)

theorem le (passes : Passes context limit nesting pos memory stop final) : pos ≤ stop := by
  induction passes with
  | here => exact Nat.le_refl _
  | step inside further noBracket passed more ih => omega

/-- A label ends at the bracket that stands where passing goes to. -/
theorem findLabelEnd_eq (passes : Passes context limit nesting pos memory stop final) (ends : stop < limit)
    (bracket : context.source.at? stop = some ']') (refuseLinks : Bool) (fuel : Nat) (enough : stop - pos < fuel) :
    (findLabelEnd context.source limit (InlineReader.skip context limit (nesting + 1)) refuseLinks fuel pos 0).run memory =
      (some stop, final) := by
  induction passes generalizing fuel with
  | here =>
    obtain ⟨fuel, rfl⟩ : ∃ less, fuel = less + 1 := ⟨fuel - 1, by omega⟩
    simp [findLabelEnd, Nat.not_le_of_lt ends, bracket]
    rfl
  | @step pos memory place later stop final inside further noBracket passed more ih =>
    obtain ⟨fuel, rfl⟩ : ∃ less, fuel = less + 1 := ⟨fuel - 1, by omega⟩
    have := more.le
    have opening : (context.source.at? pos == some '[') = false := by simpa using noBracket.1
    have closing : (context.source.at? pos == some ']') = false := by simpa using noBracket.2
    simp only [findLabelEnd, Nat.not_le_of_lt inside, opening, closing, Bool.false_and, Bool.false_eq_true, ↓reduceIte,
      StateT.run_bind, passed]
    exact ih ends bracket fuel (by omega)

end Passes

section Skipping
variable {context : InlineContext} {text : List Char} (whole : context.source = Source.ofChars text) {limit : Nat}
    (nesting : Nat) {pos : Nat}
  {memory : InlineMemory} (fresh : memory.Fresh pos)
include fresh

private theorem skip_fresh {found : Option Nat}
    (ahead : (lookAhead context limit (InlineReader.skip context limit nesting) pos).run memory = (found, memory)) :
    (InlineReader.skip context limit (nesting + 1) pos).run memory =
      (found.getD (pos + 1), { memory with reaches := memory.reaches.setIfInBounds pos (found.getD (pos + 1)) }) := by
  have unknown : memory.reaches.getD pos 0 = 0 := fresh pos (Nat.le_refl pos)
  rw [InlineReader.skip, StateT.run_bind]
  change (if (memory.reaches.getD pos 0 != 0) = true then _ else _ : Scan Nat).run memory = _
  rw [unknown]
  simp only [bne_self_eq_false, Bool.false_eq_true, ↓reduceIte, StateT.run_bind, StateT.run_map, ahead]
  rfl

include whole

/-- Passing a part that is read in one go. -/
theorem Passes.firstPart {part first rest tail : List Char} {shown : List (Char × Bool)}
    (stands : StandsAt text pos part tail limit)
    (split : part = first ++ rest) (ends : Ends pos part tail limit) (own : FirstPart tail first rest shown) :
    ∃ later, Passes context limit nesting pos memory (pos + first.length) later ∧ later.Fresh (pos + first.length) := by
  have positive := own.positive
  have inside : pos < limit := by
    have := (stands.front first split).fits
    omega
  have here : context.source.at? pos = first.head? := by
    rw [whole, (stands.front first split).at?_eq, List.head?_append]
    obtain ⟨c, first, rfl⟩ := List.exists_cons_of_ne_nil (List.length_pos_iff.mp positive)
    rfl
  obtain ⟨found, ahead, place⟩ := lookAhead_firstPart whole (InlineReader.skip context limit nesting) memory stands split ends own
  have passed := skip_fresh nesting fresh ahead
  rw [place] at passed
  refine ⟨_, .step inside (by omega) ?_ passed .here, fresh.set (by omega) _⟩
  rw [here]
  exact own.noBracket

theorem Passes.legible {part tail : List Char} {shown : List (Char × Bool)} (legible : Legible tail part shown)
    (stands : StandsAt text pos part tail limit) (ends : Ends pos part tail limit) :
    ∃ later, Passes context limit nesting pos memory (pos + part.length) later ∧ later.Fresh (pos + part.length) := by
  induction length : part.length using Nat.strongRecOn generalizing part shown pos memory with
  | ind size ih =>
    by_cases some : part = []
    · subst some
      subst length
      exact ⟨memory, .here, fresh⟩
    · obtain ⟨first, rest, own, more, split, rfl, firstPart, left⟩ := legible.firstPart some
      have positive := firstPart.positive
      obtain ⟨later, passes, stillFresh⟩ := Passes.firstPart whole nesting fresh stands split ends firstPart
      have shorter : rest.length < size := by
        rw [← length, split, List.length_append]
        omega
      obtain ⟨final, others, left⟩ := ih rest.length shorter stillFresh left (stands.behind first split) (ends.behind split) rfl
      have sum : pos + size = pos + first.length + rest.length := by simp [← length, split, Nat.add_assoc]
      rw [sum]
      exact ⟨final, passes.trans others, left⟩

theorem Passes.marks {mark : Char} (isMark : mark = '*' ∨ mark = '~') {count : Nat} {more : List Char}
    (stands : StandsAt text pos (List.replicate count mark) more limit) :
    ∃ later, Passes context limit nesting pos memory (pos + count) later ∧ later.Fresh (pos + count) := by
  induction count generalizing pos memory with
  | zero => exact ⟨memory, .here, fresh⟩
  | succ count ih =>
    have first : StandsAt text pos [mark] (List.replicate count mark ++ more) limit := stands.front [mark] rfl
    have inside : pos < limit := by
      have := first.fits
      simp only [List.length_singleton] at this
      omega
    have here : context.source.at? pos = some mark := by rw [whole, first.at?_eq]; rfl
    have passed := skip_fresh nesting fresh (lookAhead_mark whole (InlineReader.skip context limit nesting) memory first isMark)
    obtain ⟨final, others, left⟩ := ih (fresh.set (Nat.lt_succ_self pos) _) (stands.behind [mark] rfl)
    rw [Nat.add_comm count 1, ← Nat.add_assoc]
    refine ⟨final, .step inside (Nat.lt_succ_self pos) ?_ passed others, left⟩
    rw [here]
    rcases isMark with rfl | rfl <;> decide

end Skipping

end DocScribe.Markdown
