import DocScribe.Markdown.Flatten
import DocScribe.Proofs.Markdown.LegibleText

/-! Legible text is read part by part, wherever it stands: the draft gets items without styles that show what the text
shows, and nothing else changes. -/

namespace DocScribe.Markdown
open DocScribe InlineReader

namespace Source

private theorem tails_getElem? (text : List Char) (pos : Nat) (inside : pos ≤ text.length) :
    (suffixes text)[pos]? = some (text.drop pos) := by
  induction text generalizing pos with
  | nil =>
    obtain rfl : pos = 0 := by simpa using inside
    rfl
  | cons c rest ih =>
    cases pos with
    | zero => rfl
    | succ pos => simpa [suffixes] using ih pos (by simpa using inside)

theorem after_ofChars {text : List Char} {pos : Nat} (inside : pos ≤ text.length) :
    (ofChars text).after pos = text.drop pos := by
  simp [after, ofChars, Array.getD_eq_getD_getElem?, tails_getElem? text pos inside]

theorem length_suffixes (text : List Char) : (suffixes text).length = text.length + 1 := by
  induction text with
  | nil => rfl
  | cons c rest ih => simp [suffixes, ih]

theorem length_ofChars (text : List Char) : (ofChars text).length = text.length := by
  simp [length, ofChars, length_suffixes]

end Source

/-- A part of a text from a position on, not beyond a limit, with what follows the part. -/
structure StandsAt (text : List Char) (pos : Nat) (part tail : List Char) (limit : Nat) : Prop where
  left : text.drop pos = part ++ tail
  fits : pos + part.length ≤ limit
  inside : limit ≤ text.length

namespace StandsAt
variable {text part tail : List Char} {pos limit : Nat} (stands : StandsAt text pos part tail limit)
include stands

theorem pos_le : pos ≤ text.length := Nat.le_trans (Nat.le_trans (Nat.le_add_right ..) stands.fits) stands.inside

theorem after_eq : (Source.ofChars text).after pos = part ++ tail := by
  rw [Source.after_ofChars stands.pos_le, stands.left]

theorem slice_eq : (Source.ofChars text).slice pos limit = (part ++ tail).take (limit - pos) := by
  rw [Source.slice, stands.after_eq]

theorem at?_eq : (Source.ofChars text).at? pos = (part ++ tail).head? := by
  rw [Source.at?, stands.after_eq]

theorem behind (first : List Char) {rest : List Char} (split : part = first ++ rest) :
    StandsAt text (pos + first.length) rest tail limit := by
  subst split
  refine ⟨?_, ?_, stands.inside⟩
  · rw [← List.drop_drop, stands.left, List.append_assoc, List.drop_left]
  · have := stands.fits
    rw [List.length_append] at this
    omega

/-- The first characters alone. -/
theorem front (first : List Char) {rest : List Char} (split : part = first ++ rest) :
    StandsAt text pos first (rest ++ tail) limit := by
  subst split
  refine ⟨by rw [stands.left, List.append_assoc], ?_, stands.inside⟩
  have := stands.fits
  rw [List.length_append] at this
  omega

end StandsAt

/-- A run of characters of a class ends where the limit is or another character follows. -/
theorem takeWhile_window {accepts : Char → Bool} {run more : List Char} {size : Nat} (all : ∀ c ∈ run, accepts c = true)
    (fits : run.length ≤ size) (ends : size = run.length ∨ ∀ c ∈ more.head?, accepts c = false) :
    ((run ++ more).take size).takeWhile accepts = run := by
  rw [List.take_append, List.take_of_length_le fits, List.takeWhile_append_of_pos all]
  suffices stop : (more.take (size - run.length)).takeWhile accepts = [] by rw [stop, List.append_nil]
  rcases ends with rfl | other
  · simp
  · cases more with
    | nil => simp
    | cons c more =>
      cases size - run.length with
      | zero => rfl
      | succ => simp [other c rfl]

/-- What follows a part cannot be read as one with its last characters. -/
def Ends (pos : Nat) (part tail : List Char) (limit : Nat) : Prop :=
  ∀ c ∈ part.getLast?, isSpecial c = true ∨ limit = pos + part.length ∨ ∃ d ∈ tail.head?, isSpecial d = true

theorem Ends.behind {pos limit : Nat} {part first rest tail : List Char} (ends : Ends pos part tail limit)
    (split : part = first ++ rest) :
    Ends (pos + first.length) rest tail limit := by
  intro c last
  have whole := ends c (by rw [split, List.getLast?_append, Option.mem_def.mp last]; rfl)
  rwa [split, List.length_append, ← Nat.add_assoc] at whole

/-- A run without rules ends where the limit is or a rule starts. -/
theorem Ends.run {pos limit : Nat} {part first rest tail : List Char} (ends : Ends pos part tail limit)
    (split : part = first ++ rest)
    (some : first ≠ []) (plain : ∀ c ∈ first, isSpecial c = false) (stops : ∀ c ∈ rest.head?, isSpecial c = true) :
    limit = pos + first.length ∨ ∀ c ∈ (rest ++ tail).head?, isSpecial c = true := by
  cases rest with
  | cons d rest => exact .inr fun c same => stops c same
  | nil =>
    rw [List.append_nil] at split
    subst split
    rcases ends _ (List.getLast?_eq_some_getLast some) with special | whole | ⟨d, same, special⟩
    · exact absurd special (by simp [plain _ (List.getLast_mem some)])
    · exact .inl whole
    · exact .inr fun c first => Option.mem_unique same first ▸ special

/-- The characters of inline content, and whether each is code. -/
def shownItems (items : List Inline) : List (Char × Bool) :=
  items.flatMap fun item => item.contribution.1.map (·, item.contribution.2)

/-- Text without marks of strikethrough, or code. -/
def Inline.IsPlain : Inline → Prop
  | .text chars => '~' ∉ chars
  | .escaped _ | .hardBreak | .code _ => True
  | _ => False

namespace InlineReader.Draft

/-- The next draft has more items without styles, which show these characters with what is pending. -/
structure Extends (draft : Draft) (shown : List (Char × Bool)) (next : Draft) : Prop where
  delimiters : next.delimiters = draft.delimiters
  noTilde : '~' ∉ draft.pending → '~' ∉ next.pending
  items : ∃ more, next.items.toList = draft.items.toList ++ more ∧ ('~' ∉ draft.pending → ∀ item ∈ more, item.IsPlain) ∧
    shownItems more ++ next.pending.reverse.map (·, false) = draft.pending.reverse.map (·, false) ++ shown

variable {draft next last : Draft} {shown more : List (Char × Bool)}

theorem Extends.refl (draft : Draft) : draft.Extends [] draft :=
  ⟨rfl, id, [], (List.append_nil _).symm, by simp, by simp [shownItems]⟩

theorem Extends.trans (first : draft.Extends shown next) (second : next.Extends more last) :
    draft.Extends (shown ++ more) last := by
  obtain ⟨items, split, plain, shows⟩ := first.items
  obtain ⟨others, splitMore, plainMore, showsMore⟩ := second.items
  refine ⟨second.delimiters.trans first.delimiters, second.noTilde ∘ first.noTilde, items ++ others, ?_,
    fun free item among => ?_, ?_⟩
  · rw [splitMore, split, List.append_assoc]
  · exact (List.mem_append.mp among).elim (plain free item) (plainMore (first.noTilde free) item)
  · rw [← List.append_assoc, ← shows, List.append_assoc _ _ more, ← showsMore]
    simp [shownItems]

private theorem extends_say (draft : Draft) (chars : List Char) (noTilde : '~' ∉ chars) :
    draft.Extends (chars.map (·, false)) (draft.say chars) :=
  ⟨rfl, fun free => by simp [say, noTilde, free], [], (List.append_nil _).symm, by simp, by simp [say, shownItems]⟩

theorem pending_flush (draft : Draft) : draft.flush.pending = [] := by
  unfold flush
  split
  · simp_all
  · rfl

theorem extends_flush (draft : Draft) : draft.Extends [] draft.flush := by
  unfold flush
  split
  · exact .refl draft
  · exact ⟨rfl, fun _ => List.not_mem_nil, [.text draft.pending.reverse], by simp, by simp [Inline.IsPlain],
      by simp [shownItems, Inline.contribution]⟩

theorem extends_push (draft : Draft) (item : Inline) (plain : item.IsPlain) :
    draft.Extends (item.contribution.1.map (·, item.contribution.2)) (draft.push item) := by
  have pushed : draft.flush.Extends (item.contribution.1.map (·, item.contribution.2)) (draft.push item) := by
    refine ⟨rfl, fun _ => ?_, [item], ?_, ?_, ?_⟩
    · rw [push, pending_flush]
      exact List.not_mem_nil
    · simp [push]
    · simp [plain]
    · simp [push, pending_flush, shownItems]
  exact (extends_flush draft).trans pushed

end InlineReader.Draft

section Codes
variable {text : List Char} {limit pos : Nat}

/-- Characters without rules end where the limit is or one with a rule follows. -/
theorem skipWhile_run {first more : List Char} (stands : StandsAt text pos first more limit)
    (plain : ∀ c ∈ first, isSpecial c = false)
    (ends : limit = pos + first.length ∨ ∀ c ∈ more.head?, isSpecial c = true) :
    skipWhile (Source.ofChars text) (!isSpecial ·) pos limit = pos + first.length := by
  have size := stands.fits
  rw [skipWhile, stands.slice_eq, takeWhile_window (fun d among => by simp [plain d among]) (by omega)]
  refine ends.imp (by omega) fun special d first => ?_
  simp [special d first]

/-- An exclamation mark before no bracket starts no image. -/
theorem imageAt_literal {context : InlineContext} (whole : context.source = Source.ofChars text) (skip : Nat → Scan Nat)
    (memory : InlineMemory)
    {c : Char} {more : List Char} (stands : StandsAt text pos [c] more limit) (other : more.head? ≠ some '[') :
    (imageAt context limit skip pos).run memory = (none, memory) := by
  have behind : (Source.ofChars text).after (pos + 1) = more := (stands.behind [c] (List.append_nil [c]).symm).after_eq
  have noBracket : ((Source.ofChars text).at? (pos + 1) != some '[') = true := by
    rw [Source.at?, behind]
    simpa using other
  simp [imageAt, whole, noBracket]
  rfl

/-- A run of one character ends where the limit is or another one follows. -/
theorem runEnd_eq {mark : Char} {count : Nat} {more : List Char}
    (stands : StandsAt text pos (List.replicate count mark) more limit)
    (ends : limit = pos + count ∨ more.head? ≠ some mark) : runEnd (Source.ofChars text) mark pos limit = pos + count := by
  have size := stands.fits
  rw [List.length_replicate] at size
  rw [runEnd, stands.slice_eq, takeWhile_window (by simp) (by simpa using (by omega : count ≤ limit - pos))]
  · simp
  · rw [List.length_replicate]
    refine ends.imp (by omega) fun other d first => ?_
    exact beq_false_of_ne fun same => other (same ▸ first)

private theorem codeText_valid {code : List Char} (valid : IsCodeText code) : codeText code = code := by
  have flat : code.map (fun c => if c == '\n' then ' ' else c) = code := by
    refine (List.map_congr_left fun c among => ?_).trans (List.map_id code)
    have other : c ≠ '\n' := fun same => valid.noBreak (same ▸ among)
    simp [other]
  have kept : (code.head? == some ' ' && code.getLast? == some ' ' && !code.all Text.isBlank) = false := by
    refine Bool.eq_false_iff.mpr fun spaced => valid.keepsEnds ?_
    simpa [List.any_eq_not_all_not, and_assoc] using spaced
  simp only [codeText, flat, kept, Bool.false_eq_true, ↓reduceIte]

/-- No blanks are skipped at the start of a line that starts with none. -/
theorem nextLine_eq {more : List Char} (stands : StandsAt text pos ['\n'] more limit)
    (starts : ∀ c ∈ more.head?, Text.isIndent c = false) : nextLine (Source.ofChars text) limit pos = pos + 1 := by
  have behind : StandsAt text (pos + 1) [] more limit := stands.behind ['\n'] (List.append_nil ['\n']).symm
  have none : (more.take (limit - (pos + 1))).takeWhile Text.isIndent = [] := by
    cases more with
    | nil => simp
    | cons c more =>
      cases limit - (pos + 1) with
      | zero => rfl
      | succ => simp [starts c rfl]
  rw [nextLine, skipWhile, behind.slice_eq, List.nil_append, none]
  rfl

theorem ticksAt_code {code more : List Char} (stands : StandsAt text pos ('`' :: (code ++ ['`'])) more limit)
    (valid : IsCodeText code)
    (apart : more.head? ≠ some '`') : ticksAt (Source.ofChars text) limit pos = .span code (pos + (code.length + 2)) := by
  have opens : StandsAt text pos (List.replicate 1 '`') (code ++ '`' :: more) limit := by
    simpa using stands.front ['`'] rfl
  have inside : StandsAt text (pos + 1) (code ++ ['`']) more limit := stands.behind ['`'] rfl
  have closes : StandsAt text (pos + 1 + code.length) (List.replicate 1 '`') more limit := by
    simpa using inside.behind code rfl
  have opening : runEnd (Source.ofChars text) '`' pos limit = pos + 1 := by
    refine runEnd_eq opens (.inr ?_)
    obtain ⟨c, rest, rfl⟩ := List.exists_cons_of_ne_nil valid.filled
    exact fun same => valid.noTick (Option.some.inj same ▸ List.mem_cons_self ..)
  have closing : runEnd (Source.ofChars text) '`' (pos + 1 + code.length) limit = pos + 1 + code.length + 1 :=
    runEnd_eq closes (.inr apart)
  have skipped : ((code ++ ['`'] ++ more).takeWhile (· != '`')).length = code.length := by
    have free : ∀ c ∈ code, (c != '`') = true := by
      intro c among
      exact bne_iff_ne.mpr fun same => valid.noTick (same ▸ among)
    simp [List.takeWhile_append_of_pos free]
  have found : findTicks? (Source.ofChars text) limit 1 (text.length + 1) (pos + 1) =
      some (pos + 1 + code.length, pos + 1 + code.length + 1) := by
    have some : (code.length == (code ++ ['`'] ++ more).length) = false := by
      simp only [List.length_append, List.length_cons, beq_eq_false_iff_ne]
      omega
    simp only [findTicks?, inside.after_eq, skipped, some, closing]
    simp
  have slice : (Source.ofChars text).slice (pos + 1) (pos + 1 + code.length) = code := by
    rw [Source.slice, inside.after_eq, Nat.add_sub_cancel_left, List.append_assoc, List.take_left]
  simp only [ticksAt, opening, Nat.add_sub_cancel_left, Source.length_ofChars, found, slice, codeText_valid valid]
  congr 1
  omega

end Codes

section Steps
variable {context : InlineContext} {text : List Char} (whole : context.source = Source.ofChars text) {limit pos : Nat}
  (skip : Nat → Scan Nat) (content : (start stop : Nat) → Scan (Array Inline)) (draft : Draft) (memory : InlineMemory)
include whole

private theorem readAt_run {first more : List Char} (stands : StandsAt text pos first more limit) (some : first ≠ [])
    (plain : ∀ c ∈ first, isSpecial c = false) (ends : limit = pos + first.length ∨ ∀ c ∈ more.head?, isSpecial c = true) :
    (readAt context limit skip content pos draft).run memory = ((draft.say first, pos + first.length), memory) := by
  obtain ⟨c, rest, rfl⟩ := List.exists_cons_of_ne_nil some
  have run := skipWhile_run stands plain ends
  have slice : (Source.ofChars text).slice pos (pos + (c :: rest).length) = c :: rest := by
    rw [Source.slice, stands.after_eq, Nat.add_sub_cancel_left, List.take_left]
  have here : (Source.ofChars text).at? pos = .some c := stands.at?_eq
  simp only [readAt, whole, here, plain c (List.mem_cons_self ..), run, slice]
  rfl

private theorem readAt_literal {c : Char} {more : List Char} (stands : StandsAt text pos [c] more limit) (own : IsLiteral c more)
    (special : isSpecial c = true) :
    (readAt context limit skip content pos draft).run memory = ((draft.say [c], pos + 1), memory) := by
  obtain ⟨others, noImage, noReference⟩ := own
  simp only [List.mem_cons, List.not_mem_nil, or_false, not_or] at others
  have here : (Source.ofChars text).at? pos = some c := stands.at?_eq
  have behind : (Source.ofChars text).after (pos + 1) = more := (stands.behind [c] (List.append_nil [c]).symm).after_eq
  simp only [readAt, whole, here, special]
  simp only [Bool.not_true, Bool.false_eq_true, ↓reduceIte]
  split
  all_goals try (simp_all; done)
  · rw [StateT.run_bind, imageAt_literal whole skip memory stands (noImage rfl)]
    rfl
  · rw [behind, noReference rfl]
    rfl
  · rfl

private theorem readAt_escaped {c : Char} {more : List Char} (stands : StandsAt text pos ['\\', c] more limit)
    (mark : Text.isAsciiPunctuation c = true) :
    (readAt context limit skip content pos draft).run memory = ((draft.push (.escaped [c]), pos + 2), memory) := by
  have here : (Source.ofChars text).at? pos = some '\\' := stands.at?_eq
  have behind : (Source.ofChars text).at? (pos + 1) = some c := (stands.behind ['\\'] rfl).at?_eq
  have further : ¬ limit ≤ pos + 1 := by
    have := stands.fits
    simp only [List.length_cons, List.length_nil] at this
    omega
  have printed : c ≠ '\n' := by
    rintro rfl
    exact absurd mark (by decide)
  have special : isSpecial '\\' = true := by decide
  simp only [readAt, whole, here, behind, special, mark, further, Bool.not_true, Bool.false_eq_true, ↓reduceIte]
  rfl

private theorem readAt_lineEnd {more : List Char} (stands : StandsAt text pos ['\\', '\n'] more limit)
    (starts : ∀ c ∈ more.head?, Text.isIndent c = false) :
    (readAt context limit skip content pos draft).run memory = ((draft.push .hardBreak, pos + 2), memory) := by
  have here : (Source.ofChars text).at? pos = some '\\' := stands.at?_eq
  have second : StandsAt text (pos + 1) ['\n'] more limit := stands.behind ['\\'] rfl
  have behind : (Source.ofChars text).at? (pos + 1) = some '\n' := second.at?_eq
  have further : ¬ limit ≤ pos + 1 := by
    have := stands.fits
    simp only [List.length_cons, List.length_nil] at this
    omega
  have special : isSpecial '\\' = true := by decide
  simp only [readAt, whole, here, behind, special, further, nextLine_eq second starts, Bool.not_true, Bool.false_eq_true,
    ↓reduceIte]
  rfl

private theorem readAt_code {code more : List Char} (stands : StandsAt text pos ('`' :: (code ++ ['`'])) more limit)
    (valid : IsCodeText code)
    (apart : more.head? ≠ some '`') :
    (readAt context limit skip content pos draft).run memory = ((draft.push (.code code), pos + (code.length + 2)), memory) := by
  have here : (Source.ofChars text).at? pos = some '`' := stands.at?_eq
  have special : isSpecial '`' = true := by decide
  simp only [readAt, whole, here, special, ticksAt_code stands valid apart, Bool.not_true, Bool.false_eq_true, ↓reduceIte]
  rfl

/-- What is read in one go is added to the draft. -/
theorem readAt_firstPart {part first rest tail : List Char} {shown : List (Char × Bool)}
    (stands : StandsAt text pos part tail limit)
    (split : part = first ++ rest) (ends : Ends pos part tail limit) (own : FirstPart tail first rest shown) :
    ∃ next, (readAt context limit skip content pos draft).run memory = ((next, pos + first.length), memory) ∧
      draft.Extends shown next := by
  have front := stands.front first split
  cases own with
  | run some plain stops =>
    refine ⟨_, readAt_run whole skip content draft memory front some plain ?_, Draft.extends_say draft first fun tilde => ?_⟩
    · exact ends.run split some plain stops
    · exact absurd (plain '~' tilde) (by decide)
  | @literal c _ own special =>
    refine ⟨_, readAt_literal whole skip content draft memory front own special, Draft.extends_say draft [c] ?_⟩
    intro among
    obtain rfl := List.mem_singleton.mp among
    exact own.1 (by decide)
  | @escaped c _ mark =>
    refine ⟨_, readAt_escaped whole skip content draft memory front mark, ?_⟩
    simpa [Inline.contribution] using Draft.extends_push draft (.escaped [c]) trivial
  | lineEnd starts =>
    refine ⟨_, readAt_lineEnd whole skip content draft memory front starts, ?_⟩
    simpa [Inline.contribution] using Draft.extends_push draft .hardBreak trivial
  | @code code _ valid apart =>
    refine ⟨_, ?_, Draft.extends_push draft (.code code) trivial⟩
    have size : ('`' :: (code ++ ['`'])).length = code.length + 2 := by simp
    rw [size]
    exact readAt_code whole skip content draft memory front valid apart

end Steps

/-- Reading goes from one position, draft and memory to another. -/
inductive Reads (context : InlineContext) (limit : Nat) (skip : Nat → Scan Nat)
    (content : (start stop : Nat) → Scan (Array Inline)) :
    Nat → Draft → InlineMemory → Nat → Draft → InlineMemory → Prop
  | here {pos draft memory} : Reads context limit skip content pos draft memory pos draft memory
  | step {pos draft memory place next later stop last final} (inside : pos < limit) (further : pos < place)
      (reads : (readAt context limit skip content pos draft).run memory = ((next, place), later))
      (more : Reads context limit skip content place next later stop last final) :
      Reads context limit skip content pos draft memory stop last final

namespace Reads
variable {context : InlineContext} {limit : Nat} {skip : Nat → Scan Nat} {content : (start stop : Nat) → Scan (Array Inline)}
  {pos place stop : Nat} {draft next last : Draft} {memory later final : InlineMemory}

theorem trans (first : Reads context limit skip content pos draft memory place next later)
    (second : Reads context limit skip content place next later stop last final) :
    Reads context limit skip content pos draft memory stop last final := by
  induction first with
  | here => exact second
  | step inside further reads more ih => exact .step inside further reads (ih second)

theorem one (inside : pos < limit) (further : pos < place)
    (reads : (readAt context limit skip content pos draft).run memory = ((next, place), later)) :
    Reads context limit skip content pos draft memory place next later :=
  .step inside further reads .here

/-- Reading up to the limit ends there. -/
theorem run_eq (reads : Reads context limit skip content pos draft memory stop last final) (ends : stop = limit) (fuel : Nat)
    (enough : limit - pos ≤ fuel) : (readFrom context limit skip content fuel pos draft).run memory = (last, final) := by
  -- on the steps: each leaves enough fuel for those behind it
  induction reads generalizing fuel with
  | here =>
    subst ends
    cases fuel with
    | zero => rfl
    | succ fuel =>
      simp only [readFrom, Nat.le_refl, ↓reduceIte]
      rfl
  | step inside further reads more ih =>
    obtain ⟨fuel, rfl⟩ : ∃ less, fuel = less + 1 := ⟨fuel - 1, by omega⟩
    simp only [readFrom, Nat.not_le_of_lt inside, ↓reduceIte, StateT.run_bind, reads]
    exact ih ends fuel (by omega)

theorem legible {text part tail : List Char} {shown : List (Char × Bool)} (whole : context.source = Source.ofChars text)
    (legible : Legible tail part shown) (stands : StandsAt text pos part tail limit) (ends : Ends pos part tail limit)
    (skip : Nat → Scan Nat) (content : (start stop : Nat) → Scan (Array Inline)) (draft : Draft) (memory : InlineMemory) :
    ∃ next, Reads context limit skip content pos draft memory (pos + part.length) next memory ∧ draft.Extends shown next := by
  -- on what is left of the part
  induction length : part.length using Nat.strongRecOn generalizing part shown pos draft with
  | ind size ih =>
    by_cases some : part = []
    · subst some
      cases legible
      subst length
      exact ⟨draft, .here, .refl draft⟩
    · obtain ⟨first, rest, own, later, split, rfl, firstPart, left⟩ := legible.firstPart some
      have positive := firstPart.positive
      obtain ⟨next, reads, grown⟩ := readAt_firstPart whole skip content draft memory stands split ends firstPart
      have shorter : rest.length < size := by
        rw [← length, split, List.length_append]
        omega
      obtain ⟨last, more, grownMore⟩ := ih rest.length shorter left (stands.behind first split) (ends.behind split) next rfl
      have sum : pos + size = pos + first.length + rest.length := by simp [← length, split, Nat.add_assoc]
      rw [sum]
      have inside := stands.fits
      rw [split, List.length_append] at inside
      exact ⟨last, (one (by omega) (by omega) reads).trans more, grown.trans grownMore⟩

end Reads

end DocScribe.Markdown
