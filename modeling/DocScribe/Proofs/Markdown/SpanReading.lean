import DocScribe.Proofs.Markdown.LinkedText

/-! Spans that are written one behind the other, each with its marks and its link, are read as they were. -/

namespace DocScribe.Markdown
open DocScribe InlineReader

/-- Nothing follows, or a mark that may stand behind the text of a span. -/
def StartsMarked (tail : List Char) : Prop := ∀ c ∈ tail.head?, c ∈ ['*', '~', '`', '[', ']']

/-- A span, and the text that stands between its marks. -/
structure WrittenSpan where
  span : Span
  core : List Char

namespace WrittenSpan
variable (written : WrittenSpan)

/-- The text with its marks. -/
def body : List Char := written.span.style.opening ++ written.core ++ written.span.style.closing

def text : List Char :=
  match written.span.style.link with
  | some target => '[' :: (written.body ++ behindLabel target.toList)
  | none => written.body

/-- The characters that are shown. -/
def shown : List (Char × Style) := written.span.text.toList.map (·, written.span.style)

/-- What stands behind the text and its marks, when `tail` stands behind the whole. -/
def behindBody (tail : List Char) : List Char :=
  match written.span.style.link with
  | some target => behindLabel target.toList ++ tail
  | none => tail

/-- The span is read back where this character stands before it and this text behind it. -/
structure IsSound (before : Char) (tail : List Char) : Prop where
  legible : Legible (written.span.style.closing ++ written.behindBody tail) written.core
    (written.span.text.toList.map (·, written.span.style.code))
  target : ∀ target ∈ written.span.style.link, IsTarget target.toList
  linked : written.span.style.link ≠ none → written.span.style.opening ≠ [] → written.span.style.Encloses '[' written.core ' '
  marked : written.span.style.link = none → written.span.style.opening ≠ [] →
    written.span.style.Encloses before written.core (tail.head?.getD ' ') ∧ tail.head? ≠ written.span.style.opening.head?
  bare : written.span.style.link = none → written.span.style.opening = [] →
    ∀ c ∈ written.core.getLast?, isSpecial c = true ∨ StartsMarked tail

end WrittenSpan

/-- Each span is read back where it stands; this character stands before the first one. -/
def AllSound (before : Char) : List WrittenSpan → Prop
  | [] => True
  | written :: rest => written.IsSound before (rest.flatMap WrittenSpan.text) ∧ AllSound (written.text.getLast?.getD before) rest

namespace WrittenSpan
variable {written : WrittenSpan} {before : Char} {tail : List Char} (sound : written.IsSound before tail)

theorem mem_opening {style : Style} {c : Char} (among : c ∈ style.opening) : c = '*' ∨ c = '~' :=
  (List.mem_append.mp among).imp List.eq_of_mem_replicate List.eq_of_mem_replicate

theorem mem_closing {style : Style} {c : Char} (among : c ∈ style.closing) : c = '*' ∨ c = '~' :=
  (List.mem_append.mp among).symm.imp List.eq_of_mem_replicate List.eq_of_mem_replicate

theorem text_linked {target : String} (link : written.span.style.link = some target) :
    written.text = '[' :: (written.body ++ behindLabel target.toList) := by
  rw [text, link]

theorem text_bare (none : written.span.style.link = none) (unmarked : written.span.style.opening = []) :
    written.text = written.core := by
  simp [text, body, none, unmarked, written.span.style.closing_eq_nil unmarked]

include sound

theorem IsSound.mem_text : ∀ c ∈ written.text, c ∈ ['[', ']', '(', ')', '*', '~', '\\', '`'] ∨ c ∈ written.span.text.toList ∨
    ∃ target ∈ written.span.style.link, c ∈ target.toList := by
  have body : ∀ c ∈ written.body, c ∈ ['[', ']', '(', ')', '*', '~', '\\', '`'] ∨ c ∈ written.span.text.toList := by
    intro c among
    rcases List.mem_append.mp among with among | among
    · rcases List.mem_append.mp among with mark | core
      · rcases mem_opening mark with rfl | rfl <;> exact .inl (by decide)
      · rcases sound.legible.mem c core with rfl | rfl | shown
        · exact .inl (by decide)
        · exact .inl (by decide)
        · exact .inr (by simpa using shown)
    · rcases mem_closing among with rfl | rfl <;> exact .inl (by decide)
  intro c among
  cases link : written.span.style.link with
  | none =>
    rw [text, link] at among
    exact (body c among).imp_right .inl
  | some target =>
    rw [text_linked link, behindLabel] at among
    simp only [List.mem_cons, List.mem_append, List.not_mem_nil, or_false] at among
    rcases among with rfl | inside | rfl | rfl | own | rfl
    · exact .inl (by decide)
    · exact (body c inside).imp_right .inl
    · exact .inl (by decide)
    · exact .inl (by decide)
    · exact .inr (.inr ⟨target, rfl, own⟩)
    · exact .inl (by decide)

theorem IsSound.head?_text : ∀ c ∈ written.text.head?, c ∈ ['[', '*', '~', '\\', '`'] ∨
    written.span.text.toList.head? = some c := by
  intro c first
  cases link : written.span.style.link with
  | some target =>
    rw [text_linked link] at first
    obtain rfl := Option.some.inj first
    exact .inl (by decide)
  | none =>
    by_cases unmarked : written.span.style.opening = []
    · rw [text_bare link unmarked] at first
      rcases sound.legible.head c first with rfl | rfl | shown
      · exact .inl (by decide)
      · exact .inl (by decide)
      · exact .inr (by simpa using shown)
    · obtain ⟨mark, rest, split⟩ := List.exists_cons_of_ne_nil unmarked
      rw [text, link, body, split] at first
      obtain rfl := Option.some.inj first
      rcases mem_opening (split ▸ List.mem_cons_self .. : mark ∈ written.span.style.opening) with rfl | rfl <;>
        exact .inl (by decide)

theorem IsSound.getLast?_text :
    ∀ c ∈ written.text.getLast?, c ∈ [')', '*', '~', '`'] ∨ written.span.text.toList.getLast? = some c := by
  intro c last
  cases link : written.span.style.link with
  | some target =>
    have ends : written.text = '[' :: (written.body ++ [']', '('] ++ target.toList) ++ [')'] := by
      rw [text_linked link]
      simp [behindLabel]
    rw [ends, List.getLast?_concat] at last
    obtain rfl := Option.some.inj last
    exact .inl (by decide)
  | none =>
    by_cases unmarked : written.span.style.opening = []
    · rw [text_bare link unmarked] at last
      rcases sound.legible.last c last with rfl | shown
      · exact .inl (by decide)
      · exact .inr (by simpa using shown)
    · have some : written.span.style.closing ≠ [] :=
        List.ne_nil_of_length_pos (written.span.style.length_closing ▸ List.length_pos_iff.mpr unmarked)
      rw [text, link, body, List.getLast?_append_of_ne_nil _ some] at last
      rcases mem_closing (List.mem_of_getLast? last) with rfl | rfl <;> exact .inl (by decide)

end WrittenSpan

theorem AllSound.each {before : Char} {all : List WrittenSpan} (sound : AllSound before all) :
    ∀ written ∈ all, ∃ before tail, written.IsSound before tail := by
  induction all generalizing before with
  | nil => simp
  | cons written rest ih => exact List.forall_mem_cons.mpr ⟨⟨_, _, sound.1⟩, ih sound.2⟩

section Reading
variable {context : InlineContext} {text : List Char} (whole : context.source = Source.ofChars text) (nesting : Nat) {pos : Nat}
  {memory : InlineMemory} {draft : Draft} {chars : List (Char × Style)} {written : WrittenSpan} {tail : List Char}
include whole

omit whole in
private theorem charBehind_whole {part : List Char} (stands : StandsAt text pos part tail text.length) :
    charBehind (pos + part.length) text.length tail = tail.head?.getD ' ' := by
  have size := congrArg List.length stands.left
  rw [List.length_drop, List.length_append] at size
  unfold charBehind
  split
  · rfl
  · have none : tail = [] := List.eq_nil_of_length_eq_zero (by omega)
    rw [none]
    rfl

omit whole in
private theorem ends_whole {part : List Char} (stands : StandsAt text pos part tail text.length) (none : tail = []) :
    text.length = pos + part.length := by
  have size := congrArg List.length stands.left
  have inside := stands.pos_le
  rw [List.length_drop, List.length_append, none, List.length_nil] at size
  omega

omit whole in
private theorem shown_styled (links : List String) (same : links.head? = written.span.style.link) :
    (written.span.text.toList.map (·, written.span.style.code)).map
      (fun entry => (entry.1, { written.span.style with code := entry.2, link := links.head? })) = written.shown := by
  rw [List.map_map, same]
  rfl

private theorem Reads.span (fresh : memory.Fresh pos) (stands : StandsAt text pos written.text tail text.length)
    (sound : written.IsSound (charBefore text pos) tail) (writes : draft.Writes [] chars) :
    ∃ next later, Reads context text.length (InlineReader.skip context text.length (nesting + 1 + 1))
      (read context (nesting + 1)) pos draft memory
        (pos + written.text.length) next later ∧
      next.Writes [] (chars ++ written.shown) ∧ later.Fresh (pos + written.text.length) := by
  have legible := sound.legible
  cases link : written.span.style.link with
  | none =>
    have bodyOnly : written.text = written.body := by simp [WrittenSpan.text, link]
    have behind : written.behindBody tail = tail := by simp [WrittenSpan.behindBody, link]
    rw [behind] at legible
    rw [bodyOnly] at stands ⊢
    have apart := charBehind_whole stands
    have bare (unmarked : written.span.style.opening = []) : Ends pos written.core tail text.length := by
      have noClosing := written.span.style.closing_eq_nil unmarked
      intro c last
      refine (sound.bare link unmarked c last).imp_right fun follows => ?_
      cases tail with
      | nil => exact .inl (by simpa [WrittenSpan.body, unmarked, noClosing] using ends_whole stands rfl)
      | cons d tail =>
        have special : ∀ d ∈ ['*', '~', '`', '[', ']'], isSpecial d = true := by decide
        exact .inr ⟨d, rfl, special d (follows d rfl)⟩
    obtain ⟨next, reads, writes⟩ := Reads.styled whole (InlineReader.skip context text.length (nesting + 1 + 1))
      (read context (nesting + 1)) memory
      stands legible (fun some => (sound.marked link some).imp (fun encloses => apart.symm ▸ encloses) .inr) bare writes
    rw [shown_styled [] link.symm] at writes
    exact ⟨next, memory, reads, writes, fresh.mono (Nat.le_add_right ..)⟩
  | some target =>
    have linked : written.text = '[' :: (written.body ++ behindLabel target.toList) := by simp [WrittenSpan.text, link]
    have behind : written.behindBody tail = behindLabel target.toList ++ tail := by simp [WrittenSpan.behindBody, link]
    rw [behind] at legible
    rw [linked] at stands ⊢
    obtain ⟨next, later, reads, writes, fresh⟩ :=
      Reads.link whole nesting fresh (sound.target target link) stands legible
      (sound.linked (by simp [link])) writes
    have shown := shown_styled [target] link.symm
    rw [List.head?_cons] at shown
    rw [String.ofList_toList, shown] at writes
    exact ⟨next, later, reads, writes, fresh⟩

private theorem Reads.spans {all : List WrittenSpan} (fresh : memory.Fresh pos)
    (stands : StandsAt text pos (all.flatMap WrittenSpan.text) [] text.length)
    (sound : AllSound (charBefore text pos) all) (writes : draft.Writes [] chars) :
    ∃ next later, Reads context text.length (InlineReader.skip context text.length (nesting + 1 + 1))
      (read context (nesting + 1)) pos draft memory
        text.length next later ∧
      next.Writes [] (chars ++ all.flatMap WrittenSpan.shown) := by
  induction all generalizing pos memory draft chars with
  | nil =>
    have ends : pos = text.length := by
      have := congrArg List.length stands.left
      simp at this
      have := stands.pos_le
      omega
    exact ⟨draft, memory, ends ▸ .here, by simpa using writes⟩
  | cons written rest ih =>
    obtain ⟨own, others⟩ := sound
    rw [List.flatMap_cons] at stands
    have front := stands.front _ rfl
    rw [List.append_nil] at front
    obtain ⟨next, later, reads, writes, fresh⟩ := Reads.span whole nesting fresh front own writes
    rw [← front.charBefore_behind] at others
    obtain ⟨last, final, more, writes⟩ := ih fresh (stands.behind _ rfl) others writes
    refine ⟨last, final, reads.trans more, ?_⟩
    simpa [List.flatMap_cons] using writes

end Reading

/-- What is known of a text before it is read: nothing. -/
def freshMemory (text : List Char) : InlineMemory := { reaches := Array.replicate (text.length + 1) 0 }

theorem fresh_freshMemory (text : List Char) (pos : Nat) : (freshMemory text).Fresh pos := by
  intro place _
  simp only [freshMemory, Array.getD_eq_getD_getElem?, Array.getElem?_replicate]
  split <;> rfl

/-- The items of a text are those of the draft that its reading ends with. -/
theorem Reads.ofText_eq {text : List Char} {definitions : Definitions} {next : Draft} {later : InlineMemory}
    (reads : let context : InlineContext := ⟨Source.ofChars text, definitions⟩
      Reads context text.length (InlineReader.skip context text.length maxInlineNesting) (read context (maxInlineNesting - 1))
        0 {} (freshMemory text) text.length next later) :
    Inline.ofText definitions text = next.finish.toList := by
  have run := reads.run_eq rfl (text.length - 0) (Nat.le_refl _)
  have read : (read ⟨Source.ofChars text, definitions⟩ maxInlineNesting 0 text.length).run (freshMemory text) =
    (next.finish, later) := by
    rw [maxInlineNesting] at run ⊢
    rw [InlineReader.read, StateT.run_bind, run]
    rfl
  simp only [Inline.ofText, Source.length_ofChars]
  change ((InlineReader.read ⟨Source.ofChars text, definitions⟩ maxInlineNesting 0 text.length).run
    (freshMemory text)).1.toList = _
  rw [read]

/-- What is shown when spans are read that stand alone. -/
theorem ofText_shows (definitions : Definitions) {all : List WrittenSpan} (sound : AllSound ' ' all) :
    Shows [] (Inline.ofText definitions (all.flatMap WrittenSpan.text)) (all.flatMap WrittenSpan.shown) := by
  have stands : StandsAt (all.flatMap WrittenSpan.text) 0 (all.flatMap WrittenSpan.text) []
    (all.flatMap WrittenSpan.text).length :=
    ⟨by simp, by simp, Nat.le_refl _⟩
  have whole : (⟨Source.ofChars (all.flatMap WrittenSpan.text), definitions⟩ : InlineContext).source =
      Source.ofChars (all.flatMap WrittenSpan.text) := rfl
  obtain ⟨next, later, reads, writes⟩ := Reads.spans whole 18 (fresh_freshMemory _ 0) stands sound (Draft.writes_empty [])
  rw [reads.ofText_eq]
  exact writes.finish

end DocScribe.Markdown
