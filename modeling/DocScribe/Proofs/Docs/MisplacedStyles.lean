import DocScribe.Proofs.Docs.RangeOrder
import DocScribe.Proofs.Docs.WholeWrite

/-! The first batch of a write where anchors are not stored and something behind a table is styled. The styles are
set as if the anchors were there, so the first unit that should have a style behind a table is left without one. -/

namespace DocScribe.Docs
open DocScribe Markdown

section Ranges
variable {keeps : Char → Bool} {tag : String}

private theorem contents_ranges (ranges : List StyledRange) (body : LiveBody) :
    LiveBody.contents (applyEdits keeps (ranges.map StyledRange.edit) body) = LiveBody.contents body := by
  induction ranges generalizing body with
  | nil => rfl
  | cons range ranges ih =>
    rw [List.map_cons, applyEdits_cons, ih, StyledRange.edit]
    split <;> simp [Edit.applyTo]

private theorem getElem?_ranges (keeps : Char → Bool) {ranges : List StyledRange} {index : Nat}
    (outside : ∀ range ∈ ranges, (index : Int) < range.start ∨ range.stop ≤ index) (body : LiveBody) :
    (applyEdits keeps (ranges.map StyledRange.edit) body)[index]? = body[index]? := by
  induction ranges generalizing body with
  | nil => rfl
  | cons range ranges ih =>
    rw [List.map_cons, applyEdits_cons, ih fun other member => outside other (List.mem_cons_of_mem range member),
      StyledRange.edit]
    split
    · rfl
    · exact LiveBody.getElem?_restyle_outside _ _ _ _ (outside range (by simp))

private theorem storedText_append (first second : List Part) :
    storedText false tag (first ++ second) = storedText false tag first ++ storedText false tag second := by
  simp [storedText]

private theorem units_storedText (tag : String) (parts : List Part) :
    Text.listUnits (storedText false tag parts) ≤ Text.listUnits (payload tag parts) := by
  induction parts with
  | nil => exact Nat.le_refl _
  | cons part parts ih =>
    rw [storedText_cons, payload_cons, Text.listUnits_append, Text.listUnits_append]
    have own : Text.listUnits (part.stored false tag) ≤ Text.listUnits (part.chars tag) := by
      cases part with
      | table cells => exact Nat.zero_le _
      | text chars style | image ordinal source isRemote alt => exact Nat.le_refl _
    omega

end Ranges

section First

private theorem exists_firstStyled {parts : List Part} (some : ∃ part ∈ parts, part.IsStyled) :
    ∃ middle chars style behind, parts = middle ++ .text chars style :: behind ∧ (∀ part ∈ middle, ¬ part.IsStyled) ∧
      (Part.text chars style).IsStyled := by
  induction parts with
  | nil => simp at some
  | cons part parts ih =>
    by_cases here : part.IsStyled
    · cases part with
      | text chars style => exact ⟨[], chars, style, parts, rfl, by simp, here⟩
      | table cells | image ordinal source isRemote alt => exact here.elim
    · obtain ⟨found, member, styled⟩ := some
      have inside : found ∈ parts := (List.mem_cons.mp member).resolve_left fun same => here (same ▸ styled)
      obtain ⟨middle, chars, style, behind, rfl, unstyled, first⟩ := ih ⟨found, inside, styled⟩
      exact ⟨part :: middle, chars, style, behind, rfl, List.forall_mem_cons.mpr ⟨here, unstyled⟩, first⟩

/-- Parts up to the first table, that table, parts without styles, and the first styled text behind the table. -/
structure SplitAtStyled (parts ahead : List Part) (cells : Grid) (middle : List Part) (chars : List Char) (style : Style)
    (behind : List Part) : Prop where
  whole : parts = ahead ++ .table cells :: middle ++ .text chars style :: behind
  noTable : ∀ tag, storedText false tag ahead = payload tag ahead
  unstyled : ∀ part ∈ middle, ¬ part.IsStyled
  styled : (Part.text chars style).IsStyled

theorem StyledBehindTable.split {parts : List Part} (styled : StyledBehindTable parts) :
    ∃ ahead cells middle chars style behind, SplitAtStyled parts ahead cells middle chars style behind := by
  induction parts with
  | nil => exact styled.elim
  | cons part parts ih =>
    have later (goesOn : StyledBehindTable parts) (same : ∀ tag, part.stored false tag = part.chars tag) :
        ∃ ahead cells middle chars style behind, SplitAtStyled (part :: parts) ahead cells middle chars style behind := by
      obtain ⟨ahead, cells, middle, chars, style, behind, split⟩ := ih goesOn
      refine ⟨part :: ahead, cells, middle, chars, style, behind, ⟨by rw [split.whole]; simp, fun tag => ?_,
        split.unstyled, split.styled⟩⟩
      rw [storedText_cons, payload_cons, same, split.noTable]
    cases part with
    | table cells =>
      obtain ⟨middle, chars, style, behind, rfl, unstyled, first⟩ := exists_firstStyled styled
      exact ⟨[], cells, middle, chars, style, behind, ⟨by simp, fun _ => rfl, unstyled, first⟩⟩
    | text chars style | image ordinal source isRemote alt => exact later styled fun _ => rfl

variable {parts ahead middle behind : List Part} {cells : Grid} {chars : List Char} {style : Style} {tag : String}

/-- No range covers the unit where the first styled text behind a table starts. -/
theorem SplitAtStyled.missed (split : SplitAtStyled parts ahead cells middle chars style behind) (tag : String) (start : Nat) :
    ∀ range ∈ (placed tag start parts).filterMap rangeOf?,
      ((start + Text.listUnits (storedText false tag (ahead ++ .table cells :: middle)) : Nat) : Int) < range.start ∨
        range.stop ≤ (start + Text.listUnits (storedText false tag (ahead ++ .table cells :: middle)) : Nat) := by
  have anchor : Text.listUnits ((Part.table cells).chars tag) = 1 := rfl
  have counted := units_storedText tag middle
  have size : Text.listUnits (storedText false tag (ahead ++ .table cells :: middle)) =
      Text.listUnits (payload tag ahead) + Text.listUnits (storedText false tag middle) := by
    rw [storedText_append, split.noTable, Text.listUnits_append]
    rfl
  rw [size]
  intro range member
  rw [split.whole, List.append_assoc, placed_append, List.filterMap_append, List.cons_append, placed_cons,
    List.filterMap_cons, rangeOf?_table, placed_append, List.filterMap_append,
    (unstyled_parts false split.unstyled _).1, List.nil_append] at member
  rcases List.mem_append.mp member with first | last
  · have := textRanges_inside tag first
    omega
  · have := textRanges_inside tag last
    rw [Part.units, anchor] at this
    omega

theorem LaidBody.exists_of_contents {anchors : Bool} {tag : String} {parts : List Part} {body : LiveBody}
    (contents : LiveBody.contents body = textContents (storedText anchors tag parts)) :
    ∃ laid : LaidBody, laid.parts = parts ∧ laid.slots = body ∧ laid.Holds (bareShape anchors) tag := by
  induction parts generalizing body with
  | nil =>
    rw [storedText, List.flatMap_nil, textContents_nil] at contents
    obtain rfl := List.map_eq_nil_iff.mp contents
    exact ⟨[], rfl, rfl, by simp [LaidBody.Holds]⟩
  | cons part parts ih =>
    rw [storedText_cons, textContents_append] at contents
    obtain ⟨own, rest, rfl, first, later⟩ := List.map_eq_append_iff.mp contents
    obtain ⟨laid, rfl, rfl, holds⟩ := ih later
    refine ⟨(part, own) :: laid, rfl, rfl, fun piece member => ?_⟩
    rcases List.mem_cons.mp member with rfl | inside
    · exact first.trans (contents_bareShape part).symm
    · exact holds piece inside

/-- A body that holds the text of parts between two sides, laid out around the first styled text behind a table. -/
theorem SplitAtStyled.exists_laid (split : SplitAtStyled parts ahead cells middle chars style behind) {front back body : LiveBody}
    (held : LiveBody.contents body = front.contents ++ (textContents (storedText false tag (ahead ++ .table cells :: middle)) ++
      (textContents chars ++ textContents (storedText false tag behind)) ++ back.contents)) :
    ∃ (before after : LiveBody) (first last : LaidBody) (slot : Slot) (own : LiveBody),
      body = before ++ (LaidBody.slots (first ++ (.text chars style, slot :: own) :: last) ++ after) ∧
        before.contents = front.contents ∧ after.contents = back.contents ∧
        first.parts = ahead ++ .table cells :: middle ∧ last.parts = behind ∧
        LaidBody.Holds (bareShape false) tag (first ++ (.text chars style, slot :: own) :: last) := by
  obtain ⟨before, rest, rfl, inFront, held⟩ := List.map_eq_append_iff.mp held
  obtain ⟨inserted, after, rfl, held, inBack⟩ := List.map_eq_append_iff.mp held
  obtain ⟨leading, rest, rfl, inLeading, held⟩ := List.map_eq_append_iff.mp held
  obtain ⟨styled, trailing, rfl, inStyled, inTrailing⟩ := List.map_eq_append_iff.mp held
  obtain ⟨first, firstParts, rfl, firstHolds⟩ := LaidBody.exists_of_contents inLeading
  obtain ⟨last, lastParts, rfl, lastHolds⟩ := LaidBody.exists_of_contents inTrailing
  cases styled with
  | nil => exact absurd (textContents_eq_nil.mp inStyled.symm) split.styled.1
  | cons slot own =>
    refine ⟨before, after, first, last, slot, own, by simp [LaidBody.slots], inFront, inBack, firstParts, lastParts, ?_⟩
    intro piece member
    rcases List.mem_append.mp member with inFirst | inLast
    · exact firstHolds piece inFirst
    · rcases List.mem_cons.mp inLast with rfl | later
      · exact inStyled
      · exact lastHolds piece later

theorem SplitAtStyled.text_ne_empty {elements : List Element} {base : Int}
    (split : SplitAtStyled (Docs.parts elements) ahead cells middle chars style behind) : (compile elements base).text ≠ "" := by
  intro empty
  have text := compile_text elements base
  rw [empty, split.whole, payload_append, payload_cons] at text
  exact split.styled.1 (List.append_eq_nil_iff.mp (List.append_eq_nil_iff.mp text.symm).2).1

/-- What is stored of the text: that in front of the first styled text behind a table, this text, and the rest. -/
theorem SplitAtStyled.filter_text {keeps : Char → Bool} {elements : List Element} {base : Int}
    (split : SplitAtStyled (Docs.parts elements) ahead cells middle chars style behind) (dropped : keeps tableAnchor = false)
    (kept : ∀ part ∈ Docs.parts elements, part.IsKept keeps (compile elements base).tag) :
    (compile elements base).text.toList.filter keeps =
      storedText false (compile elements base).tag (ahead ++ .table cells :: middle) ++
        (chars ++ storedText false (compile elements base).tag behind) := by
  rw [compile_text, filter_payload kept, dropped, split.whole, storedText_append]
  rfl

/-- Behind the first batch the text is in place, but the first styled text behind a table starts with a unit
without a style. -/
theorem SplitAtStyled.batch {keeps : Char → Bool} {elements : List Element} (front back : LiveBody)
    (split : SplitAtStyled (Docs.parts elements) ahead cells middle chars style behind) (dropped : keeps tableAnchor = false)
    (kept : ∀ part ∈ Docs.parts elements, part.IsKept keeps (compile elements front.length).tag) :
    ∃ (before after : LiveBody) (first last : LaidBody) (slot : Slot) (own : LiveBody),
      applyEdits keeps (compile elements front.length).edits (front ++ back) =
          before ++ (LaidBody.slots (first ++ (.text chars style, slot :: own) :: last) ++ after) ∧
        before.contents = front.contents ∧ after.contents = back.contents ∧
        first.parts = ahead ++ .table cells :: middle ∧ last.parts = behind ∧
        LaidBody.Holds (bareShape false) (compile elements front.length).tag
          (first ++ (.text chars style, slot :: own) :: last) ∧
        slot.style = TextStyle.none := by
  have batch := compiled_edits_text keeps elements front back rfl split.text_ne_empty
  rw [split.filter_text dropped kept] at batch
  generalize compile elements front.length = compiled at batch kept ⊢
  rw [textContents_append, textContents_append, plainSlots_append, plainSlots_append] at batch
  have held := congrArg LiveBody.contents batch
  rw [contents_ranges] at held
  simp only [LiveBody.contents_append, contents_plainSlots] at held
  obtain ⟨before, after, first, last, slot, own, laid, inFront, inBack, firstParts, lastParts, holds⟩ := split.exists_laid held
  refine ⟨before, after, first, last, slot, own, laid, inFront, inBack, firstParts, lastParts, holds, ?_⟩
  -- the ranges pass over the first unit of the text, which is as plain as it was inserted
  have missed := getElem?_ranges keeps (split.missed compiled.tag front.length)
    (front ++ (plainSlots (textContents (storedText false compiled.tag (ahead ++ .table cells :: middle))) ++
      (plainSlots (textContents chars) ++ plainSlots (textContents (storedText false compiled.tag behind))) ++ back))
  have inStyled : LiveBody.contents (slot :: own) = textContents chars := holds (.text chars style, slot :: own) (by simp)
  have plain : plainSlots (textContents chars) = Slot.plain slot.content :: plainSlots (own.map Slot.content) := by
    rw [← inStyled]
    rfl
  have sizeFront : before.length = front.length := by simpa using congrArg List.length inFront
  have sizeFirst : (LaidBody.slots first).length =
      Text.listUnits (storedText false compiled.tag (ahead ++ .table cells :: middle)) := by
    have firstHolds : first.Holds (bareShape false) compiled.tag := fun piece member => holds piece (List.mem_append_left _ member)
    rw [← LiveBody.length_contents, LaidBody.contents_slots firstHolds, firstParts, laidOut_bareShape, length_textContents]
  rw [← batch, laid, plain, ← sizeFirst, ← sizeFront] at missed
  have here : (before ++ (LaidBody.slots (first ++ (.text chars style, slot :: own) :: last) ++ after))[before.length +
      (LaidBody.slots first).length]? = some slot := by
    simp [LaidBody.slots]
  have there (more : LiveBody) : (front ++ (plainSlots (textContents (storedText false compiled.tag
      (ahead ++ .table cells :: middle))) ++ (Slot.plain slot.content :: more) ++ back))[before.length +
        (LaidBody.slots first).length]? = some (Slot.plain slot.content) := by
    simp [sizeFront, sizeFirst]
  rw [here, List.cons_append, there] at missed
  rw [Option.some.inj missed]
  rfl

end First

end DocScribe.Docs
