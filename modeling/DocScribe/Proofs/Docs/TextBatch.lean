import DocScribe.Proofs.Docs.MarkerPlaces
import DocScribe.Proofs.Docs.PicturePass
import DocScribe.Proofs.Docs.Styling
import DocScribe.Proofs.Docs.TableFilling

/-! The first batch of a write: the text goes in at once, and then every styled part gets its style. A
service that does not store anchors moves what stands behind a table, so there the styles land right only
if nothing behind a table is styled. -/

namespace DocScribe.Docs
open DocScribe Markdown

namespace Part

/-- The slots of a part in a text that was just written, where anchors may not be stored. -/
def slots (anchors : Bool) (tag : String) : Part → LiveBody
  | .text chars style => styledSlots chars (TextStyle.none.set style)
  | .table _ => if anchors then [Slot.plain (.code 0)] else []
  | .image ordinal _ _ _ => plainSlots (textContents (imageMarker ordinal tag).toList)

def stored (anchors : Bool) (tag : String) : Part → List Char
  | .table _ => if anchors then [tableAnchor] else []
  | part => part.chars tag

def IsStyled : Part → Prop
  | .text chars style => chars ≠ [] ∧ style ≠ .plain
  | _ => False

instance : DecidablePred IsStyled
  | .text chars style => inferInstanceAs (Decidable (chars ≠ [] ∧ style ≠ .plain))
  | .table _ => inferInstanceAs (Decidable False)
  | .image .. => inferInstanceAs (Decidable False)

def IsKept (keeps : Char → Bool) (tag : String) : Part → Prop
  | .table _ => True
  | part => ∀ c ∈ part.chars tag, keeps c = true

end Part

def writtenParts (anchors : Bool) (tag : String) (parts : List Part) : LaidBody :=
  parts.map fun part => (part, part.slots anchors tag)

def storedText (anchors : Bool) (tag : String) (parts : List Part) : List Char := parts.flatMap (Part.stored anchors tag)

/-- A part with text in a style stands behind a table. -/
def StyledBehindTable : List Part → Prop
  | [] => False
  | .table _ :: rest => ∃ part ∈ rest, part.IsStyled
  | _ :: rest => StyledBehindTable rest

instance StyledBehindTable.decidable : DecidablePred StyledBehindTable
  | [] => inferInstanceAs (Decidable False)
  | .table _ :: rest => inferInstanceAs (Decidable (∃ part ∈ rest, part.IsStyled))
  | .text .. :: rest => decidable rest
  | .image .. :: rest => decidable rest

section Writing
variable {keeps : Char → Bool} {tag : String} {anchors : Bool}

@[simp] theorem writtenParts_cons (part : Part) (parts : List Part) :
    (writtenParts anchors tag (part :: parts)).slots = part.slots anchors tag ++ (writtenParts anchors tag parts).slots := by
  simp [writtenParts, LaidBody.slots]

@[simp] theorem storedText_cons (part : Part) (parts : List Part) :
    storedText anchors tag (part :: parts) = part.stored anchors tag ++ storedText anchors tag parts := rfl

theorem filter_payload {parts : List Part} (kept : ∀ part ∈ parts, part.IsKept keeps tag) :
    (payload tag parts).filter keeps = storedText (keeps tableAnchor) tag parts := by
  induction parts with
  | nil => rfl
  | cons part parts ih =>
    have rest := ih fun other member => kept other (List.mem_cons_of_mem part member)
    have own := kept part (by simp)
    rw [payload_cons, List.filter_append, rest, storedText_cons]
    congr 1
    cases part with
    | table cells => cases here : keeps tableAnchor <;> simp [Part.chars, Part.stored, here]
    | text chars style | image ordinal source isRemote alt => exact filter_kept own

theorem contents_slots (part : Part) :
    LiveBody.contents (part.slots anchors tag) = textContents (part.stored anchors tag) := by
  cases part with
  | text chars style => simp [Part.slots, Part.stored, Part.chars]
  | table cells => cases anchors <;> rfl
  | image ordinal source isRemote alt => simp [Part.slots, Part.stored, Part.chars]

private theorem contents_writtenParts (parts : List Part) :
    LiveBody.contents (writtenParts anchors tag parts).slots = textContents (storedText anchors tag parts) := by
  induction parts with
  | nil => rfl
  | cons part parts ih => simp [contents_slots, ih]

private theorem slots_plain {part : Part} (unstyled : ¬ part.IsStyled) :
    part.slots anchors tag = plainSlots (textContents (part.stored anchors tag)) := by
  cases part with
  | text chars style =>
    by_cases empty : chars = []
    · subst empty
      rfl
    · have plain : style = .plain := Decidable.not_not.mp fun styled => unstyled ⟨empty, styled⟩
      simp [Part.slots, Part.stored, Part.chars, plain]
  | table cells => cases anchors <;> rfl
  | image ordinal source isRemote alt => rfl

private theorem rangeOf?_unstyled {start : Int} {part : Part} (unstyled : ¬ part.IsStyled) : rangeOf? (start, part) = none := by
  cases part with
  | text chars style =>
    rw [rangeOf?, if_neg]
    exact fun both => unstyled ⟨both.2, both.1⟩
  | table cells | image ordinal source isRemote alt => rfl

theorem unstyled_parts (anchors : Bool) {parts : List Part} (unstyled : ∀ part ∈ parts, ¬ part.IsStyled) (start : Int) :
    (placed tag start parts).filterMap rangeOf? = [] ∧
      (writtenParts anchors tag parts).slots = plainSlots (textContents (storedText anchors tag parts)) := by
  induction parts generalizing start with
  | nil => exact ⟨rfl, rfl⟩
  | cons part parts ih =>
    obtain ⟨ranges, slots⟩ := ih (fun other member => unstyled other (List.mem_cons_of_mem part member))
      (start + part.units tag)
    have own := unstyled part (by simp)
    constructor
    · rw [placed_cons, List.filterMap_cons, rangeOf?_unstyled own]
      exact ranges
    · rw [writtenParts_cons, storedText_cons, slots, slots_plain own]
      simp

/-- The edit of a styled part gives its text the style, where the text stands. -/
theorem styled_apply {chars : List Char} {style : Style} (styled : (Part.text chars style).IsStyled) {front : LiveBody}
    {start : Int} (place : (front.length : Int) = start) :
    ∃ range, rangeOf? (start, .text chars style) = some range ∧ ∀ back,
      Edit.applyTo keeps (front ++ (plainSlots (textContents chars) ++ back)) range.edit =
        front ++ ((Part.text chars style).slots anchors tag ++ back) := by
  refine ⟨⟨start, start + Text.listUnits chars, .exactly style, false⟩, by simp [rangeOf?, styled.1, styled.2], fun back => ?_⟩
  have same : (Part.text chars style).slots anchors tag =
      (plainSlots (textContents chars)).map (Slot.restyle (.exactly style)) := by
    rw [← styledSlots_none, restyle_styledSlots, ← StyleChange.ofStyle_eq, StyleChange.applyTo_ofStyle styled.2]
    rfl
  rw [same]
  exact LiveBody.restyle_between _ place (by simp)

/-- The styles of the parts of a text that was just inserted. Without anchors the parts in front of the first
table are at their places, and behind it there is no style to set. -/
theorem ranges_apply {parts : List Part} (aligned : anchors = true ∨ ¬ StyledBehindTable parts) {front back : LiveBody}
    {start : Int} (place : (front.length : Int) = start) :
    applyEdits keeps (((placed tag start parts).filterMap rangeOf?).map StyledRange.edit)
        (front ++ (plainSlots (textContents (storedText anchors tag parts)) ++ back)) =
      front ++ ((writtenParts anchors tag parts).slots ++ back) := by
  induction parts generalizing front start with
  | nil => rfl
  | cons part parts ih =>
    have goesOn (alignedRest : anchors = true ∨ ¬ StyledBehindTable parts)
        (size : (part.slots anchors tag).length = part.units tag) :
        applyEdits keeps (((placed tag (start + part.units tag) parts).filterMap rangeOf?).map StyledRange.edit)
            (front ++ (part.slots anchors tag ++ (plainSlots (textContents (storedText anchors tag parts)) ++ back))) =
          front ++ (part.slots anchors tag ++ ((writtenParts anchors tag parts).slots ++ back)) := by
      have behind : ((front ++ part.slots anchors tag).length : Int) = start + part.units tag := by
        rw [List.length_append, size]
        omega
      have rest := ih alignedRest behind
      rwa [List.append_assoc, List.append_assoc] at rest
    rw [placed_cons, List.filterMap_cons, storedText_cons, textContents_append, plainSlots_append, writtenParts_cons,
      List.append_assoc, List.append_assoc]
    cases part with
    | text chars style =>
      by_cases styled : (Part.text chars style).IsStyled
      · obtain ⟨range, told, set⟩ := styled_apply styled place
        rw [told]
        simp only [List.map_cons, applyEdits_cons]
        rw [Part.stored, Part.chars, set]
        · exact goesOn aligned (by simp [Part.slots, Part.units, Part.chars])
        · simp
      · rw [rangeOf?_unstyled styled, ← slots_plain styled]
        exact goesOn aligned (by simp [Part.slots, Part.units, Part.chars])
    | image ordinal source isRemote alt =>
      exact goesOn aligned (by simp [Part.slots, Part.units, Part.chars])
    | table cells =>
      cases anchors with
      | true => exact goesOn (.inl rfl) (by simp [Part.slots, Part.units, Part.chars, tableAnchor, Text.charUnits])
      | false =>
        have unstyled : ∀ part ∈ parts, ¬ part.IsStyled := by
          rcases aligned with stored | free
          · cases stored
          · exact fun part member styled => free ⟨part, member, styled⟩
        obtain ⟨ranges, slots⟩ := unstyled_parts false unstyled (start + (Part.table cells).units tag)
        rw [rangeOf?_table, ranges, slots]
        rfl

private theorem applyEdits_styles (styles : List StyledRange) (body : LiveBody) :
    applyEdits keeps (styles.map StyledRange.edit) body =
      applyEdits keeps ((styles.filter fun range => !range.ofParagraph).map StyledRange.edit) body := by
  induction styles generalizing body with
  | nil => rfl
  | cons range styles ih =>
    rw [List.map_cons, applyEdits_cons, ih, List.filter_cons]
    cases paragraph : range.ofParagraph with
    | false => simp
    | true => simp [StyledRange.edit, paragraph, Edit.applyTo]

/-- The first batch of a write inserts what is stored of the text, and then sets the styles of its parts. -/
theorem compiled_edits_text (keeps : Char → Bool) (elements : List Element) (front back : LiveBody) {base : Int}
    (place : (front.length : Int) = base) (some : (compile elements base).text ≠ "") :
    applyEdits keeps (compile elements base).edits (front ++ back) =
      applyEdits keeps (((placed (compile elements base).tag base (parts elements)).filterMap rangeOf?).map StyledRange.edit)
        (front ++ (plainSlots (textContents ((compile elements base).text.toList.filter keeps)) ++ back)) := by
  have start : (compile elements base).baseOffset = base := rfl
  rw [Compiled.edits, if_neg (by simpa using some), applyEdits_cons, Compiled.insertion, Edit.applyTo, start,
    LiveBody.splice_at _ place, applyEdits_styles, compile_styles, textRanges_alongElements]
  rfl

/-- The first batch of a write puts the parts of the text into the document, in their styles. -/
theorem compiled_edits_apply (elements : List Element) (front back : LiveBody) {base : Int}
    (place : (front.length : Int) = base)
    (kept : ∀ part ∈ parts elements, part.IsKept keeps (compile elements base).tag)
    (aligned : keeps tableAnchor = true ∨ ¬ StyledBehindTable (parts elements)) :
    applyEdits keeps (compile elements base).edits (front ++ back) =
      front ++ ((writtenParts (keeps tableAnchor) (compile elements base).tag (parts elements)).slots ++ back) := by
  have stored : (compile elements base).text.toList.filter keeps =
      storedText (keeps tableAnchor) (compile elements base).tag (parts elements) := by
    rw [compile_text, filter_payload kept]
  by_cases empty : (compile elements base).text = ""
  · have none : (writtenParts (keeps tableAnchor) (compile elements base).tag (parts elements)).slots = [] := by
      rw [← List.length_eq_zero_iff, ← LiveBody.length_contents, contents_writtenParts, ← stored, empty]
      rfl
    rw [Compiled.edits, if_pos (by simpa using empty), none]
    rfl
  · rw [compiled_edits_text keeps elements front back place empty, stored]
    exact ranges_apply aligned place

end Writing

end DocScribe.Docs
