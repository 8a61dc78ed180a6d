import DocScribe.Proofs.Docs.Compilation

/-! The styles of a compiled text lie where its meaning has them: every unit of a styled part is covered
by one style, its own, and no other unit is; headings and rules have the style of their paragraph. -/

namespace DocScribe.Docs
open DocScribe Markdown

def StyledRange.covers (range : StyledRange) (position : Int) : Bool := range.start ≤ position && position < range.stop

def changesAt (position : Int) (ranges : List StyledRange) : List StyleChange :=
  (ranges.filter fun range => !range.ofParagraph && range.covers position).map StyledRange.change

/-- The style that the meaning of a text, which starts at `base`, has at a position. -/
def styleAt (base : Int) (meaning : List (Nat × Style)) (position : Int) : Style :=
  if position < base then .plain else (meaning[(position - base).toNat]?.map Prod.snd).getD .plain

/-- The one change that sets a style, and none for the plain style. -/
def changesOf (style : Style) : List StyleChange := if style = .plain then [] else [.exactly style]

section Covering
variable (tag : String)

theorem ranges_from {parts : List Part} {start : Int} {range : StyledRange}
    (member : range ∈ (placed tag start parts).filterMap rangeOf?) : start ≤ range.start ∧ range.ofParagraph = false := by
  obtain ⟨place, among, found⟩ := List.mem_filterMap.mp member
  obtain ⟨chars, style, -, -, rfl⟩ := rangeOf?_eq_some found
  exact ⟨(placed_inside tag among).1, rfl⟩

private theorem changesAt_before {parts : List Part} {start position : Int} (before : position < start) :
    changesAt position ((placed tag start parts).filterMap rangeOf?) = [] := by
  simp only [changesAt, List.map_eq_nil_iff, List.filter_eq_nil_iff]
  intro range member
  have from_start := (ranges_from tag member).1
  have outside : range.covers position = false := by
    simp only [StyledRange.covers, Bool.and_eq_false_iff, decide_eq_false_iff_not]
    exact Or.inl (by omega)
  simp [outside]

private theorem changesAt_append (position : Int) (first second : List StyledRange) :
    changesAt position (first ++ second) = changesAt position first ++ changesAt position second := by
  simp [changesAt]

private theorem changesAt_part {start position : Int} (part : Part) (behind : start ≤ position) :
    changesAt position (rangeOf? (start, part)).toList =
      if position < start + part.units tag then changesOf part.style else [] := by
  cases part with
  | table cells | image ordinal source isRemote alt =>
    split <;> rfl
  | text chars style =>
    by_cases inside : position < start + Text.listUnits chars
    · have some : chars ≠ [] := by
        rintro rfl
        simp at inside
        omega
      rw [if_pos (by simpa [Part.units, Part.chars] using inside)]
      by_cases plain : style = .plain
      · simp [rangeOf?, plain, changesAt, changesOf, Part.style]
      · simp [rangeOf?, plain, some, changesAt, changesOf, Part.style, StyledRange.covers, behind, inside]
    · rw [if_neg (by simpa [Part.units, Part.chars] using inside)]
      simp only [rangeOf?]
      split
      · simp [changesAt, StyledRange.covers, inside]
      · rfl

private theorem styleAt_cons {start position : Int} (part : Part) (parts : List Part) (behind : start ≤ position) :
    styleAt start (taggedUnits tag (part :: parts)) position =
      if position < start + part.units tag then part.style
      else styleAt (start + part.units tag) (taggedUnits tag parts) position := by
  have whole : taggedUnits tag (part :: parts) =
      (Text.codes (part.chars tag)).map (·, part.style) ++ taggedUnits tag parts := rfl
  have size : ((Text.codes (part.chars tag)).map (·, part.style)).length = part.units tag := by
    simp [Part.units]
  rw [styleAt, if_neg (by omega), whole]
  by_cases inside : position < start + part.units tag
  · rw [if_pos inside, List.getElem?_append_left (by omega), List.getElem?_map]
    have present : (position - start).toNat < (Text.codes (part.chars tag)).length := by
      simp only [Text.length_codes]
      simp only [Part.units] at inside
      omega
    simp [List.getElem?_eq_getElem present]
  · rw [if_neg inside, styleAt, if_neg inside, List.getElem?_append_right (by omega), size]
    congr 3
    omega

/-- Every position of parts is covered by the style of the part that it lies in. -/
theorem changesAt_parts (parts : List Part) (start position : Int) :
    changesAt position ((placed tag start parts).filterMap rangeOf?) =
      changesOf (styleAt start (taggedUnits tag parts) position) := by
  induction parts generalizing start with
  | nil => simp [changesAt, taggedUnits, styleAt, changesOf]
  | cons part parts ih =>
    by_cases before : position < start
    · rw [changesAt_before tag before, styleAt, if_pos before]
      rfl
    · have split : (placed tag start (part :: parts)).filterMap rangeOf? =
          (rangeOf? (start, part)).toList ++ (placed tag (start + part.units tag) parts).filterMap rangeOf? := by
        rw [placed_cons, List.filterMap_cons]
        cases rangeOf? (start, part) <;> rfl
      rw [split, changesAt_append, changesAt_part tag part (by omega), styleAt_cons tag part parts (by omega)]
      by_cases inside : position < start + part.units tag
      · rw [if_pos inside, if_pos inside, changesAt_before tag inside, List.append_nil]
      · rw [if_neg inside, if_neg inside, ih, List.nil_append]

end Covering

section Elements
variable (tag : String)

theorem paragraphRanges_start {start : Int} {element : Element} {range : StyledRange}
    (member : range ∈ paragraphRanges start element) : range.start = start ∧ range.ofParagraph = true := by
  cases element with
  | heading level spans =>
    rw [paragraphRanges] at member
    split at member
    · cases member
    · rw [List.mem_singleton.mp member]
      exact ⟨rfl, rfl⟩
  | rule =>
    rw [List.mem_singleton.mp member]
    exact ⟨rfl, rfl⟩
  | _ => cases member

theorem textRanges_alongElements (earlier : List Element) (start : Int) (elements : List Element) :
    (alongElements tag (elementRanges tag) earlier start elements).filter (fun range => !range.ofParagraph) =
      (placed tag start (partsFrom earlier elements)).filterMap rangeOf? := by
  induction elements generalizing earlier start with
  | nil => rfl
  | cons element elements ih =>
    rw [alongElements, partsFrom, placed_append, List.filter_append, List.filterMap_append, ih]
    congr 1
    rw [elementRanges, List.filter_append]
    have none : (paragraphRanges start element).filter (fun range => !range.ofParagraph) = [] := by
      rw [List.filter_eq_nil_iff]
      intro range member
      simp [(paragraphRanges_start member).2]
    rw [none, List.nil_append, List.filter_eq_self]
    intro range member
    simp [(ranges_from tag member).2]

private theorem paragraphRanges_alongElements (earlier : List Element) (start : Int) (elements : List Element) :
    (alongElements tag (elementRanges tag) earlier start elements).filter StyledRange.ofParagraph =
      alongElements tag (fun _ => paragraphRanges) earlier start elements := by
  induction elements generalizing earlier start with
  | nil => rfl
  | cons element elements ih =>
    rw [alongElements, alongElements, List.filter_append, ih]
    congr 1
    rw [elementRanges, List.filter_append]
    have none : ((placed tag start (partsOf earlier element)).filterMap rangeOf?).filter StyledRange.ofParagraph = [] := by
      rw [List.filter_eq_nil_iff]
      intro range member
      simp [(ranges_from tag member).2]
    rw [none, List.append_nil, List.filter_eq_self]
    intro range member
    exact (paragraphRanges_start member).2

end Elements

/-- The text of compiled elements is that of their meaning. At every position, inside the text or not,
exactly one change of text style sets the style that the meaning has there, or none if that is plain; the
changes of paragraph style are those of the headings that have text and of the rules. -/
theorem compile_styling (elements : List Element) (base : Int) :
    let compiled := compile elements base
    let meaning := taggedUnits compiled.tag (parts elements)
    Text.codes compiled.text.toList = meaning.map Prod.fst ∧
    (∀ position, changesAt position compiled.styles = changesOf (styleAt base meaning position)) ∧
    compiled.styles.filter StyledRange.ofParagraph =
      alongElements compiled.tag (fun _ => paragraphRanges) [] base elements ∧
    compiled.endOffset = base + meaning.length := by
  intro compiled meaning
  have text : Text.codes compiled.text.toList = meaning.map Prod.fst := by
    rw [compile_text, codes_taggedUnits]
  refine ⟨text, ?_, ?_, ?_⟩
  · intro position
    have ofText : changesAt position compiled.styles =
        changesAt position (compiled.styles.filter fun range => !range.ofParagraph) := by
      simp [changesAt, List.filter_filter, Bool.and_comm]
    rw [ofText, compile_styles, textRanges_alongElements]
    exact changesAt_parts compiled.tag (parts elements) base position
  · rw [compile_styles, paragraphRanges_alongElements]
  · have length := congrArg List.length text
    simp only [Text.length_codes, List.length_map] at length
    rw [Compiled.endOffset, Text.units, length]
    rfl

end DocScribe.Docs
