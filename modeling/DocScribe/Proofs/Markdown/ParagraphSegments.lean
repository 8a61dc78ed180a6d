import DocScribe.Markdown.Flatten
import Mathlib.Data.List.Chain
import Mathlib.Data.List.DropRight
import Mathlib.Data.List.ModifyLast

/-! A paragraph comes apart at its images. What stands between two of them shows as a paragraph of its own, without the
blanks at its ends, and not at all if it is blank. -/

namespace DocScribe.Markdown
open DocScribe

def styledChars (spans : List Span) : List (Char × Style) :=
  spans.flatMap fun span => span.text.toList.map (·, span.style)

def isBlankEntry (entry : Char × Style) : Bool := Text.isBlank entry.1

def Span.trimStart (span : Span) : Span := { span with text := Text.trimStart span.text }

def Span.trimEnd (span : Span) : Span := { span with text := Text.trimEnd span.text }

/-- The spans of a segment without the blanks at its ends: blank spans are gone there, and only the first and the last of
those that are left have lost characters. -/
structure Trims (segment spans : List Span) : Prop where
  text : spansText spans = Text.trim (spansText segment)
  chars : styledChars spans = ((styledChars segment).dropWhile isBlankEntry).rdropWhile isBlankEntry
  ends : ∃ front core back, segment = front ++ core ++ back ∧ (∀ span ∈ front ++ back, Text.allBlank span.text = true) ∧
    spans = (core.modifyHead Span.trimStart).modifyLast Span.trimEnd
  filled : ∀ span ∈ spans, span.text ≠ ""

def SpansFilled (spans : List Span) : Prop := ∀ span ∈ spans, span.text ≠ ""

def SpansApart (spans : List Span) : Prop := spans.IsChain (·.style ≠ ·.style)

inductive SegmentShows : List Span → List Element → Prop
  | blank {segment} (text : Text.allBlank (spansText segment) = true) : SegmentShows segment []
  | filled {segment spans} (text : Text.allBlank (spansText segment) = false) (trims : Trims segment spans) :
      SegmentShows segment [.paragraph spans]

/-- Segments of spans, as long as can be, and the images between them. -/
inductive ParagraphShows : List Piece → List Element → Prop
  | last {segment shown} (own : SegmentShows segment shown) : ParagraphShows (segment.map .span) shown
  | image {segment shown source isRemote alt pieces elements} (own : SegmentShows segment shown)
      (later : ParagraphShows pieces elements) :
      ParagraphShows (segment.map .span ++ .image source isRemote alt :: pieces)
        (shown ++ .image source isRemote alt :: elements)

section Chars

theorem styledChars_cons (span : Span) (spans : List Span) :
    styledChars (span :: spans) = span.text.toList.map (·, span.style) ++ styledChars spans :=
  List.flatMap_cons

private theorem map_styledChars (spans : List Span) : (styledChars spans).map Prod.fst = (spansText spans).toList := by
  simp [styledChars, toList_spansText, List.map_flatMap, Function.comp_def]

private theorem rdropWhile_append {α : Type} (cut : α → Bool) (front back : List α) :
    (front ++ back).rdropWhile cut =
      if back.rdropWhile cut = [] then front.rdropWhile cut else front ++ back.rdropWhile cut := by
  simp only [List.rdropWhile, List.reverse_append, List.dropWhile_append, List.isEmpty_iff, List.reverse_eq_nil_iff]
  split
  · rfl
  · rw [List.reverse_append, List.reverse_reverse]

private theorem dropWhile_styled (text : String) (style : Style) :
    (text.toList.map (·, style)).dropWhile isBlankEntry = (Text.trimStart text).toList.map (·, style) := by
  rw [List.dropWhile_map, Text.trimStart, String.toList_ofList]
  rfl

private theorem rdropWhile_styled (text : String) (style : Style) :
    (text.toList.map (·, style)).rdropWhile isBlankEntry = (Text.trimEnd text).toList.map (·, style) := by
  rw [List.rdropWhile, ← List.map_reverse, List.dropWhile_map, ← List.map_reverse, Text.trimEnd, String.toList_ofList]
  rfl

private theorem trimStart_eq_nil (text : String) : (Text.trimStart text).toList = [] ↔ Text.allBlank text = true := by
  simp [Text.trimStart, Text.allBlank]

theorem trimEnd_eq_nil (text : String) : (Text.trimEnd text).toList = [] ↔ Text.allBlank text = true := by
  simp [Text.trimEnd, Text.trimEndBy, Text.allBlank]

private theorem styledChars_trimStartSpans (spans : List Span) :
    styledChars (trimStartSpans spans) = (styledChars spans).dropWhile isBlankEntry := by
  induction spans with
  | nil => rfl
  | cons span spans ih =>
    rw [styledChars_cons, List.dropWhile_append, dropWhile_styled, trimStartSpans]
    by_cases blank : Text.allBlank span.text = true
    · have none := (trimStart_eq_nil span.text).mpr blank
      simp [blank, none, ih]
    · have some := mt (trimStart_eq_nil span.text).mp blank
      simp [blank, some, styledChars_cons]

theorem trimEndSpans_cons (span : Span) (spans : List Span) : trimEndSpans (span :: spans) =
    if trimEndSpans spans = [] then if Text.allBlank span.text then [] else [span.trimEnd]
    else span :: trimEndSpans spans := by
  rw [trimEndSpans]
  split
  next none => rw [none, if_pos rfl]; rfl
  next some => rw [if_neg some]

/-- What is left ends in a character that is not blank. -/
theorem styledChars_trimEndSpans_eq_nil (spans : List Span) :
    styledChars (trimEndSpans spans) = [] ↔ trimEndSpans spans = [] := by
  induction spans with
  | nil => simp [trimEndSpans, styledChars]
  | cons span spans ih =>
    rw [trimEndSpans_cons]
    split
    · by_cases blank : Text.allBlank span.text = true
      · simp [blank, styledChars]
      · have some := mt (trimEnd_eq_nil span.text).mp blank
        simp [blank, styledChars, Span.trimEnd, some]
    · next some =>
      simp [styledChars_cons, ih, some]

private theorem styledChars_trimEndSpans (spans : List Span) :
    styledChars (trimEndSpans spans) = (styledChars spans).rdropWhile isBlankEntry := by
  induction spans with
  | nil => rfl
  | cons span spans ih =>
    rw [styledChars_cons, rdropWhile_append, ← ih, rdropWhile_styled, trimEndSpans_cons]
    simp only [styledChars_trimEndSpans_eq_nil]
    split
    · by_cases blank : Text.allBlank span.text = true
      · have none := (trimEnd_eq_nil span.text).mpr blank
        simp [blank, none, styledChars]
      · simp [blank, styledChars, Span.trimEnd]
    · rw [styledChars_cons]

theorem styledChars_trimSpans (spans : List Span) :
    styledChars (trimSpans spans) = ((styledChars spans).dropWhile isBlankEntry).rdropWhile isBlankEntry := by
  rw [trimSpans, styledChars_trimEndSpans, styledChars_trimStartSpans]

private theorem spansText_trimSpans (spans : List Span) : spansText (trimSpans spans) = Text.trim (spansText spans) := by
  apply String.toList_injective
  rw [Text.trim, String.toList_ofList, ← map_styledChars, ← map_styledChars, styledChars_trimSpans, Text.trimBy,
    Text.trimEndBy, List.rdropWhile, List.dropWhile_map, ← List.map_reverse, List.dropWhile_map, ← List.map_reverse]
  rfl

private theorem trimSpans_eq_nil (spans : List Span) : trimSpans spans = [] ↔ Text.allBlank (spansText spans) = true := by
  have none : styledChars (trimSpans spans) = [] ↔ trimSpans spans = [] := styledChars_trimEndSpans_eq_nil _
  rw [← none, styledChars_trimSpans, List.rdropWhile_eq_nil_iff, Text.allBlank, ← map_styledChars, List.all_map, List.all_eq_true]
  constructor
  · intro blank entry among
    rw [← List.takeWhile_append_dropWhile (p := isBlankEntry) (l := styledChars spans)] at among
    rcases List.mem_append.mp among with cut | kept
    · exact List.mem_takeWhile_imp cut
    · exact blank entry kept
  · intro blank entry kept
    exact blank entry ((List.dropWhile_suffix isBlankEntry).subset kept)

end Chars

section Ends
variable {spans : List Span}

private theorem trimStartSpans_split (some : trimStartSpans spans ≠ []) : ∃ front first rest, spans = front ++ first :: rest ∧
    (∀ span ∈ front, Text.allBlank span.text = true) ∧ Text.allBlank first.text = false ∧
    trimStartSpans spans = first.trimStart :: rest := by
  induction spans with
  | nil => exact absurd rfl some
  | cons span spans ih =>
    rw [trimStartSpans] at some ⊢
    by_cases blank : Text.allBlank span.text = true
    · rw [if_pos blank] at some ⊢
      obtain ⟨front, first, rest, split, blanks, shown, trimmed⟩ := ih some
      refine ⟨span :: front, first, rest, ?_, List.forall_mem_cons.mpr ⟨blank, blanks⟩, shown, trimmed⟩
      rw [split, List.cons_append]
    · rw [if_neg blank]
      exact ⟨[], span, spans, rfl, List.forall_mem_nil _, Bool.eq_false_iff.mpr blank, rfl⟩

private theorem blank_of_trimEndSpans (none : trimEndSpans spans = []) : ∀ span ∈ spans, Text.allBlank span.text = true := by
  induction spans with
  | nil => exact List.forall_mem_nil _
  | cons span spans ih =>
    rw [trimEndSpans_cons] at none
    split at none
    next others =>
      split at none
      next blank => exact List.forall_mem_cons.mpr ⟨blank, ih others⟩
      next => cases none
    next => cases none

private theorem trimEndSpans_split (some : trimEndSpans spans ≠ []) : ∃ front last back, spans = front ++ last :: back ∧
    (∀ span ∈ back, Text.allBlank span.text = true) ∧ Text.allBlank last.text = false ∧
    trimEndSpans spans = front ++ [last.trimEnd] := by
  induction spans with
  | nil => exact absurd rfl some
  | cons span spans ih =>
    rw [trimEndSpans_cons] at some ⊢
    by_cases none : trimEndSpans spans = []
    · rw [if_pos none] at some ⊢
      by_cases blank : Text.allBlank span.text = true
      · rw [if_pos blank] at some
        exact absurd rfl some
      · rw [if_neg blank]
        exact ⟨[], span, spans, rfl, blank_of_trimEndSpans none, Bool.eq_false_iff.mpr blank, rfl⟩
    · rw [if_neg none]
      obtain ⟨front, last, back, split, blanks, shown, trimmed⟩ := ih none
      refine ⟨span :: front, last, back, ?_, blanks, shown, ?_⟩
      · rw [split, List.cons_append]
      · rw [trimmed, List.cons_append]

private theorem trimSpans_ends (some : trimSpans spans ≠ []) : ∃ front core back, spans = front ++ core ++ back ∧
    (∀ span ∈ front ++ back, Text.allBlank span.text = true) ∧
    trimSpans spans = (core.modifyHead Span.trimStart).modifyLast Span.trimEnd := by
  have started : trimStartSpans spans ≠ [] := by
    intro none
    rw [trimSpans, none] at some
    exact some rfl
  obtain ⟨front, first, rest, split, blanks, -, opened⟩ := trimStartSpans_split started
  obtain ⟨inner, last, back, splitRest, moreBlanks, -, closed⟩ := trimEndSpans_split some
  rw [opened] at splitRest
  rw [trimSpans, closed]
  cases inner with
  | nil =>
    obtain ⟨rfl, rfl⟩ := List.cons.inj splitRest
    refine ⟨front, [first], rest, ?_, List.forall_mem_append.mpr ⟨blanks, moreBlanks⟩, ?_⟩
    · rw [split, List.append_assoc, List.singleton_append]
    · exact (List.modifyLast_concat _ _ []).symm
  | cons second inner =>
    obtain ⟨rfl, rfl⟩ := List.cons.inj splitRest
    refine ⟨front, first :: inner ++ [last], back, ?_, List.forall_mem_append.mpr ⟨blanks, moreBlanks⟩, ?_⟩
    · rw [split]
      simp
    · exact (List.modifyLast_concat _ _ (first.trimStart :: inner)).symm

private theorem filled_trimStartSpans (filled : ∀ span ∈ spans, span.text ≠ "") : ∀ span ∈ trimStartSpans spans, span.text ≠ "" := by
  by_cases none : trimStartSpans spans = []
  · rw [none]
    exact List.forall_mem_nil _
  · obtain ⟨front, first, rest, split, -, shown, trimmed⟩ := trimStartSpans_split none
    rw [trimmed]
    rw [split] at filled
    obtain ⟨-, behind⟩ := List.forall_mem_append.mp filled
    obtain ⟨-, others⟩ := List.forall_mem_cons.mp behind
    have kept := mt (trimStart_eq_nil first.text).mp (Bool.eq_false_iff.mp shown)
    exact List.forall_mem_cons.mpr ⟨mt String.toList_eq_nil_iff.mpr kept, others⟩

private theorem filled_trimEndSpans (filled : ∀ span ∈ spans, span.text ≠ "") : ∀ span ∈ trimEndSpans spans, span.text ≠ "" := by
  by_cases none : trimEndSpans spans = []
  · rw [none]
    exact List.forall_mem_nil _
  · obtain ⟨front, last, back, split, -, shown, trimmed⟩ := trimEndSpans_split none
    rw [trimmed]
    rw [split] at filled
    obtain ⟨others, -⟩ := List.forall_mem_append.mp filled
    have kept := mt (trimEnd_eq_nil last.text).mp (Bool.eq_false_iff.mp shown)
    exact List.forall_mem_append.mpr ⟨others, List.forall_mem_singleton.mpr (mt String.toList_eq_nil_iff.mpr kept)⟩

private theorem trims_trimSpans (filled : ∀ span ∈ spans, span.text ≠ "") (some : trimSpans spans ≠ []) : Trims spans (trimSpans spans) where
  text := spansText_trimSpans spans
  chars := styledChars_trimSpans spans
  ends := trimSpans_ends some
  filled := filled_trimEndSpans (filled_trimStartSpans filled)

private theorem spansApart_iff (spans : List Span) : SpansApart spans ↔ (spans.map Span.style).IsChain (· ≠ ·) :=
  (List.isChain_map Span.style).symm

private theorem map_style_trimmed (spans : List Span) :
    ((spans.modifyHead Span.trimStart).modifyLast Span.trimEnd).map Span.style = spans.map Span.style := by
  have started : (spans.modifyHead Span.trimStart).map Span.style = spans.map Span.style := by
    cases spans <;> rfl
  rw [← started]
  rcases List.eq_nil_or_concat' (spans.modifyHead Span.trimStart) with none | ⟨front, last, split⟩
  · rw [none]
    rfl
  · rw [split, List.modifyLast_concat]
    simp [Span.trimEnd]

theorem Trims.apart {segment : List Span} (trims : Trims segment spans) (apart : SpansApart segment) : SpansApart spans := by
  obtain ⟨front, core, back, split, -, trimmed⟩ := trims.ends
  rw [spansApart_iff, trimmed, map_style_trimmed, ← spansApart_iff]
  exact List.IsChain.infix apart ⟨front, back, split.symm⟩

end Ends

section Segments

theorem segmentElement_shows {segment : List Span} (filled : ∀ span ∈ segment, span.text ≠ "") :
    SegmentShows segment (segmentElement segment) := by
  unfold segmentElement
  split
  next none => exact .blank ((trimSpans_eq_nil segment).mp none)
  next some =>
    have shown := mt (trimSpans_eq_nil segment).mpr some
    exact .filled (Bool.eq_false_iff.mpr shown) (trims_trimSpans filled some)

theorem splitAtImages_spans (front segment : List Span) (pieces : List Piece) :
    splitAtImages front (segment.map .span ++ pieces) = splitAtImages (front ++ segment) pieces := by
  induction segment generalizing front with
  | nil => rw [List.append_nil]; rfl
  | cons span segment ih =>
    rw [List.map_cons, List.cons_append, splitAtImages, ih, List.append_assoc, List.singleton_append]

theorem splitAtImages_shows (segment : List Span) {pieces : List Piece}
    (filled : ∀ span, .span span ∈ segment.map .span ++ pieces → span.text ≠ "") :
    ParagraphShows (segment.map .span ++ pieces) (splitAtImages segment pieces) := by
  have own : ∀ span ∈ segment, span.text ≠ "" := by
    intro span among
    exact filled span (List.mem_append_left _ (List.mem_map_of_mem among))
  induction pieces generalizing segment with
  | nil =>
    rw [List.append_nil, splitAtImages]
    exact .last (segmentElement_shows own)
  | cons piece pieces ih =>
    cases piece with
    | span next =>
      have joined : segment.map .span ++ .span next :: pieces = (segment ++ [next]).map .span ++ pieces := by simp
      rw [joined] at filled ⊢
      apply ih (segment ++ [next]) filled
      intro span among
      exact filled span (List.mem_append_left _ (List.mem_map_of_mem among))
    | image source isRemote alt =>
      have later := ih [] (fun span among => filled span (List.mem_append_right _ (List.mem_cons_of_mem _ among))) (List.forall_mem_nil _)
      exact .image (segmentElement_shows own) later

/-- A paragraph of pieces that have text shows its images in order, and between them what the segments have besides blanks at
their ends. -/
theorem paragraphElements_shows {pieces : List Piece} (filled : ∀ span, .span span ∈ pieces → span.text ≠ "") :
    ParagraphShows pieces (paragraphElements pieces) :=
  splitAtImages_shows [] filled

/-- Blank spans at both ends of a segment and within it, a segment that is blank, and an image behind which nothing stands. -/
theorem paragraphElements_shows_blankEnds :
    let pieces := [.span ⟨" ", { bold := true }⟩, .span ⟨"\u00a0a ", .plain⟩, .span ⟨"\t", { code := true }⟩,
      .span ⟨"b\u2003", { link := some "u" }⟩, .image "x" false "", .span ⟨" \n", .plain⟩, .image "y" true "z"]
    (∀ span, .span span ∈ pieces → span.text ≠ "") ∧ ParagraphShows pieces (paragraphElements pieces) ∧
      paragraphElements pieces = [.paragraph [⟨"a ", .plain⟩, ⟨"\t", { code := true }⟩, ⟨"b", { link := some "u" }⟩],
        .image "x" false "", .image "y" true "z"] := by
  intro pieces
  have filled : ∀ span, .span span ∈ pieces → span.text ≠ "" := by
    intro span among
    simp only [pieces, List.mem_cons, Piece.span.injEq, reduceCtorEq, List.not_mem_nil, or_false, false_or] at among
    rcases among with rfl | rfl | rfl | rfl | rfl <;> decide
  refine ⟨filled, paragraphElements_shows filled, ?_⟩
  decide

end Segments

end DocScribe.Markdown
