import DocScribe.Proofs.Docs.Meaning

/-! Compiling elements writes what they mean. Every element adds its parts at the end of the draft; the
positions that are noted on the way are those where the parts stand in the whole text. -/

namespace DocScribe.Docs
open DocScribe Markdown

/-- A draft goes on with a text, styles, tables and images. -/
structure Draft.Grows (before after : Draft) (chars : List Char) (ranges : List StyledRange)
    (grids : List DeferredTable) (pictures : List DeferredImage) : Prop where
  text : (String.join after.text).toList = (String.join before.text).toList ++ chars
  offset : after.offset = before.offset + Text.listUnits chars
  styles : after.styles = before.styles ++ ranges
  tables : after.tables = before.tables ++ grids
  images : after.images = before.images ++ pictures
  tag : after.tag = before.tag

namespace Draft

theorem Grows.refl (draft : Draft) : Grows draft draft [] [] [] [] := by
  constructor <;> simp

theorem Grows.trans {before middle after : Draft} {chars more : List Char} {ranges moreRanges : List StyledRange}
    {grids moreGrids : List DeferredTable} {pictures morePictures : List DeferredImage}
    (first : Grows before middle chars ranges grids pictures)
    (last : Grows middle after more moreRanges moreGrids morePictures) :
    Grows before after (chars ++ more) (ranges ++ moreRanges) (grids ++ moreGrids) (pictures ++ morePictures) where
  text := by rw [last.text, first.text, List.append_assoc]
  offset := by rw [last.offset, first.offset]; simp [Int.add_assoc]
  styles := by rw [last.styles, first.styles, List.append_assoc]
  tables := by rw [last.tables, first.tables, List.append_assoc]
  images := by rw [last.images, first.images, List.append_assoc]
  tag := last.tag.trans first.tag

theorem emit_grows (text : String) (draft : Draft) : Grows draft (draft.emit text) text.toList [] [] [] := by
  constructor <;> simp [emit, Text.units]

private theorem emitSpan_grows (draft : Draft) (span : Span) :
    Grows draft (draft.emitSpan span) span.text.toList (rangeOf? (draft.offset, .text span.text.toList span.style)).toList
      [] [] := by
  unfold emitSpan
  by_cases empty : span.text = ""
  · rw [if_pos (by simpa using empty)]
    simpa [empty, rangeOf?] using Grows.refl draft
  · have some : span.text.toList ≠ [] := by simpa using empty
    rw [if_neg (by simpa using empty)]
    have written := emit_grows span.text draft
    cases styled : span.style.isStyled with
    | false =>
      have plain : span.style = .plain := Decidable.not_not.mp (mt Style.isStyled_iff.mpr (Bool.eq_false_iff.mp styled))
      simpa [rangeOf?, plain] using written
    | true =>
      have range : rangeOf? (draft.offset, .text span.text.toList span.style) =
          Option.some ⟨draft.offset, (draft.emit span.text).offset, .exactly span.style, false⟩ := by
        simp [rangeOf?, Style.isStyled_iff.mp styled, some, written.offset]
      rw [range, ← StyleChange.ofStyle_eq]
      exact ⟨written.text, written.offset, by simp [style, emit], written.tables, written.images, written.tag⟩

private theorem emitSpans_grows (spans : List Span) (draft : Draft) :
    Grows draft (draft.emitSpans spans) (spansText spans).toList
      ((placed draft.tag draft.offset (spanParts spans)).filterMap rangeOf?) [] [] := by
  induction spans generalizing draft with
  | nil => exact Grows.refl draft
  | cons span spans ih =>
    have first := emitSpan_grows draft span
    have both := first.trans (ih (draft.emitSpan span))
    rw [first.offset, first.tag] at both
    have text : (spansText (span :: spans)).toList = span.text.toList ++ (spansText spans).toList := by
      simp [toList_spansText]
    have ranges : (placed draft.tag draft.offset (spanParts (span :: spans))).filterMap rangeOf? =
        (rangeOf? (draft.offset, .text span.text.toList span.style)).toList ++
          (placed draft.tag (draft.offset + Text.listUnits span.text.toList) (spanParts spans)).filterMap rangeOf? := by
      simp only [spanParts, List.map_cons, placed, List.filterMap_cons, Part.units, Part.chars]
      cases rangeOf? (draft.offset, .text span.text.toList span.style) <;> rfl
    rw [text, ranges]
    exact both

theorem line_grows (spans : List Span) (draft : Draft) :
    Grows draft ((draft.emitSpans spans).emit "\n") (payload draft.tag (spanParts spans ++ [lineEnd]))
      ((placed draft.tag draft.offset (spanParts spans ++ [lineEnd])).filterMap rangeOf?) [] [] := by
  have whole := (emitSpans_grows spans draft).trans (emit_grows "\n" _)
  have unstyled (start : Int) : (placed draft.tag start [lineEnd]).filterMap rangeOf? = [] := rfl
  rw [placed_append, List.filterMap_append, unstyled, payload_append, payload_spanParts]
  exact whole

private theorem insertIdx_behind (front back : List α) (item : α) : (front ++ back).insertIdx front.length item = front ++ item :: back := by
  induction front with
  | nil => rfl
  | cons first front ih => simp [ih]

private theorem heading_grows (level : Int) (spans : List Span) (draft : Draft) :
    Grows draft (draft.heading level spans) (payload draft.tag (spanParts spans ++ [lineEnd]))
      (paragraphRanges draft.offset (.heading level spans) ++
        (placed draft.tag draft.offset (spanParts spans ++ [lineEnd])).filterMap rangeOf?) [] [] := by
  have written := emitSpans_grows spans draft
  have stop : (draft.emitSpans spans).offset = draft.offset + Text.units (spansText spans) := written.offset
  by_cases none : spansText spans = ""
  · have same : draft.heading level spans = (draft.emitSpans spans).emit "\n" := by
      rw [heading, if_neg]
      simp [stop, Text.units_eq_zero.mpr none]
    rw [same]
    simpa [paragraphRanges, none] using line_grows spans draft
  · have longer : draft.offset < (draft.emitSpans spans).offset := by
      have := Text.units_pos.mpr none
      omega
    -- the slot that the heading takes is where the styles of its spans begin
    let styles := (draft.emitSpans spans).styles.insertIdx draft.styles.length
      ⟨draft.offset, (draft.emitSpans spans).offset, .ofHeading level, true⟩
    have styled : Grows draft { draft.emitSpans spans with styles } (spansText spans).toList
        (paragraphRanges draft.offset (.heading level spans) ++
          (placed draft.tag draft.offset (spanParts spans)).filterMap rangeOf?) [] [] := by
      refine ⟨written.text, written.offset, ?_, written.tables, written.images, written.tag⟩
      change (draft.emitSpans spans).styles.insertIdx _ _ = _
      rw [written.styles, insertIdx_behind, stop, StyleChange.ofHeading_eq]
      simp [paragraphRanges, none]
    have whole := styled.trans (emit_grows "\n" _)
    have unstyled (start : Int) : (placed draft.tag start [lineEnd]).filterMap rangeOf? = [] := rfl
    rw [heading, if_pos longer, placed_append, List.filterMap_append, unstyled, payload_append, payload_spanParts,
      ← List.append_assoc]
    exact whole

private theorem codeBlock_grows (earlier : List Element) (text : String) (draft : Draft) :
    Grows draft (draft.codeBlock text) (payload draft.tag (partsOf earlier (.codeBlock text)))
      ((placed draft.tag draft.offset (partsOf earlier (.codeBlock text))).filterMap rangeOf?) [] [] := by
  let span : Span := ⟨.ofList (Text.trimEndBy (· == '\n') text.toList), { code := true }⟩
  have styled : span.style.isStyled = true := rfl
  have same : draft.codeBlock text = (draft.emitSpans [span]).emit "\n" := by
    simp only [codeBlock, emitSpans, List.foldl_cons, List.foldl_nil, emitSpan, styled, ↓reduceIte, span]
  have parts : partsOf earlier (.codeBlock text) = spanParts [span] ++ [lineEnd] := by
    simp [partsOf, spanParts, span]
  rw [same, parts]
  exact line_grows [span] draft

private theorem rule_grows (draft : Draft) :
    Grows draft draft.rule ['\n'] [⟨draft.offset, draft.offset + 1, .ruleBelow, true⟩] [] [] := by
  have written := emit_grows "\n" draft
  exact ⟨written.text, written.offset, rfl, written.tables, written.images, written.tag⟩

private theorem table_grows (earlier : List Element) (rows : Grid) (draft : Draft) :
    Grows draft (draft.table rows) (payload draft.tag (partsOf earlier (.table rows))) []
      ((placed draft.tag draft.offset (partsOf earlier (.table rows))).filterMap tableOf?) [] := by
  have warned (warning : String) : Grows draft (draft.warn warning) [] [] [] [] := by
    constructor <;> simp [warn]
  by_cases empty : TableInsertion.width rows = 0
  · have none : partsOf earlier (.table rows) = [] := by
      simp only [partsOf]
      rw [if_pos ((width_eq_zero rows).mp empty)]
    have same : draft.table rows = draft.warn s!"Table #{draft.tables.length + 1} has no cells; skipped" := by
      simp only [table]
      rw [if_pos (by simpa [TableInsertion.width] using empty)]
    rw [none, same]
    exact warned _
  · have one : partsOf earlier (.table rows) = [.table (padded rows)] := by
      simp only [partsOf]
      rw [if_neg (mt (width_eq_zero rows).mpr empty)]
    rw [one]
    simp only [table]
    rw [if_neg (by simpa [TableInsertion.width] using empty)]
    have anchored (same : Draft) (equal : Grows draft same [] [] [] []) :
        Grows draft
          { same.emit (String.singleton tableAnchor) with tables := same.tables ++ [⟨same.offset, padded rows⟩] }
          (payload draft.tag [.table (padded rows)]) []
          ((placed draft.tag draft.offset [.table (padded rows)]).filterMap tableOf?) [] := by
      have written := equal.trans (emit_grows (String.singleton tableAnchor) same)
      constructor
      · simpa [Part.chars] using written.text
      · simpa [Part.chars] using written.offset
      · simpa using written.styles
      · simp [equal.tables, equal.offset]
      · simpa using written.images
      · simpa using written.tag
    split
    · exact anchored draft (Grows.refl draft)
    · exact anchored _ (warned _)

private theorem image_grows (earlier : List Element) (source : String) (isRemote : Bool) (alt : String) (draft : Draft)
    (counted : draft.images.length = imagesIn earlier) :
    Grows draft (draft.image source isRemote alt)
      (payload draft.tag (partsOf earlier (.image source isRemote alt))) [] []
      ((placed draft.tag draft.offset (partsOf earlier (.image source isRemote alt))).filterMap (imageOf? draft.tag)) := by
  have written := (emit_grows (imageMarker draft.images.length draft.tag) draft).trans (emit_grows "\n" _)
  constructor
  · simpa [partsOf, Part.chars, lineEnd, counted, image] using written.text
  · simpa [partsOf, Part.chars, lineEnd, counted, image] using written.offset
  · simpa [image] using written.styles
  · simpa [image] using written.tables
  · simp [partsOf, placed, imageOf?, image, counted, lineEnd]
  · exact written.tag

def itemCounters (ordered : Bool) (depth : Nat) (counters : Counters) : Counters :=
  if ordered then (counters.upTo depth).set depth ((counters.upTo depth).next depth)
  else (counters.upTo depth).clear depth

private theorem item_eq {earlier : List Element} {draft : Draft} (numbered : Numbered earlier draft.counters)
    (ordered : Bool) (depth : Int) (spans : List Span) :
    draft.item ordered depth spans =
      (({ draft with counters := itemCounters ordered depth.toNat draft.counters }.emit
        (.ofList (itemMark earlier ordered depth))).emitSpans spans).emit "\n" := by
  have number : (draft.counters.upTo depth.toNat).next depth.toNat = itemsBefore depth.toNat earlier + 1 := by
    rw [Counters.next_upTo, if_pos (Nat.le_refl _), numbered]
  cases ordered with
  | true =>
    have mark : String.ofList (List.replicate depth.toNat '\t') ++ s!"{itemsBefore depth.toNat earlier + 1}. " =
        .ofList (itemMark earlier true depth) := by
      apply String.toList_injective
      simp [itemMark, toString]
    simp only [item, ↓reduceIte, number, itemCounters, ← mark]
  | false =>
    have mark : String.ofList (List.replicate depth.toNat '\t') ++ "• " = .ofList (itemMark earlier false depth) := by
      apply String.toList_injective
      simp [itemMark]
    simp only [item, Bool.false_eq_true, ↓reduceIte, itemCounters, ← mark]

theorem item_grows {earlier : List Element} {draft : Draft} (numbered : Numbered earlier draft.counters)
    (ordered : Bool) (depth : Int) (spans : List Span) :
    Grows draft (draft.item ordered depth spans)
      (payload draft.tag (partsOf earlier (.listItem ordered depth spans)))
      ((placed draft.tag draft.offset (partsOf earlier (.listItem ordered depth spans))).filterMap rangeOf?) [] [] := by
  rw [item_eq numbered]
  have marked := emit_grows (.ofList (itemMark earlier ordered depth))
    { draft with counters := itemCounters ordered depth.toNat draft.counters }
  have whole := marked.trans (line_grows spans _)
  rw [marked.offset, marked.tag] at whole
  constructor
  · simpa [partsOf, Part.chars] using whole.text
  · simpa [partsOf, Part.chars] using whole.offset
  · simpa [partsOf, Part.units, Part.chars, List.filterMap_cons] using whole.styles
  · exact whole.tables
  · exact whole.images
  · exact whole.tag

private theorem emitSpan_frame (draft : Draft) (span : Span) :
    ∃ offset text styles, draft.emitSpan span = { draft with offset, text, styles } := by
  unfold emitSpan
  split
  · exact ⟨_, _, _, rfl⟩
  · split
    · exact ⟨_, _, _, rfl⟩
    · exact ⟨_, _, _, rfl⟩

/-- Spans change nothing but the text and its styles. -/
theorem emitSpans_frame (spans : List Span) (draft : Draft) :
    ∃ offset text styles, draft.emitSpans spans = { draft with offset, text, styles } := by
  induction spans generalizing draft with
  | nil => exact ⟨_, _, _, rfl⟩
  | cons span spans ih =>
    obtain ⟨offset, text, styles, first⟩ := emitSpan_frame draft span
    obtain ⟨lastOffset, lastText, lastStyles, rest⟩ := ih (draft.emitSpan span)
    refine ⟨lastOffset, lastText, lastStyles, ?_⟩
    rw [first] at rest
    rw [emitSpans, List.foldl_cons, first]
    exact rest

@[simp] theorem counters_emit (text : String) (draft : Draft) : (draft.emit text).counters = draft.counters := rfl

@[simp] theorem counters_emitSpans (spans : List Span) (draft : Draft) :
    (draft.emitSpans spans).counters = draft.counters := by
  obtain ⟨_, _, _, same⟩ := emitSpans_frame spans draft
  rw [same]

@[simp] theorem warnings_emit (text : String) (draft : Draft) : (draft.emit text).warnings = draft.warnings := rfl

@[simp] theorem warnings_emitSpans (spans : List Span) (draft : Draft) :
    (draft.emitSpans spans).warnings = draft.warnings := by
  obtain ⟨_, _, _, same⟩ := emitSpans_frame spans draft
  rw [same]

theorem element_numbered {earlier : List Element} {draft : Draft} (numbered : Numbered earlier draft.counters)
    (element : Element) : Numbered (element :: earlier) (draft.element element).counters := by
  cases element with
  | listItem ordered depth spans =>
    simp only [Draft.element, item_eq numbered, counters_emit, counters_emitSpans]
    cases ordered with
    | true => exact numbered.ordered depth spans
    | false => exact numbered.bullet depth spans
  | heading level spans =>
    have same : (draft.element (.heading level spans)).counters = [] := by
      simp only [Draft.element, heading, counters_emit]
      split <;> exact counters_emitSpans spans _
    rw [same]
    exact .other (by simp)
  | paragraph spans =>
    simp only [Draft.element, counters_emit, counters_emitSpans]
    exact .other (by simp)
  | codeBlock text =>
    have same : (draft.element (.codeBlock text)).counters = [] := by
      simp only [Draft.element, codeBlock, counters_emit]
      split <;> rfl
    rw [same]
    exact .other (by simp)
  | table rows =>
    have same : (draft.element (.table rows)).counters = [] := by
      simp only [Draft.element, table]
      split
      · rfl
      · split <;> rfl
    rw [same]
    exact .other (by simp)
  | image source isRemote alt => exact .other (by simp)
  | rule => exact .other (by simp)
  | unknown => exact .other (by simp)

/-- An element adds its parts to the draft. -/
theorem element_grows {earlier : List Element} {draft : Draft} (numbered : Numbered earlier draft.counters)
    (counted : draft.images.length = imagesIn earlier) (element : Element) :
    Grows draft (draft.element element) (payload draft.tag (partsOf earlier element))
      (elementRanges draft.tag earlier draft.offset element)
      ((placed draft.tag draft.offset (partsOf earlier element)).filterMap tableOf?)
      ((placed draft.tag draft.offset (partsOf earlier element)).filterMap (imageOf? draft.tag)) := by
  have reset : Grows draft { draft with counters := [] } [] [] [] [] := by
    constructor <;> simp
  -- most elements are lines of text, which hold neither tables nor images
  have line (texts : (partsOf earlier element).all Part.isText = true) (after : Draft) (ranges : List StyledRange)
      (grows : Grows draft after (payload draft.tag (partsOf earlier element)) ranges [] []) :
      Grows draft after (payload draft.tag (partsOf earlier element)) ranges
        ((placed draft.tag draft.offset (partsOf earlier element)).filterMap tableOf?)
        ((placed draft.tag draft.offset (partsOf earlier element)).filterMap (imageOf? draft.tag)) := by
    rw [tables_of_texts _ texts, images_of_texts _ texts]
    exact grows
  cases element with
  | listItem ordered depth spans =>
    exact line (isText_partsOf earlier rfl) _ _ (item_grows numbered ordered depth spans)
  | heading level spans =>
    exact line (isText_partsOf earlier rfl) _ _ (reset.trans (heading_grows level spans { draft with counters := [] }))
  | paragraph spans =>
    exact line (isText_partsOf earlier rfl) _ _ (reset.trans (line_grows spans { draft with counters := [] }))
  | codeBlock text =>
    exact line (isText_partsOf earlier rfl) _ _ (reset.trans (codeBlock_grows earlier text { draft with counters := [] }))
  | rule => exact line (isText_partsOf earlier rfl) _ _ (reset.trans (rule_grows { draft with counters := [] }))
  | table rows =>
    have written := reset.trans (table_grows earlier rows { draft with counters := [] })
    by_cases empty : rows.all List.isEmpty = true
    · simpa [partsOf, empty, elementRanges, paragraphRanges, Draft.element] using written
    · simpa [partsOf, empty, elementRanges, paragraphRanges, List.filterMap_cons, Draft.element] using written
  | image source isRemote alt =>
    have written := reset.trans (image_grows earlier source isRemote alt { draft with counters := [] } counted)
    simpa [partsOf, elementRanges, paragraphRanges, List.filterMap_cons, Draft.element] using written
  | unknown => simpa [partsOf, elementRanges, paragraphRanges, Draft.element] using reset

theorem element_counted {earlier : List Element} {draft : Draft} (numbered : Numbered earlier draft.counters)
    (counted : draft.images.length = imagesIn earlier) (element : Element) :
    (draft.element element).images.length = imagesIn (element :: earlier) := by
  rw [(element_grows numbered counted element).images, List.length_append, counted]
  cases element with
  | image source isRemote alt => simp [imagesIn, partsOf, List.filterMap_cons]
  | table rows => by_cases empty : rows.all List.isEmpty = true <;> simp [imagesIn, partsOf, empty, List.filterMap_cons]
  | _ =>
    rw [images_of_texts draft.tag (isText_partsOf earlier rfl)]
    rfl

theorem elements_follow {earlier : List Element} {draft : Draft} (numbered : Numbered earlier draft.counters)
    (counted : draft.images.length = imagesIn earlier) (elements : List Element) :
    Numbered (elements.reverse ++ earlier) (elements.foldl Draft.element draft).counters ∧
      (elements.foldl Draft.element draft).images.length = imagesIn (elements.reverse ++ earlier) := by
  induction elements generalizing earlier draft with
  | nil => exact ⟨numbered, counted⟩
  | cons element elements ih =>
    rw [List.reverse_cons, List.append_assoc]
    exact ih (element_numbered numbered element) (element_counted numbered counted element)

theorem elements_grow {earlier : List Element} {draft : Draft} (numbered : Numbered earlier draft.counters)
    (counted : draft.images.length = imagesIn earlier) (elements : List Element) :
    Grows draft (elements.foldl Draft.element draft) (payload draft.tag (partsFrom earlier elements))
      (alongElements draft.tag (elementRanges draft.tag) earlier draft.offset elements)
      ((placed draft.tag draft.offset (partsFrom earlier elements)).filterMap tableOf?)
      ((placed draft.tag draft.offset (partsFrom earlier elements)).filterMap (imageOf? draft.tag)) := by
  induction elements generalizing earlier draft with
  | nil => exact Grows.refl draft
  | cons element elements ih =>
    have first := element_grows numbered counted element
    have rest := ih (element_numbered numbered element) (element_counted numbered counted element)
    rw [first.offset, first.tag] at rest
    simpa [partsFrom, alongElements, List.filterMap_append] using first.trans rest

end Draft

/-- What elements mean. -/
def parts (elements : List Element) : List Part := partsFrom [] elements

section Compile
variable (elements : List Element) (base : Int)

private theorem compile_grows :
    Draft.Grows { offset := base, tag := (compile elements base).tag }
      (elements.foldl Draft.element { offset := base, tag := (compile elements base).tag })
      (payload (compile elements base).tag (parts elements))
      (alongElements (compile elements base).tag (elementRanges (compile elements base).tag) [] base elements)
      ((placed (compile elements base).tag base (parts elements)).filterMap tableOf?)
      ((placed (compile elements base).tag base (parts elements)).filterMap (imageOf? (compile elements base).tag)) := by
  let draft : Draft := { offset := base, tag := (compile elements base).tag }
  have numbered : Numbered [] draft.counters := Numbered.start
  exact Draft.elements_grow numbered rfl elements

theorem compile_text : (compile elements base).text.toList = payload (compile elements base).tag (parts elements) :=
  (compile_grows elements base).text

theorem compile_endOffset : (compile elements base).endOffset =
    base + Text.listUnits (payload (compile elements base).tag (parts elements)) := by
  rw [Compiled.endOffset, Text.units, compile_text]
  rfl

theorem compile_styles : (compile elements base).styles =
    alongElements (compile elements base).tag (elementRanges (compile elements base).tag) [] base elements :=
  (compile_grows elements base).styles

theorem compile_tables : (compile elements base).tables =
    (placed (compile elements base).tag base (parts elements)).filterMap tableOf? :=
  (compile_grows elements base).tables

theorem compile_images : (compile elements base).images =
    (placed (compile elements base).tag base (parts elements)).filterMap (imageOf? (compile elements base).tag) :=
  (compile_grows elements base).images

end Compile
end DocScribe.Docs
