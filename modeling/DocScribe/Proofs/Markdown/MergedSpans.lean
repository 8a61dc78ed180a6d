import DocScribe.Markdown.Reading
import DocScribe.Proofs.Markdown.FaithfulSpans
import DocScribe.Proofs.Markdown.ParagraphSegments
import DocScribe.Proofs.Markdown.TreeReading

/-! Neighbouring spans of one style are merged where content is read, and stay so where a paragraph is split and trimmed.
Where an image becomes its description afterwards, spans of one style may come to stand side by side. -/

namespace DocScribe.Markdown
open DocScribe

/-- The sequences of spans that an element holds. -/
def Element.spanRuns : Element → List (List Span)
  | .heading _ spans => [spans]
  | .paragraph spans => [spans]
  | .listItem _ _ spans => [spans]
  | .table rows => rows.flatten
  | .image .. => []
  | .rule => []
  | .codeBlock _ => []
  | .unknown => []

def Piece.isImage : Piece → Bool
  | .image .. => true
  | .span _ => false

/-- An image joins two spans of one style: its description is one of them, or it has none and stands between them. -/
def MeetAtImage (pieces : List Piece) : Prop :=
  ∃ front first between second back, pieces = front ++ first :: (between ++ second :: back) ∧
    (∃ piece ∈ first :: (between ++ [second]), piece.isImage = true) ∧ (∀ piece ∈ between, piece.inText = none) ∧
    ∃ one other, first.inText = some one ∧ second.inText = some other ∧ one.style = other.style

mutual

/-- The contents of a block in which images cannot stand: those of headings and cells, and the texts of items. `turn` says
that the next paragraph is the text of an item. -/
def Block.imageless (turn : Bool) : Block (List Inline) → List (List Inline)
  | .paragraph items => if turn then [items] else []
  | .heading _ items => [items]
  | .list _ items => imagelessItems items
  | .quote blocks => imagelessAll turn blocks
  | .table rows => rows.flatten
  | .code _ => []
  | .rule => []
  | .html _ => []

def Block.imagelessAll (turn : Bool) : List (Block (List Inline)) → List (List Inline)
  | [] => []
  | block :: blocks => block.imageless turn ++ imagelessAll (turn && !block.speaks) blocks

def Block.imagelessItems : List (List (Block (List Inline))) → List (List Inline)
  | [] => []
  | item :: items => imagelessAll true item ++ imagelessItems items

end

section Joined
variable {pieces part : List Piece}

private theorem not_isChain_iff {α : Type} {related : α → α → Prop} {items : List α} : ¬ items.IsChain related ↔
    ∃ front first second back, items = front ++ first :: second :: back ∧ ¬ related first second := by
  constructor
  · intro broken
    obtain ⟨place, inside, unrelated⟩ := List.exists_not_getElem_of_not_isChain broken
    refine ⟨items.take place, items[place], items[place + 1], items.drop (place + 2), ?_, unrelated⟩
    rw [← List.drop_eq_getElem_cons, ← List.drop_eq_getElem_cons, List.take_append_drop]
  · rintro ⟨front, first, second, back, rfl, unrelated⟩ chain
    exact unrelated (List.isChain_cons_cons.mp chain.right_of_append).1

theorem Piece.Merged.spansOnly_filled (merged : Merged pieces) : SpansFilled (spansOnly pieces) := by
  intro span among
  rw [spansOnly_eq] at among
  obtain ⟨piece, member, same⟩ := List.mem_filterMap.mp among
  cases piece with
  | span own =>
    obtain rfl := Option.some.inj same
    exact merged.filled own member
  | image source isRemote alt =>
    rw [Piece.inText] at same
    split at same
    · cases same
    next described =>
      obtain rfl := Option.some.inj same
      simpa using described

/-- Spans that were side by side before are apart, so only an image can have brought two of one style together. -/
theorem Piece.Merged.spansOnly_apart_iff (merged : Merged pieces) : SpansApart (spansOnly pieces) ↔ ¬ MeetAtImage pieces := by
  rw [SpansApart, spansOnly_eq, ← not_iff_not, not_not, not_isChain_iff]
  constructor
  · rintro ⟨front, one, other, back, split, alike⟩
    obtain ⟨before, rest, rfl, -, restSplit⟩ := List.filterMap_eq_append_iff.mp split
    obtain ⟨skipped, first, behind, rfl, -, shown, behindSplit⟩ := List.filterMap_eq_cons_iff.mp restSplit
    obtain ⟨between, second, after, rfl, silent, shownToo, -⟩ := List.filterMap_eq_cons_iff.mp behindSplit
    refine ⟨before ++ skipped, first, between, second, after, by simp, ?_, silent, one, other, shown, shownToo, not_not.mp alike⟩
    by_contra noImage
    have spans {piece : Piece} (among : piece ∈ first :: (between ++ [second])) : ∃ run, piece = .span run := by
      cases piece with
      | span run => exact ⟨run, rfl⟩
      | image => exact absurd ⟨_, among, rfl⟩ noImage
    have adjacent : between = [] := by
      apply List.eq_nil_iff_forall_not_mem.mpr
      intro piece among
      obtain ⟨run, rfl⟩ := spans (List.mem_cons_of_mem _ (List.mem_append_left _ among))
      cases silent _ among
    obtain ⟨run, rfl⟩ := spans List.mem_cons_self
    obtain ⟨next, rfl⟩ := spans (List.mem_cons_of_mem _ (List.mem_append_right _ (List.mem_singleton_self second)))
    cases shown
    cases shownToo
    rw [adjacent] at merged
    have pair : [.span one, .span other] <:+: before ++ (skipped ++ .span one :: ([] ++ .span other :: after)) :=
      ⟨before ++ skipped, after, by simp⟩
    have own : Piece.StandsApart (.span one) (.span other) := List.isChain_pair.mp (merged.inside pair).apart
    exact alike own
  · rintro ⟨front, first, between, second, back, rfl, -, silent, one, other, shown, shownToo, alike⟩
    refine ⟨front.filterMap Piece.inText, one, other, back.filterMap Piece.inText, ?_, not_not.mpr alike⟩
    have skipped : between.filterMap Piece.inText = [] := List.filterMap_eq_nil_iff.mpr silent
    rw [List.filterMap_append, List.filterMap_cons_some shown, List.filterMap_append, skipped, List.nil_append,
      List.filterMap_cons_some shownToo]

end Joined

section Paragraphs

theorem SegmentShows.merged {segment : List Span} {shown : List Element} (shows : SegmentShows segment shown)
    (apart : SpansApart segment) : ∀ spans ∈ shown.flatMap Element.spanRuns, SpansFilled spans ∧ SpansApart spans := by
  cases shows with
  | blank => exact List.forall_mem_nil _
  | @filled spans text trims =>
    rw [List.flatMap_singleton, Element.spanRuns, List.forall_mem_singleton]
    exact ⟨trims.filled, trims.apart apart⟩

theorem ParagraphShows.merged {pieces : List Piece} {elements : List Element} (shows : ParagraphShows pieces elements)
    (merged : Piece.Merged pieces) : ∀ spans ∈ elements.flatMap Element.spanRuns, SpansFilled spans ∧ SpansApart spans := by
  have apart {segment : List Span} (own : Piece.Merged (segment.map .span)) : SpansApart segment :=
    (List.isChain_map Piece.span).mp own.apart
  induction shows with
  | last own => exact own.merged (apart merged)
  | @image segment shown source isRemote alt pieces elements own _ ih =>
    have before : segment.map .span <:+: segment.map .span ++ .image source isRemote alt :: pieces := (List.prefix_append ..).isInfix
    have behind : pieces <:+: segment.map .span ++ .image source isRemote alt :: pieces :=
      ((List.suffix_cons ..).trans (List.suffix_append ..)).isInfix
    rw [List.flatMap_append, List.forall_mem_append]
    exact ⟨own.merged (apart (merged.inside before)), ih (merged.inside behind)⟩

private theorem readParagraph_merged (items : List Inline) :
    ∀ spans ∈ (paragraphElements (Piece.ofInline items)).flatMap Element.spanRuns, SpansFilled spans ∧ SpansApart spans := by
  have merged := Piece.ofInlineFrom_merged {} items
  exact (splitAtImages_shows [] merged.filled).merged merged

private theorem htmlElement_merged (source : String) :
    ∀ spans ∈ (Walk.htmlElement source).flatMap Element.spanRuns, SpansFilled spans ∧ SpansApart spans := by
  unfold Walk.htmlElement
  split
  next => exact List.forall_mem_nil _
  next text =>
    rw [List.flatMap_singleton, Element.spanRuns, List.forall_mem_singleton]
    refine ⟨List.forall_mem_singleton.mpr ?_, .singleton _⟩
    simpa using text

end Paragraphs

section Tree

private theorem spanRuns_readTable (rows : List (List (List Inline))) :
    (readTable rows).flatMap Element.spanRuns = rows.flatten.map fun cell => spansOnly (Piece.ofInline cell) := by
  have flat : ((rows.filter (· ≠ [])).map (·.map fun cell => spansOnly (Piece.ofInline cell))).flatten =
      rows.flatten.map fun cell => spansOnly (Piece.ofInline cell) := by
    rw [← List.map_flatten, List.flatten_filter_ne_nil]
  rw [readTable, ← flat]
  split
  next none => rw [none]; rfl
  next => exact List.flatMap_singleton ..

variable {holds : List Span → Prop}

mutual

theorem readBlock_runs (merged : ∀ spans, SpansFilled spans → SpansApart spans → holds spans)
    (block : Block (List Inline)) (lists : Nat) (turn : Option Bool) :
    (∀ spans ∈ (readBlock lists turn block).flatMap Element.spanRuns, holds spans) ↔
      ∀ content ∈ block.imageless turn.isSome, holds (spansOnly (Piece.ofInline content)) := by
  cases block with
  | paragraph items =>
    cases turn with
    | none =>
      have own : ∀ spans ∈ (paragraphElements (Piece.ofInline items)).flatMap Element.spanRuns, holds spans := by
        intro spans among
        obtain ⟨filled, apart⟩ := readParagraph_merged items spans among
        exact merged spans filled apart
      simpa [readBlock, Block.imageless] using own
    | some ordered => simp [readBlock, Block.imageless, Element.spanRuns]
  | heading level items => simp [readBlock, Block.imageless, Element.spanRuns]
  | list ordered items =>
    rw [readBlock, Block.imageless]
    exact readItems_runs merged items lists ordered
  | quote blocks =>
    rw [readBlock, Block.imageless]
    exact readBlocks_runs merged blocks lists turn
  | table rows => rw [readBlock, Block.imageless, spanRuns_readTable, List.forall_mem_map]
  | code text => simp [readBlock, Block.imageless, Element.spanRuns]
  | rule => simp [readBlock, Block.imageless, Element.spanRuns]
  | html source =>
    have own : ∀ spans ∈ (Walk.htmlElement source).flatMap Element.spanRuns, holds spans := by
      intro spans among
      obtain ⟨filled, apart⟩ := htmlElement_merged source spans among
      exact merged spans filled apart
    simpa [readBlock, Block.imageless] using own
termination_by structural block

private theorem readBlocks_runs (merged : ∀ spans, SpansFilled spans → SpansApart spans → holds spans)
    (blocks : List (Block (List Inline))) (lists : Nat) (turn : Option Bool) :
    (∀ spans ∈ (readBlocks lists turn blocks).flatMap Element.spanRuns, holds spans) ↔
      ∀ content ∈ Block.imagelessAll turn.isSome blocks, holds (spansOnly (Piece.ofInline content)) := by
  cases blocks with
  | nil => simp [readBlocks, Block.imagelessAll]
  | cons block blocks =>
    have said : (if block.speaks then none else turn).isSome = (turn.isSome && !block.speaks) := by
      cases block.speaks <;> simp
    rw [readBlocks, Block.imagelessAll, List.flatMap_append, List.forall_mem_append, List.forall_mem_append,
      readBlock_runs merged block, readBlocks_runs merged blocks, said]
termination_by structural blocks

theorem readItems_runs (merged : ∀ spans, SpansFilled spans → SpansApart spans → holds spans)
    (items : List (List (Block (List Inline)))) (lists : Nat) (ordered : Bool) :
    (∀ spans ∈ (readItems lists ordered items).flatMap Element.spanRuns, holds spans) ↔
      ∀ content ∈ Block.imagelessItems items, holds (spansOnly (Piece.ofInline content)) := by
  cases items with
  | nil => simp [readItems, Block.imagelessItems]
  | cons item items =>
    rw [readItems, Block.imagelessItems, List.flatMap_append, List.forall_mem_append, List.forall_mem_append,
      readBlocks_runs merged item, readItems_runs merged items]
    rfl
termination_by structural items

end

end Tree

/-- Every span that is read has text. Neighbours differ in their style throughout a text exactly when no image in a heading,
in a cell or in the text of an item joins two spans of one style. -/
theorem parse_spans_apart_iff (text : String) :
    (∀ spans ∈ (parse text).flatMap Element.spanRuns, SpansFilled spans) ∧
    ((∀ spans ∈ (parse text).flatMap Element.spanRuns, SpansApart spans) ↔
      ∀ content ∈ Block.imagelessAll false (Block.ofText text.toList), ¬ MeetAtImage (Piece.ofInline content)) := by
  have merged (content : List Inline) : Piece.Merged (Piece.ofInline content) := Piece.ofInlineFrom_merged {} content
  rw [parse_eq_readBlocks]
  constructor
  · rw [readBlocks_runs fun _ filled _ => filled]
    intro content _
    exact (merged content).spansOnly_filled
  · rw [readBlocks_runs fun _ _ apart => apart]
    simp only [(merged _).spansOnly_apart_iff, Option.isSome_none]

/-- The description of an image is a span of its own, between spans of its style. -/
theorem parse_spans_apart_fails :
    ¬ ∀ spans ∈ (parse "# a![b](http://x/i.png)c").flatMap Element.spanRuns, SpansFilled spans ∧ SpansApart spans := by
  have read : parse "# a![b](http://x/i.png)c" = [.heading 1 [⟨"a", .plain⟩, ⟨"b", .plain⟩, ⟨"c", .plain⟩]] := by
    decide +kernel
  rw [read]
  intro all
  obtain ⟨-, apart⟩ := all _ (List.mem_singleton_self _)
  exact (List.isChain_cons_cons.mp apart).1 rfl

end DocScribe.Markdown
