import DocScribe.Proofs.Markdown.BlockWords
import DocScribe.Proofs.Markdown.InlineNulls
import DocScribe.Proofs.Markdown.PageLines

/-! Where the texts of elements take U+0000 from. Normalizing a text removes it, so only an automatic link
can bring it back; the cells of tables are left out, as they are not part of the text around them. -/

namespace DocScribe.Markdown
open DocScribe Text

def SpansFree (spans : List Span) : Prop := ∀ span ∈ spans, null ∉ span.text.toList

def Piece.NullFree : Piece → Prop
  | .span written => null ∉ written.text.toList
  | .image _ _ alt => null ∉ alt.toList

/-- No text of the element but that of cells holds U+0000. -/
def Element.NullFree : Element → Prop
  | .heading _ spans | .paragraph spans | .listItem _ _ spans => SpansFree spans
  | .codeBlock text => null ∉ text.toList
  | _ => True

section Pieces

private theorem contribution_free {item : Inline} (free : item.NullFree) : null ∉ item.contribution.1 := by
  cases item with
  | html source =>
    rw [Inline.contribution, htmlText]
    split
    · rw [List.mem_singleton]
      split <;> decide
    · exact free
  | text | escaped | code => exact free
  | softBreak | hardBreak => decide
  | _ => exact List.not_mem_nil

private theorem addText_free {text : List Char} (own : null ∉ text) (style : Style) {pieces : List Piece}
    (free : ∀ piece ∈ pieces, piece.NullFree) : ∀ piece ∈ Piece.addText text style pieces, piece.NullFree := by
  have alone : (Piece.span ⟨.ofList text, style⟩).NullFree := by
    rw [Piece.NullFree, String.toList_ofList]
    exact own
  unfold Piece.addText
  split
  · exact free
  · split
    next next rest =>
      obtain ⟨first, others⟩ := List.forall_mem_cons.mp free
      split
      · refine List.forall_mem_cons.mpr ⟨?_, others⟩
        rw [Piece.NullFree, String.toList_append, String.toList_ofList, List.mem_append, not_or]
        exact ⟨own, first⟩
      · exact List.forall_mem_cons.mpr ⟨alone, free⟩
    · exact List.forall_mem_cons.mpr ⟨alone, free⟩

private theorem ofInlineFrom_free (styles : OpenStyles) {items : List Inline} (free : ∀ item ∈ items, item.NullFree) :
    ∀ piece ∈ Piece.ofInlineFrom styles items, piece.NullFree := by
  induction items generalizing styles with
  | nil => exact List.forall_mem_nil _
  | cons item items ih =>
    obtain ⟨own, others⟩ := List.forall_mem_cons.mp free
    have more := ih (styles.after item) others
    cases item with
    | image source alt =>
      rw [Piece.ofInlineFrom]
      split
      · exact more
      · refine List.forall_mem_cons.mpr ⟨?_, more⟩
        rw [Piece.NullFree, String.toList_ofList]
        exact own
    | _ => exact addText_free (contribution_free own) _ more

private theorem spansOnly_free {pieces : List Piece} (free : ∀ piece ∈ pieces, piece.NullFree) : SpansFree (spansOnly pieces) := by
  intro span among
  obtain ⟨piece, member, same⟩ := List.mem_filterMap.mp among
  cases piece with
  | span own =>
    cases same
    exact free (.span span) member
  | image source isRemote alt =>
    dsimp only at same
    split at same
    · cases same
    · cases same
      exact free (.image source isRemote alt) member

private theorem trimStartSpans_free {spans : List Span} (free : SpansFree spans) : SpansFree (trimStartSpans spans) := by
  induction spans with
  | nil => exact free
  | cons span spans ih =>
    obtain ⟨own, others⟩ := List.forall_mem_cons.mp free
    unfold trimStartSpans
    split
    · exact ih others
    · refine List.forall_mem_cons.mpr ⟨fun among => own ?_, others⟩
      rw [trimStart, String.toList_ofList] at among
      exact (List.dropWhile_suffix _).subset among

private theorem trimEndSpans_free {spans : List Span} (free : SpansFree spans) : SpansFree (trimEndSpans spans) := by
  induction spans with
  | nil => exact free
  | cons span spans ih =>
    obtain ⟨own, others⟩ := List.forall_mem_cons.mp free
    unfold trimEndSpans
    split
    · split
      · exact List.forall_mem_nil _
      · refine List.forall_mem_singleton.mpr fun among => own ?_
        rw [trimEnd, String.toList_ofList] at among
        exact (prefix_trimEndBy _ _).subset among
    · exact List.forall_mem_cons.mpr ⟨own, ih others⟩

private theorem segmentElement_free {segment : List Span} (free : SpansFree segment) :
    ∀ element ∈ segmentElement segment, element.NullFree := by
  have trimmed := trimEndSpans_free (trimStartSpans_free free)
  unfold segmentElement
  split
  · exact List.forall_mem_nil _
  · exact List.forall_mem_singleton.mpr trimmed

private theorem splitAtImages_free {segment : List Span} (kept : SpansFree segment) {pieces : List Piece}
    (free : ∀ piece ∈ pieces, piece.NullFree) : ∀ element ∈ splitAtImages segment pieces, element.NullFree := by
  induction pieces generalizing segment with
  | nil => exact segmentElement_free kept
  | cons piece pieces ih =>
    obtain ⟨own, others⟩ := List.forall_mem_cons.mp free
    cases piece with
    | span span => exact ih (List.forall_mem_append.mpr ⟨kept, List.forall_mem_singleton.mpr own⟩) others
    | image source isRemote alt =>
      refine List.forall_mem_append.mpr ⟨segmentElement_free kept, ?_⟩
      exact List.forall_mem_cons.mpr ⟨trivial, ih (List.forall_mem_nil _) others⟩

end Pieces

namespace Walk

def NullFree (walk : Walk) : Prop := ∀ element ∈ walk.elements, element.NullFree

variable {walk : Walk}

theorem NullFree.emit (free : walk.NullFree) {elements : List Element} (own : ∀ element ∈ elements, element.NullFree) :
    (walk.emit elements).NullFree := List.forall_mem_append.mpr ⟨free, own⟩

theorem NullFree.enter (free : walk.NullFree) (frame : Frame) : (walk.enter frame).NullFree := by
  cases frame <;> exact free

theorem NullFree.leave (free : walk.NullFree) (frame : Frame) : (walk.leave frame).NullFree := by
  cases frame with
  | table =>
    have closed : NullFree { walk with inTable := false, rows := [] } := free
    refine closed.emit ?_
    unfold tableElement
    split
    · exact List.forall_mem_nil _
    · exact List.forall_mem_singleton.mpr trivial
  | _ => exact free

theorem NullFree.content (free : walk.NullFree) {items : List Inline} (own : ∀ item ∈ items, item.NullFree) :
    (walk.content items).NullFree := by
  have pieces := ofInlineFrom_free {} own
  have spans := spansOnly_free pieces
  unfold Walk.content
  dsimp only
  split
  · exact free
  · split
    · exact free.emit (List.forall_mem_singleton.mpr spans)
    · split
      next ordered outer done _ _ =>
        have marked : NullFree { walk with itemsDone := true :: done } := free
        exact marked.emit (List.forall_mem_singleton.mpr spans)
      · exact free.emit (splitAtImages_free (List.forall_mem_nil _) pieces)

private theorem htmlElement_free {source : String} (free : null ∉ source.toList) :
    ∀ element ∈ htmlElement source, element.NullFree := by
  unfold htmlElement
  split
  · exact List.forall_mem_nil _
  · refine List.forall_mem_singleton.mpr (List.forall_mem_singleton.mpr fun among => free ?_)
    rw [String.toList_ofList] at among
    exact (prefix_trimEndBy _ _).subset among

/-- Reading these tokens brings no U+0000 into the elements. -/
def Keeps (tokens : List Token) : Prop := ∀ walk : Walk, walk.NullFree → (walk.run tokens).NullFree

namespace Keeps

private theorem nil : Keeps [] := fun _ free => free

theorem append {first second : List Token} (one : Keeps first) (other : Keeps second) : Keeps (first ++ second) := by
  intro walk free
  rw [Walk.run, List.foldl_append]
  exact other _ (one walk free)

private theorem framed (frame : Frame) {inside : List Token} (keeps : Keeps inside) : Keeps (Token.framed frame inside) :=
  have opening : Keeps [.opens frame] := fun _ free => free.enter frame
  have closing : Keeps [.closes frame] := fun _ free => free.leave frame
  (opening.append keeps).append closing

private theorem content {items : List Inline} (own : ∀ item ∈ items, item.NullFree) : Keeps [.content items] :=
  fun _ free => free.content own

end Keeps

section Tables

/-- What stands between the ends of a table. -/
def IsCellToken : Token → Prop
  | .opens frame | .closes frame => frame = .row ∨ frame = .cell
  | .content _ => True
  | _ => False

private theorem step_cellToken (inside : walk.inTable = true) {token : Token} (own : IsCellToken token) :
    (walk.step token).inTable = true ∧ (walk.step token).elements = walk.elements := by
  cases token with
  | opens frame => obtain rfl | rfl := own <;> exact ⟨inside, rfl⟩
  | closes frame => obtain rfl | rfl := own <;> exact ⟨inside, rfl⟩
  | content items =>
    have same : walk.step (.content items) = { walk with cell := spansOnly (Piece.ofInline items) } := if_pos inside
    rw [same]
    exact ⟨inside, rfl⟩
  | code | rule | html => exact own.elim

private theorem run_cellTokens (inside : walk.inTable = true) {tokens : List Token} (own : ∀ token ∈ tokens, IsCellToken token) :
    (walk.run tokens).elements = walk.elements := by
  induction tokens generalizing walk with
  | nil => rfl
  | cons token tokens ih =>
    obtain ⟨first, others⟩ := List.forall_mem_cons.mp own
    obtain ⟨still, same⟩ := step_cellToken inside first
    exact (ih still others).trans same

/-- A table takes its content into its cells. -/
theorem Keeps.table {inside : List Token} (own : ∀ token ∈ inside, IsCellToken token) :
    Keeps (Token.framed .table inside) := by
  intro walk free
  have entered : (walk.enter .table).inTable = true := rfl
  have kept : ((walk.enter .table).run inside).NullFree := by
    rw [NullFree, run_cellTokens entered own]
    exact free
  rw [Walk.run, Token.framed, List.cons_append, List.foldl_cons, List.foldl_append]
  exact kept.leave .table

private theorem isCellToken_framed {frame : Frame} (own : frame = .row ∨ frame = .cell) {inside : List Token}
    (inner : ∀ token ∈ inside, IsCellToken token) : ∀ token ∈ Token.framed frame inside, IsCellToken token := by
  refine List.forall_mem_append.mpr ⟨List.forall_mem_cons.mpr ⟨own, inner⟩, ?_⟩
  exact List.forall_mem_singleton.mpr own

private theorem isCellToken_rows (rows : List (List (List Inline))) :
    ∀ token ∈ rows.flatMap fun row => Token.framed .row (row.flatMap fun cell => Token.framed .cell [.content cell]),
      IsCellToken token := by
  refine List.forall_mem_flatMap.mpr fun row _ => isCellToken_framed (.inl rfl) ?_
  refine List.forall_mem_flatMap.mpr fun cell _ => isCellToken_framed (.inr rfl) ?_
  exact List.forall_mem_singleton.mpr trivial

end Tables

end Walk

section Blocks
open Walk

theorem keeps_blocks {read : List Char → List Inline} {blocks : List RawBlock}
    (keeps : ∀ block ∈ blocks, Keeps (Token.ofBlock (RawBlock.resolve read block))) :
    Keeps (Token.ofBlocks (RawBlock.resolveAll read blocks)) := by
  induction blocks with
  | nil => exact .nil
  | cons block blocks ih =>
    obtain ⟨own, others⟩ := List.forall_mem_cons.mp keeps
    exact own.append (ih others)

private theorem checkbox_free (text : List Char) : null ∉ Task.checkbox text := by
  unfold Task.checkbox
  split
  · split <;> decide
  · exact List.not_mem_nil

private theorem mark_free (text : List Char) {items : List Inline} (free : ∀ item ∈ items, item.NullFree) :
    ∀ item ∈ Task.mark text items, item.NullFree := by
  unfold Task.mark
  split
  · refine List.forall_mem_cons.mpr ⟨checkbox_free text, ?_⟩
    unfold Task.cutBox
    split
    next chars rest =>
      obtain ⟨own, others⟩ := List.forall_mem_cons.mp free
      exact List.forall_mem_cons.mpr ⟨fun among => own ((List.drop_suffix _ _).subset among), others⟩
    · exact free
  · exact free

variable {source : List Char} (free : null ∉ source) (uncoded : ¬ CodesNull source) (definitions : Definitions)
include free

private theorem null_not_mem_words {text : List Char} (words : WordsOf source text) : null ∉ text := fun among =>
  (words.holds among).elim (by decide) free

include uncoded

private theorem items_free {text : List Char} (words : WordsOf source text) :
    ∀ item ∈ Inline.ofText definitions text, item.NullFree :=
  ofText_free definitions (null_not_mem_words free words) (mt (CodesNull.of_words words) uncoded)

private theorem keeps_items {items : List (List RawBlock)}
    (words : ∀ item ∈ items, ∀ block ∈ item, block.AllTexts (WordsOf source))
    (keeps : ∀ item ∈ items, ∀ block ∈ item, Keeps (Token.ofBlock (RawBlock.resolve (Inline.ofText definitions) block))) :
    Keeps (Token.ofItems (RawBlock.resolveItems (Inline.ofText definitions) items)) := by
  induction items with
  | nil => exact .nil
  | cons item items ih =>
    obtain ⟨own, others⟩ := List.forall_mem_cons.mp words
    obtain ⟨first, rest⟩ := List.forall_mem_cons.mp keeps
    have later := ih others rest
    unfold RawBlock.resolveItems
    split
    · exact .nil
    next text blocks _ same =>
      cases same
      have marked : Keeps (Token.ofBlock (.paragraph (Task.mark text (Inline.ofText definitions text)))) := by
        cases own _ List.mem_cons_self with
        | paragraph words => exact (Keeps.content (mark_free text (items_free free uncoded definitions words))).framed _
      have inner := keeps_blocks (List.forall_mem_cons.mp first).2
      exact ((marked.append inner).framed _).append later
    next same =>
      cases same
      exact ((keeps_blocks first).framed _).append later

private theorem keeps_block {block : RawBlock} (words : block.AllTexts (WordsOf source)) :
    Keeps (Token.ofBlock (RawBlock.resolve (Inline.ofText definitions) block)) := by
  induction words with
  | paragraph own => exact (Keeps.content (items_free free uncoded definitions own)).framed _
  | heading own => exact (Keeps.content (items_free free uncoded definitions own)).framed _
  | list words ih => exact (keeps_items free uncoded definitions words ih).framed _
  | quote _ ih => exact (keeps_blocks ih).framed _
  | table => exact .table (isCellToken_rows _)
  | code own =>
    have kept := null_not_mem_words free (own.piece (Walk.codeText_prefix _).isInfix)
    exact fun _ before => before.emit (List.forall_mem_singleton.mpr kept)
  | rule => exact fun _ kept => kept.emit (List.forall_mem_singleton.mpr trivial)
  | html own => exact fun _ kept => kept.emit (htmlElement_free (null_not_mem_words free own))

end Blocks

private theorem normalize_null (text : List Char) : null ∉ Line.ofText.normalize text := by
  intro among
  exact (isClean_normalize text null among).2 rfl

/-- The texts that a Markdown text is read as hold U+0000 only if one of its automatic links codes it. -/
theorem parse_free (text : String) (uncoded : ¬ CodesNull (Line.ofText.normalize text.toList)) :
    ∀ element ∈ parse text, element.NullFree := by
  have blocks := ofText_words text.toList
  have keeps : Walk.Keeps (Token.ofBlocks (Block.ofText text.toList)) :=
    keeps_blocks fun block among => keeps_block (normalize_null _) uncoded _ (blocks block among)
  exact keeps {} (List.forall_mem_nil _)

end DocScribe.Markdown
